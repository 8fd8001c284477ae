import Mathlib.Data.List.GetD
import ZkArche.Lib.SameOutcome

/-!
# Reads that are checked

A routine reads a buffer at indices it computes.  A read at an index that the buffer does not have
ends it with `Halt.outside`, an outcome apart from the routine's own errors.  In one language this
is a panic and in another it is undefined.

A routine never reads outside when `Halt.outside` is not among its outcomes.  Two routines whose
outcomes correspond under `SameHalt` both have that property, since `SameHalt` relates errors only.
-/

/-- How a routine that reads a buffer stops early. -/
inductive Halt (ε : Type) where
  /-- It reports an error. -/
  | err (e : ε)
  /-- It reads at an index that the buffer does not have. -/
  | outside (i : ℕ)
deriving DecidableEq

section reads

variable {ε : Type} {buf : List UInt8} {i n : ℕ}

/-- The byte at an index. -/
def byteAt (buf : List UInt8) (i : ℕ) : Except (Halt ε) UInt8 :=
  if i < buf.length then .ok (buf.getD i 0) else .error (.outside i)

/-- The bytes from an index on. -/
def bytesAt (buf : List UInt8) (i n : ℕ) : Except (Halt ε) (List UInt8) :=
  if i + n ≤ buf.length then .ok ((buf.drop i).take n) else .error (.outside (i + n))

/-- The little-endian number at an index. -/
def u16At (buf : List UInt8) (i : ℕ) : Except (Halt ε) UInt16 := do
  let lo ← byteAt buf i
  let hi ← byteAt buf (i + 1)
  return UInt16.ofNat (leNat [lo, hi])

theorem byteAt_of_lt (h : i < buf.length) :
    (byteAt buf i : Except (Halt ε) UInt8) = .ok (buf.getD i 0) := if_pos h

theorem bytesAt_of_le (h : i + n ≤ buf.length) :
    (bytesAt buf i n : Except (Halt ε) (List UInt8)) = .ok ((buf.drop i).take n) := if_pos h

theorem u16At_of_le (h : i + 2 ≤ buf.length) :
    (u16At buf i : Except (Halt ε) UInt16) =
      .ok (UInt16.ofNat (leNat ((buf.drop i).take 2))) := by
  have hlo : i < buf.length := by omega
  have hhi : i + 1 < buf.length := by omega
  have htwo : (buf.drop i).take 2 = [buf.getD i 0, buf.getD (i + 1) 0] := by
    rw [List.drop_eq_getElem_cons hlo, List.drop_eq_getElem_cons hhi, List.getD_eq_getElem _ _ hlo,
      List.getD_eq_getElem _ _ hhi]
    rfl
  rw [u16At, byteAt_of_lt hlo, Except.ok_bind', byteAt_of_lt hhi, Except.ok_bind', htwo]
  rfl

end reads

/-! ## Routines that stop alike -/

/-- Both report an error, and the errors are related. -/
inductive SameHalt {ε δ : Type} (E : ε → δ → Prop) : Halt ε → Halt δ → Prop where
  | err {e : ε} {d : δ} : E e d → SameHalt E (.err e) (.err d)

namespace SameOutcome

variable {ε δ α β : Type} {E : ε → δ → Prop} {R : α → β → Prop}

/-- Routines that stop alike never read outside. -/
theorem not_outside {x : Except (Halt ε) α} {y : Except (Halt δ) β}
    (h : SameOutcome (SameHalt E) R x y) (i : ℕ) :
    x ≠ .error (.outside i) ∧ y ≠ .error (.outside i) := by
  cases h with
  | ok => exact ⟨by simp, by simp⟩
  | error h =>
      cases h with
      | err => exact ⟨by simp, by simp⟩

end SameOutcome
