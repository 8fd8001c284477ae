import ZkArche.Lib.Bytes

/-!
# The errors a computation can fail with

`FailsWith P x` says that every error of `x` satisfies `P`.  A sequence fails with what its
parts fail with, where a later part may rely on the earlier ones having succeeded.
-/

/-- Every error of the computation satisfies `P`. -/
def FailsWith {ε α : Type} (P : ε → Prop) (x : Except ε α) : Prop := ∀ e, x = .error e → P e

namespace FailsWith

variable {ε α β : Type} {P : ε → Prop}

theorem ok (a : α) : FailsWith P (.ok a : Except ε α) := by
  intro e h
  cases h

theorem error {e : ε} (h : P e) : FailsWith P (.error e : Except ε α) := by
  rintro _ ⟨⟩
  exact h

theorem of_ensure {c : Prop} [Decidable c] {e : ε} (h : ¬ c → P e) :
    FailsWith P (ensure c e) := by
  by_cases hc : c
  · rw [ensure_pos hc]
    exact ok ()
  · rw [ensure_neg hc]
    exact error (h hc)

/-- A sequence of computations. -/
theorem bind {x : Except ε α} {f : α → Except ε β} (hx : FailsWith P x)
    (hf : ∀ a, x = .ok a → FailsWith P (f a)) : FailsWith P (x >>= f) := by
  cases x with
  | error e => exact error (hx e rfl)
  | ok a => exact hf a rfl

theorem of_takeFixed {e : ε} (h : P e) (n : ℕ) (buf : List UInt8) :
    FailsWith P (takeFixed e n buf) := by
  unfold takeFixed
  split
  next => exact ok _
  next => exact error h

end FailsWith
