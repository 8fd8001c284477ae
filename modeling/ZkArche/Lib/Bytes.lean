import Mathlib.Data.List.Basic
import Mathlib.Tactic.Ring

/-!
# Byte strings and fallible reads

A *fixed-length byte string* `Bytes n` carries its length, so an array of the
wrong size cannot be built.  A variable-length buffer is a `List UInt8`.

Numbers are stored little-endian.  `leNat` reads a list as a number and `natLE`
writes the low `n` bytes of a number.  They are inverse on lists of length `n`
(`natLE_leNat`) and on numbers below `256 ^ n` (`leNat_natLE`).

A decoder is a function into `Except`.  Three small tools keep decoders readable
and invertible.  `ensure` is a guard, `takeFixed` splits a fixed-length field off
the front of a buffer, and `Except.bind_eq_ok_iff` opens a sequence of reads that
succeeded.
-/

/-! ## Fallible computations -/

/-- A sequence succeeds exactly when both halves do. -/
theorem Except.bind_eq_ok_iff {ε α β : Type} {x : Except ε α} {f : α → Except ε β} {b : β} :
    (x >>= f) = .ok b ↔ ∃ a, x = .ok a ∧ f a = .ok b := by
  cases x with
  | error e => simp [bind, Except.bind]
  | ok a => simp [bind, Except.bind]

/-- A value that is rewrapped was there before. -/
theorem Except.map_eq_ok_iff {ε α β : Type} {f : α → β} {x : Except ε α} {b : β} :
    x.map f = .ok b ↔ ∃ a, x = .ok a ∧ f a = b := by
  cases x with
  | error e => simp [Except.map]
  | ok a => simp [Except.map]

@[simp] theorem Except.ok_bind' {ε α β : Type} (a : α) (f : α → Except ε β) :
    ((Except.ok a : Except ε α) >>= f) = f a := rfl

@[simp] theorem Except.error_bind' {ε α β : Type} (e : ε) (f : α → Except ε β) :
    ((Except.error e : Except ε α) >>= f) = .error e := rfl

@[simp] theorem Except.pure_eq_ok {ε α : Type} (a : α) :
    (pure a : Except ε α) = .ok a := rfl

/-- A guard: fail with `e` unless `c` holds. -/
def ensure {ε : Type} (c : Prop) [Decidable c] (e : ε) : Except ε Unit :=
  if c then .ok () else .error e

@[simp] theorem ensure_eq_ok_iff {ε : Type} {c : Prop} [Decidable c] {e : ε} {u : Unit} :
    ensure c e = .ok u ↔ c := by
  unfold ensure
  split <;> simp_all

@[simp] theorem ensure_pos {ε : Type} {c : Prop} [Decidable c] {e : ε} (h : c) :
    ensure c e = .ok () := by
  simp [ensure, h]

@[simp] theorem ensure_neg {ε : Type} {c : Prop} [Decidable c] {e : ε} (h : ¬ c) :
    ensure c e = .error e := by
  simp [ensure, h]

/-! ## Fixed-length byte strings -/

/-- A byte string of length exactly `n`. -/
@[ext] structure Bytes (n : Nat) where
  /-- The bytes. -/
  val : List UInt8
  /-- There are `n` of them. -/
  len : val.length = n
deriving DecidableEq

namespace Bytes

attribute [simp] Bytes.len

/-- The all-zero byte string. -/
def zero (n : Nat) : Bytes n := ⟨List.replicate n 0, by simp⟩

instance {n : Nat} : Inhabited (Bytes n) := ⟨zero n⟩

/-- Two byte strings with the same bytes are equal. -/
theorem val_inj {n : Nat} {a b : Bytes n} : a.val = b.val ↔ a = b := by
  constructor
  · exact Bytes.ext
  · intro h
    rw [h]

/-- Cut a field out of a string that is long enough. -/
def cut {m : Nat} (b : Bytes m) (start n : Nat) (h : start + n ≤ m) : Bytes n :=
  ⟨(b.val.drop start).take n, by simp [b.len]; omega⟩

end Bytes

/-! ## ASCII constants -/

/-- The bytes of a text constant, without a terminating NUL. -/
def ascii (s : String) : List UInt8 := s.toUTF8.data.toList

@[simp] theorem ascii_append (a b : String) : ascii (a ++ b) = ascii a ++ ascii b := by
  simp [ascii]

/-! ## Little-endian numbers -/

/-- The number a byte list encodes, least significant byte first. -/
def leNat : List UInt8 → Nat
  | [] => 0
  | b :: bs => b.toNat + 256 * leNat bs

/-- The low `n` bytes of a number, least significant byte first. -/
def natLE : Nat → Nat → List UInt8
  | 0, _ => []
  | n + 1, x => UInt8.ofNat x :: natLE n (x / 256)

@[simp] theorem natLE_length (n x : Nat) : (natLE n x).length = n := by
  induction n generalizing x with
  | zero => rfl
  | succ n ih => simp [natLE, ih]

theorem leNat_lt (l : List UInt8) : leNat l < 256 ^ l.length := by
  induction l with
  | nil => simp [leNat]
  | cons b bs ih =>
      have hb : b.toNat < 256 := b.toNat_lt
      simp only [leNat, List.length_cons, Nat.pow_succ]
      omega

theorem leNat_natLE_mod (n x : Nat) : leNat (natLE n x) = x % 256 ^ n := by
  induction n generalizing x with
  | zero => simp [natLE, leNat, Nat.mod_one]
  | succ n ih =>
      have hb : (UInt8.ofNat x).toNat = x % 256 := by simp
      rw [natLE, leNat, ih, hb, Nat.pow_succ, Nat.mul_comm (256 ^ n) 256, Nat.mod_mul]

/-- Writing a small enough number and reading it back. -/
theorem leNat_natLE {n x : Nat} (h : x < 256 ^ n) : leNat (natLE n x) = x := by
  rw [leNat_natLE_mod, Nat.mod_eq_of_lt h]

/-- Reading a list and writing it back. -/
theorem natLE_leNat (l : List UInt8) : natLE l.length (leNat l) = l := by
  induction l with
  | nil => rfl
  | cons b bs ih =>
      have hb : b.toNat < 256 := b.toNat_lt
      have h1 : UInt8.ofNat (b.toNat + 256 * leNat bs) = b := by
        apply UInt8.toNat_inj.mp
        simp
      have h2 : (b.toNat + 256 * leNat bs) / 256 = leNat bs := by omega
      rw [List.length_cons, leNat, natLE, h1, h2, ih]

/-! ## Reading fields off the front of a buffer -/

/-- Split `n` bytes off the front of a buffer, or fail with `e`. -/
def takeFixed {ε : Type} (e : ε) (n : Nat) (buf : List UInt8) :
    Except ε (Bytes n × List UInt8) :=
  if h : n ≤ buf.length then
    .ok (⟨buf.take n, by simp [h]⟩, buf.drop n)
  else .error e

/-- A successful read splits the buffer. -/
theorem takeFixed_eq_ok_iff {ε : Type} {e : ε} {n : Nat} {buf rest : List UInt8} {b : Bytes n} :
    takeFixed e n buf = .ok (b, rest) ↔ buf = b.val ++ rest := by
  unfold takeFixed
  constructor
  · intro h
    split at h
    · cases h
      simp
    · cases h
  · intro h
    subst h
    rw [dif_pos (by simp)]
    congr 2
    · apply Bytes.ext
      exact List.take_left' b.len
    · exact List.drop_left' b.len

@[simp] theorem takeFixed_append {ε : Type} (e : ε) {n : Nat} (b : Bytes n) (rest : List UInt8) :
    takeFixed e n (b.val ++ rest) = .ok (b, rest) :=
  takeFixed_eq_ok_iff.mpr rfl

@[simp] theorem takeFixed_self {ε : Type} (e : ε) {n : Nat} (b : Bytes n) :
    takeFixed e n b.val = .ok (b, []) :=
  takeFixed_eq_ok_iff.mpr (by simp)
