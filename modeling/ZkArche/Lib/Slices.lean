import ZkArche.Lib.Bytes

/-!
# Slice operations that can be out of range

An index, a range, a split point or a copy may not fit the slice it is used on.  Each operation
here says what happens then: it ends with a `Fault`.  Each has one rule, named after it, that gives
its result when it fits.

A routine written with these operations never leaves a slice exactly when it has no fault among
its outcomes.
-/

namespace SliceOp

/-- How an operation does not fit its slice. -/
inductive Fault where
  | index (len i : ℕ)
  | range (len i j : ℕ)
  | split (len i : ℕ)
  | copy (len got : ℕ)
  | convert (len got : ℕ)
deriving DecidableEq

variable {α : Type} {xs : List α} {i j : ℕ}

/-- The element at an index. -/
def index (xs : List α) (i : ℕ) : Except Fault α :=
  match xs[i]? with
  | some x => .ok x
  | none => .error (.index xs.length i)

/-- The slice with one element replaced. -/
def store (xs : List α) (i : ℕ) (x : α) : Except Fault (List α) :=
  if i < xs.length then .ok (xs.set i x) else .error (.index xs.length i)

/-- The elements from `i` up to `j`. -/
def range (xs : List α) (i j : ℕ) : Except Fault (List α) :=
  if i ≤ j ∧ j ≤ xs.length then .ok ((xs.drop i).take (j - i)) else .error (.range xs.length i j)

/-- The elements from `i` on. -/
def since (xs : List α) (i : ℕ) : Except Fault (List α) :=
  if i ≤ xs.length then .ok (xs.drop i) else .error (.range xs.length i xs.length)

/-- The slice in two parts. -/
def splitAt (xs : List α) (i : ℕ) : Except Fault (List α × List α) :=
  if i ≤ xs.length then .ok (xs.take i, xs.drop i) else .error (.split xs.length i)

/-- The slice with all its elements replaced by those of a slice of the same length. -/
def copyFrom (xs src : List α) : Except Fault (List α) :=
  if src.length = xs.length then .ok src else .error (.copy xs.length src.length)

/-- An array of a length, filled from a slice. -/
def fillArray (n : ℕ) (src : List UInt8) : Except Fault (Bytes n) :=
  if h : src.length = n then .ok ⟨src, h⟩ else .error (.copy n src.length)

/-- The slice as an array of a length. -/
def toArray (n : ℕ) (xs : List UInt8) : Except Fault (Bytes n) :=
  if h : xs.length = n then .ok ⟨xs, h⟩ else .error (.convert n xs.length)

theorem index_of_lt (h : i < xs.length) : index xs i = .ok xs[i] := by
  simp [index, List.getElem?_eq_getElem h]

theorem store_of_lt (h : i < xs.length) (x : α) : store xs i x = .ok (xs.set i x) := if_pos h

theorem range_of_le (hij : i ≤ j) (hj : j ≤ xs.length) :
    range xs i j = .ok ((xs.drop i).take (j - i)) := if_pos ⟨hij, hj⟩

theorem since_of_le (h : i ≤ xs.length) : since xs i = .ok (xs.drop i) := if_pos h

theorem splitAt_of_le (h : i ≤ xs.length) : splitAt xs i = .ok (xs.take i, xs.drop i) := if_pos h

theorem copyFrom_of_length_eq {src : List α} (h : src.length = xs.length) :
    copyFrom xs src = .ok src := if_pos h

theorem fillArray_of_length_eq {n : ℕ} {src : List UInt8} (h : src.length = n) :
    fillArray n src = .ok ⟨src, h⟩ := dif_pos h

theorem toArray_of_length_eq {n : ℕ} {b : List UInt8} (h : b.length = n) :
    toArray n b = .ok ⟨b, h⟩ := dif_pos h

@[simp] theorem fillArray_val {n : ℕ} (b : Bytes n) : fillArray n b.val = .ok b := dif_pos b.len

end SliceOp
