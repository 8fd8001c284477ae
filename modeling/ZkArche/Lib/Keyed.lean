import Mathlib.Data.List.Nodup

/-!
# Lists with keys

A list whose elements have keys is a finite map when no key occurs twice.  Putting an element
replaces the one with its key, at its place, or appends.  So the keys keep their order and stay
distinct, and a lookup sees the last element that was put under its key.
-/

namespace Keyed

variable {α κ : Type} [DecidableEq κ] {key : α → κ} {l : List α} {a : α} {k : κ}

/-- Put an element in the place of the one with its key, or at the end. -/
def upsert (key : α → κ) : List α → α → List α
  | [], a => [a]
  | b :: l, a => if key b = key a then a :: l else b :: upsert key l a

/-- The element with a key. -/
def get (key : α → κ) (l : List α) (k : κ) : Option α := l.find? fun a => key a = k

theorem get_cons (b : α) (l : List α) (k : κ) :
    get key (b :: l) k = if key b = k then some b else get key l k := by
  rw [get, List.find?_cons, get]
  by_cases h : key b = k <;> simp [h]

/-- A lookup sees what was put last. -/
theorem get_upsert : get key (upsert key l a) k = if key a = k then some a else get key l k := by
  induction l with
  | nil => rw [upsert, get_cons]
  | cons b l ih =>
      by_cases hb : key b = key a
      · rw [upsert, if_pos hb, get_cons, get_cons, hb]
        split <;> rfl
      · rw [upsert, if_neg hb, get_cons, get_cons, ih]
        by_cases hk : key b = k
        · rw [if_pos hk, if_pos hk, if_neg fun ha => hb (hk.trans ha.symm)]
        · rw [if_neg hk, if_neg hk]

/-- The keys stay in their places, and a new one comes last. -/
theorem keys_upsert :
    (upsert key l a).map key = if key a ∈ l.map key then l.map key else l.map key ++ [key a] := by
  induction l with
  | nil => simp [upsert]
  | cons b l ih =>
      by_cases hb : key b = key a
      · simp [upsert, hb]
      · have hb' : key a ≠ key b := Ne.symm hb
        simp only [upsert, if_neg hb, List.map_cons, ih, List.mem_cons, hb', false_or]
        split <;> rfl

theorem nodup_upsert (h : (l.map key).Nodup) : ((upsert key l a).map key).Nodup := by
  rw [keys_upsert]
  split
  next => exact h
  next hnew => exact h.append (List.nodup_singleton _) (List.disjoint_singleton.mpr hnew)

theorem length_upsert :
    (upsert key l a).length = if key a ∈ l.map key then l.length else l.length + 1 := by
  have h := congrArg List.length (@keys_upsert α κ _ key l a)
  rw [List.length_map] at h
  rw [h]
  split <;> simp

/-- The other elements stay in their places. -/
theorem upsert_other {b : α} {i : ℕ} (hb : l[i]? = some b) (hne : key b ≠ key a) :
    (upsert key l a)[i]? = some b := by
  induction l generalizing i with
  | nil => cases hb
  | cons c l ih =>
      by_cases hc : key c = key a
      · cases i with
        | zero =>
            cases hb
            exact absurd hc hne
        | succ i => rwa [upsert, if_pos hc]
      · cases i with
        | zero => rwa [upsert, if_neg hc]
        | succ i =>
            rw [upsert, if_neg hc]
            exact ih hb

/-- A new key comes last. -/
theorem upsert_of_new (h : key a ∉ l.map key) : upsert key l a = l ++ [a] := by
  induction l with
  | nil => rfl
  | cons b l ih =>
      rw [List.map_cons, List.mem_cons, not_or] at h
      rw [upsert, if_neg (Ne.symm h.1), ih h.2, List.cons_append]

/-- Putting at the place of the key. -/
theorem upsert_of_findIdx? {i : ℕ} (h : (l.findIdx? fun b => key b = key a) = some i) :
    upsert key l a = l.set i a := by
  induction l generalizing i with
  | nil => cases h
  | cons b l ih =>
      rw [List.findIdx?_cons] at h
      by_cases hb : key b = key a
      · simp only [hb, decide_true, if_true] at h
        cases h
        rw [upsert, if_pos hb, List.set_cons_zero]
      · simp only [hb, decide_false, Bool.false_eq_true, if_false] at h
        obtain ⟨j, hj, rfl⟩ := Option.map_eq_some_iff.mp h
        rw [upsert, if_neg hb, ih hj, List.set_cons_succ]

end Keyed
