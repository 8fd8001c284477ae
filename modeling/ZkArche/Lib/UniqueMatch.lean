import Mathlib.Data.List.Perm.Basic
import Mathlib.Data.List.Count

/-!
# The only match

A search that wants exactly one match tells three cases apart: nothing matches, one element does,
or several do.  Only the elements that match decide, so neither the order of the list nor the other
elements matter.
-/

/-- What matches in a list. -/
inductive UniqueMatch (α : Type) where
  | none
  | one (a : α)
  | several

namespace UniqueMatch

variable {α : Type} {p : α → Bool} {l l' : List α} {a : α}

/-- What matches in a list of matches. -/
def ofMatches : List α → UniqueMatch α
  | [] => .none
  | [a] => .one a
  | _ :: _ :: _ => .several

/-- What matches in a list. -/
def find (p : α → Bool) (l : List α) : UniqueMatch α := ofMatches (l.filter p)

theorem find_eq_none_iff : find p l = .none ↔ l.countP p = 0 := by
  rw [find, List.countP_eq_length_filter]
  rcases l.filter p with _ | ⟨b, _ | ⟨c, m⟩⟩ <;> simp [ofMatches]

theorem find_eq_several_iff : find p l = .several ↔ 2 ≤ l.countP p := by
  rw [find, List.countP_eq_length_filter]
  rcases l.filter p with _ | ⟨b, _ | ⟨c, m⟩⟩ <;> simp [ofMatches]

theorem find_eq_one_iff : find p l = .one a ↔ l.countP p = 1 ∧ a ∈ l ∧ p a = true := by
  rw [find, List.countP_eq_length_filter, ← List.mem_filter]
  rcases l.filter p with _ | ⟨b, _ | ⟨c, m⟩⟩ <;> simp [ofMatches, eq_comm]

/-- The matches decide, in any order. -/
theorem find_of_perm (h : (l.filter p).Perm (l'.filter p)) : find p l = find p l' := by
  have hcount : l.countP p = l'.countP p := by
    rw [List.countP_eq_length_filter, List.countP_eq_length_filter, h.length_eq]
  cases hfind : find p l' with
  | none => rw [find_eq_none_iff, hcount, ← find_eq_none_iff, hfind]
  | several => rw [find_eq_several_iff, hcount, ← find_eq_several_iff, hfind]
  | one a =>
      rw [find_eq_one_iff, ← List.mem_filter] at hfind ⊢
      exact ⟨hcount.trans hfind.1, h.mem_iff.mpr hfind.2⟩

end UniqueMatch
