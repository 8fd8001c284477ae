import Mathlib.Data.List.Perm.Basic

/-!
# The first match in some order

A search commits to the first element of a list that matches.  When the order of the list is
not fixed, every matching element can come first, so the outcome of the search does not
depend on the order exactly when all matching elements have the same outcome.
-/

namespace FirstMatch

variable {α β : Type} {p : α → Bool} {l : List α}

/-- An element that matches comes first in some order. -/
theorem exists_perm_first {a : α} (ha : a ∈ l) (hp : p a = true) :
    ∃ l' : List α, l'.Perm l ∧ l'.find? p = some a := by
  obtain ⟨s, t, rfl⟩ := List.append_of_mem ha
  exact ⟨a :: (s ++ t), List.perm_middle.symm, List.find?_cons_of_pos hp⟩

/-- The outcome of the first match is the same in every order exactly when all matching elements
have one outcome. -/
theorem order_free_iff {f : α → Option β} :
    (∀ l₁ l₂ : List α, l₁.Perm l → l₂.Perm l →
      (l₁.find? p).bind f = (l₂.find? p).bind f) ↔
    ∀ a ∈ l, ∀ b ∈ l, p a = true → p b = true → f a = f b := by
  constructor
  · intro h a ha b hb hpa hpb
    obtain ⟨l₁, h₁, hf₁⟩ := exists_perm_first ha hpa
    obtain ⟨l₂, h₂, hf₂⟩ := exists_perm_first hb hpb
    simpa [hf₁, hf₂] using h l₁ l₂ h₁ h₂
  · intro h l₁ l₂ h₁ h₂
    cases hf₁ : l₁.find? p with
    | none =>
        have hnone : l₂.find? p = none := by
          rw [List.find?_eq_none] at hf₁ ⊢
          exact fun x hx => hf₁ x ((h₂.trans h₁.symm).subset hx)
        rw [hnone]
    | some a =>
        have hpa := List.find?_some hf₁
        have ha := h₁.subset (List.mem_of_find?_eq_some hf₁)
        cases hf₂ : l₂.find? p with
        | none =>
            exact absurd hpa (List.find?_eq_none.mp hf₂ a (h₂.symm.subset ha))
        | some b =>
            have hpb := List.find?_some hf₂
            have hb := h₂.subset (List.mem_of_find?_eq_some hf₂)
            exact h a ha b hb hpa hpb

end FirstMatch
