import ZkArche.Lib.Bytes

/-!
# Two computations with the same outcome

Two programs compute in `Except` with their own values and their own errors.  They have the *same
outcome* when both succeed with related values or both fail with related errors.

The rules follow the shape of the programs.  Two guards on the same condition, two sequences whose
halves correspond, and two folds whose steps correspond have the same outcome.
-/

/-- Both succeed with related values, or both fail with related errors. -/
inductive SameOutcome {ε δ α β : Type} (E : ε → δ → Prop) (R : α → β → Prop) :
    Except ε α → Except δ β → Prop where
  | ok {a : α} {b : β} : R a b → SameOutcome E R (.ok a) (.ok b)
  | error {e : ε} {d : δ} : E e d → SameOutcome E R (.error e) (.error d)

namespace SameOutcome

variable {ε δ α β σ τ : Type} {E : ε → δ → Prop} {R : α → β → Prop} {S : σ → τ → Prop}

theorem mono {R' : α → β → Prop} {x : Except ε α} {y : Except δ β} (h : SameOutcome E R x y)
    (hR : ∀ a b, R a b → R' a b) : SameOutcome E R' x y := by
  cases h with
  | ok hab => exact .ok (hR _ _ hab)
  | error he => exact .error he

theorem of_ok {a : α} {y : Except δ β} (h : SameOutcome E R (.ok a) y) :
    ∃ b, y = .ok b ∧ R a b := by
  cases h with
  | ok hab => exact ⟨_, rfl, hab⟩

theorem of_ok_right {b : β} {x : Except ε α} (h : SameOutcome E R x (.ok b)) :
    ∃ a, x = .ok a ∧ R a b := by
  cases h with
  | ok hab => exact ⟨_, rfl, hab⟩

/-- Equal values: one succeeds with a value exactly when the other does. -/
theorem eq_ok_iff {x : Except ε α} {y : Except δ α} {a : α} (h : SameOutcome E Eq x y) :
    x = .ok a ↔ y = .ok a := by
  cases h with
  | ok hab => rw [hab, Except.ok.injEq, Except.ok.injEq]
  | error _ => exact ⟨nofun, nofun⟩

/-- What is known of the value on the right. -/
theorem and_right {P : β → Prop} {x : Except ε α} {y : Except δ β} (h : SameOutcome E R x y)
    (hP : ∀ b, y = .ok b → P b) : SameOutcome E (fun a b => R a b ∧ P b) x y := by
  cases h with
  | ok hab => exact .ok ⟨hab, hP _ rfl⟩
  | error he => exact .error he

/-- Renamed errors. -/
theorem mapError {ε' δ' : Type} {E' : ε' → δ' → Prop} {f : ε → ε'} {g : δ → δ'}
    {x : Except ε α} {y : Except δ β} (h : SameOutcome E R x y)
    (hE : ∀ e d, E e d → E' (f e) (g d)) : SameOutcome E' R (x.mapError f) (y.mapError g) := by
  cases h with
  | ok hab => exact .ok hab
  | error he => exact .error (hE _ _ he)

/-- One after the other. -/
theorem bind {x : Except ε α} {y : Except δ β} {f : α → Except ε σ} {g : β → Except δ τ}
    (hxy : SameOutcome E R x y) (hfg : ∀ a b, R a b → SameOutcome E S (f a) (g b)) :
    SameOutcome E S (x >>= f) (y >>= g) := by
  cases hxy with
  | ok hab => exact hfg _ _ hab
  | error he => exact .error he

/-- A guard in front of the rest. -/
theorem guard {c d : Prop} [Decidable c] [Decidable d] {e : ε} {e' : δ} {x : Except ε α}
    {y : Except δ β} (hcd : c ↔ d) (he : E e e') (hxy : c → SameOutcome E R x y) :
    SameOutcome E R (ensure c e >>= fun _ => x) (ensure d e' >>= fun _ => y) := by
  by_cases hc : c
  · rw [ensure_pos hc, ensure_pos (hcd.mp hc)]
    exact hxy hc
  · rw [ensure_neg hc, ensure_neg (fun hd => hc (hcd.mpr hd))]
    exact .error he

/-- Folds over one list whose steps correspond on its elements. -/
theorem foldlM {f : σ → α → Except ε σ} {g : τ → α → Except δ τ} {as : List α}
    (hstep : ∀ a ∈ as, ∀ s t, S s t → SameOutcome E S (f s a) (g t a)) {s : σ} {t : τ}
    (hst : S s t) : SameOutcome E S (as.foldlM f s) (as.foldlM g t) := by
  induction as generalizing s t with
  | nil => exact .ok hst
  | cons a as ih =>
      rw [List.foldlM_cons, List.foldlM_cons]
      refine bind (hstep a List.mem_cons_self s t hst) ?_
      intro s' t' hst'
      exact ih (fun b hb => hstep b (List.mem_cons_of_mem a hb)) hst'

end SameOutcome
