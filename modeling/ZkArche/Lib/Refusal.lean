import Mathlib.Logic.Basic

/-!
# Steps in order until one is refused

A *responder* is asked for a step, changes its state and answers whether the step was done.  A
routine asks for the steps of a list one after the other and stops at the first refusal, with a
result that belongs to the refused step (`askInOrder`).

`Asked apply steps s log s'` says which calls this makes from the state `s`: the calls `log` are a
prefix of the steps, all but the last are answered with yes, and the last one is a refusal unless
the steps are at their end.  The log can be written by the responder itself (`Responder.logged`),
which changes neither the answers nor the state (`askInOrder_logged`).
-/

namespace ZkArche

/-- Answers a step and changes its state. -/
abbrev Responder (α σ : Type) : Type := α → σ → Bool × σ

/-- Asks for the steps in order.  Each step comes with the result of its refusal. -/
def askInOrder {α ρ σ : Type} (done : ρ) (apply : Responder α σ) : List (α × ρ) → σ → ρ × σ
  | [], s => (done, s)
  | (step, refused) :: rest, s =>
      match apply step s with
      | (true, s') => askInOrder done apply rest s'
      | (false, s') => (refused, s')

/-- The calls made by asking for the steps in order, with their answers, and the state after. -/
inductive Asked {α σ : Type} (apply : Responder α σ) : List α → σ → List (α × Bool) → σ → Prop where
  | done {s : σ} : Asked apply [] s [] s
  | refused {step : α} {steps : List α} {s s' : σ} : apply step s = (false, s') →
      Asked apply (step :: steps) s [(step, false)] s'
  | accepted {step : α} {steps : List α} {s s' s'' : σ} {log : List (α × Bool)} :
      apply step s = (true, s') → Asked apply steps s' log s'' →
      Asked apply (step :: steps) s ((step, true) :: log) s''

/-- The responder that also writes down what it is asked and what it answers. -/
def Responder.logged {α σ : Type} (apply : Responder α σ) : Responder α (σ × List (α × Bool)) :=
  fun step state =>
    let answer := apply step state.1
    (answer.1, answer.2, state.2 ++ [(step, answer.1)])

section

variable {α ρ σ : Type} {apply : Responder α σ} {steps : List (α × ρ)} {done : ρ}

/-- A call that ends the routine when it is refused, in front of the calls for the other steps. -/
theorem guarded_eq_askInOrder {step : α} {refused : ρ} {k : StateM σ ρ}
    (hk : ∀ s, k s = askInOrder done apply steps s) (s : σ) :
    (do if !(← (apply step : StateM σ Bool)) then return refused
        k : StateM σ ρ) s = askInOrder done apply ((step, refused) :: steps) s := by
  show (match apply step s with
    | (answer, s') => (if (!answer) = true then pure refused else k : StateM σ ρ) s') = _
  rcases happly : apply step s with ⟨answer, s'⟩
  cases answer with
  | false => simp only [askInOrder, happly]; rfl
  | true =>
      simp only [askInOrder, happly]
      exact hk s'

theorem Asked.ne_nil {step : α} {rest : List α} {s s' : σ} {log : List (α × Bool)}
    (h : Asked apply (step :: rest) s log s') : log ≠ [] := by
  cases h with
  | refused _ => exact List.cons_ne_nil _ _
  | accepted _ _ => exact List.cons_ne_nil _ _

/-- Asking ends with a log, and a responder that logs has written exactly that one.  The result is
`done` when every step was asked for and none refused. -/
theorem askInOrder_logged (apply : Responder α σ) (hdone : ∀ p ∈ steps, p.2 ≠ done) (s : σ)
    (before : List (α × Bool)) :
    ∃ r s' log, askInOrder done apply steps s = (r, s') ∧
      askInOrder done apply.logged steps (s, before) = (r, s', before ++ log) ∧
      Asked apply (steps.map Prod.fst) s log s' ∧
      (r = done ↔ log = steps.map fun p => (p.1, true)) := by
  induction steps generalizing s before with
  | nil => exact ⟨done, s, [], rfl, by rw [List.append_nil]; rfl, .done, iff_of_true rfl rfl⟩
  | cons p rest ih =>
      obtain ⟨step, refused⟩ := p
      have hrest := fun p hp => hdone p (List.mem_cons_of_mem _ hp)
      rcases happly : apply step s with ⟨answer, s'⟩
      cases answer with
      | false =>
          refine ⟨refused, s', [(step, false)], ?_, ?_, .refused happly, ?_⟩
          · simp only [askInOrder, happly]
          · simp only [askInOrder, Responder.logged, happly]
          · refine iff_of_false (hdone _ List.mem_cons_self) ?_
            simp
      | true =>
          obtain ⟨r, s'', log, hrun, hlogged, hasked, hiff⟩ :=
            ih hrest s' (before ++ [(step, true)])
          refine ⟨r, s'', (step, true) :: log, ?_, ?_, .accepted happly hasked, ?_⟩
          · simpa only [askInOrder, happly] using hrun
          · simpa only [askInOrder, Responder.logged, happly, List.append_assoc,
              List.singleton_append] using hlogged
          · rw [hiff, List.map_cons, List.cons.injEq, and_iff_right rfl]

end

end ZkArche
