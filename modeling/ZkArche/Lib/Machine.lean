import Mathlib.Data.List.Basic

/-!
# Deterministic machines and their histories

A machine answers one input at a time.  A *history* lists the answered inputs, newest
first, each with its answer.  `Run ok h s` says that the machine can reach the state `s`
with the history `h`, where every input was admitted by `ok` in the state it met.

An invariant relates a history and a state.  It holds of every run when it holds at the
start and every admitted input preserves it (`Run.invariant`).

Two machines with the same inputs and outputs are compared by a *coupling*: a relation between
a history and their states that every input preserves while the answers are the same
(`Coupling.exec`).
-/

/-- A machine with states `σ`, inputs `ι` and outputs `ο`. -/
structure Machine (σ ι ο : Type) where
  /-- What may be the first state. -/
  init : σ → Prop
  /-- The answer to an input. -/
  step : σ → ι → σ × ο

namespace Machine

variable {σ ι ο : Type} (M : Machine σ ι ο)

/-- The reachable states with their histories, newest answer first. -/
inductive Run (ok : List (ι × ο) → σ → ι → Prop) : List (ι × ο) → σ → Prop where
  | init {s : σ} : M.init s → Run ok [] s
  | step {h : List (ι × ο)} {s : σ} (i : ι) : Run ok h s → ok h s i →
      Run ok ((i, (M.step s i).2) :: h) (M.step s i).1

/-- The history and the state after a sequence of inputs. -/
def exec (h : List (ι × ο)) (s : σ) : List ι → List (ι × ο) × σ
  | [] => (h, s)
  | i :: is => exec ((i, (M.step s i).2) :: h) (M.step s i).1 is

/-- The answered inputs of a machine that starts in `s`, oldest first. -/
def answers (s : σ) (is : List ι) : List (ι × ο) := (M.exec [] s is).1.reverse

/-- Every input is admitted. -/
def anyInput : List (ι × ο) → σ → ι → Prop := fun _ _ _ => True

variable {M} {ok : List (ι × ο) → σ → ι → Prop}

/-- What holds at the start and is preserved by every admitted input holds of every run. -/
theorem Run.invariant {P : List (ι × ο) → σ → Prop} (h0 : ∀ s, M.init s → P [] s)
    (hstep : ∀ h s i, M.Run ok h s → ok h s i → P h s →
      P ((i, (M.step s i).2) :: h) (M.step s i).1)
    {h : List (ι × ο)} {s : σ} (r : M.Run ok h s) : P h s := by
  induction r with
  | init hs => exact h0 _ hs
  | step i r hi ih => exact hstep _ _ i r hi ih

/-- When the admitted inputs are those that keep an invariant, the runs of admitted inputs are
those along which it holds. -/
theorem Run.iff_invariant {P : List (ι × ο) → σ → Prop} (h0 : ∀ s, M.init s → P [] s)
    (hstep : ∀ h s i, P h s → (ok h s i ↔ P ((i, (M.step s i).2) :: h) (M.step s i).1))
    {h : List (ι × ο)} {s : σ} :
    (M.Run ok h s → P h s) ∧
    (M.Run ok h s ↔
      M.Run (fun h s i => P ((i, (M.step s i).2) :: h) (M.step s i).1) h s) := by
  have hinv : ∀ {h s}, M.Run ok h s → P h s := fun r =>
    r.invariant h0 fun h s i _ hi hp => (hstep h s i hp).mp hi
  refine ⟨hinv, fun r => ?_, fun r => ?_⟩
  · induction r with
    | init hs => exact .init hs
    | step i r hi ih => exact ih.step i ((hstep _ _ i (hinv r)).mp hi)
  · induction r with
    | init hs => exact .init hs
    | step i r hi ih => exact ih.step i ((hstep _ _ i (hinv ih)).mpr hi)

/-- A run is one of admitted inputs when all of its inputs are. -/
theorem Run.restrict {ok' : ι → Prop} {h : List (ι × ο)} {s : σ} (r : M.Run anyInput h s)
    (hok : ∀ e ∈ h, ok' e.1) : M.Run (fun _ _ i => ok' i) h s := by
  induction r with
  | init hs => exact .init hs
  | step i _ _ ih =>
      obtain ⟨hi, hok⟩ := List.forall_mem_cons.mp hok
      exact (ih hok).step i hi

/-- What every answer has, every entry of a history has. -/
theorem Run.forall_mem {P : ι × ο → Prop} (hstep : ∀ s i, P (i, (M.step s i).2))
    {h : List (ι × ο)} {s : σ} (r : M.Run ok h s) : ∀ e ∈ h, P e := by
  induction r with
  | init => exact List.forall_mem_nil _
  | step i r hi ih => exact List.forall_mem_cons.mpr ⟨hstep _ i, ih⟩

/-- What holds after an entry of a history, and is preserved by every later one, holds at its
end. -/
theorem Run.since {P : σ → Prop} {later earlier : List (ι × ο)} {e : ι × ο}
    (h0 : ∀ s, (M.step s e.1).2 = e.2 → P (M.step s e.1).1)
    (hstep : ∀ s x, x ∈ later → (M.step s x.1).2 = x.2 → P s → P (M.step s x.1).1)
    {h : List (ι × ο)} {s : σ} (r : M.Run ok h s) (hh : h = later ++ e :: earlier) : P s := by
  induction r generalizing later with
  | init hs => cases later <;> cases hh
  | @step h s i r hi ih =>
      cases later with
      | nil =>
          cases hh
          exact h0 s rfl
      | cons x later =>
          obtain ⟨rfl, rfl⟩ := List.cons_eq_cons.mp hh
          apply hstep s _ List.mem_cons_self rfl
          exact ih (fun s y hy => hstep s y (List.mem_cons_of_mem _ hy)) rfl

/-- Executing inputs that every state admits is a run. -/
theorem Run.exec {h : List (ι × ο)} {s : σ} (r : M.Run ok h s) (is : List ι)
    (hok : ∀ i ∈ is, ∀ h s, ok h s i) : M.Run ok (M.exec h s is).1 (M.exec h s is).2 := by
  induction is generalizing h s with
  | nil => exact r
  | cons i is ih =>
      obtain ⟨hi, hok⟩ := List.forall_mem_cons.mp hok
      exact ih (r.step i (hi h s)) hok

/-! ## Couplings -/

variable {τ : Type} {N : Machine τ ι ο} {R : List (ι × ο) → σ → τ → Prop}

/-- In related states the machines answer alike and stay related. -/
def Coupling (M : Machine σ ι ο) (N : Machine τ ι ο) (R : List (ι × ο) → σ → τ → Prop) : Prop :=
  ∀ h s t i, R h s t → (M.step s i).2 = (N.step t i).2 ∧
    R ((i, (M.step s i).2) :: h) (M.step s i).1 (N.step t i).1

/-- Coupled machines have the same history after every sequence of inputs. -/
theorem Coupling.exec (hc : Coupling M N R) {h : List (ι × ο)} {s : σ} {t : τ} (hR : R h s t)
    (is : List ι) : (M.exec h s is).1 = (N.exec h t is).1 ∧
      R (M.exec h s is).1 (M.exec h s is).2 (N.exec h t is).2 := by
  induction is generalizing h s t with
  | nil => exact ⟨rfl, hR⟩
  | cons i is ih =>
      obtain ⟨hans, hnext⟩ := hc h s t i hR
      obtain ⟨hhist, hrel⟩ := ih hnext
      rw [Machine.exec, Machine.exec, ← hans]
      exact ⟨hhist, hrel⟩

end Machine
