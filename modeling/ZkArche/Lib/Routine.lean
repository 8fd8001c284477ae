import Mathlib.Data.List.Basic

/-!
# Computations with state and early exit

A *routine* reads and writes a state and may stop early.  The state it has reached survives the
stop.  `Ends x s Q` says that `x`, started in `s`, ends with a result and a state of which
`Q` holds, whether it returned or stopped.

There is one rule per construct.  The rule for sequences is `Ends.bind`: the second part has
to be considered only for the values and states with which the first can return.
-/

/-- A computation over a state `σ` that returns an `α` or stops with an `ε`. -/
abbrev Routine (ε σ α : Type) := ExceptT ε (StateM σ) α

namespace Routine

variable {ε σ α β : Type}

/-- The result of a computation and the state it leaves. -/
def exec (x : Routine ε σ α) (s : σ) : Except ε α × σ := StateT.run (ExceptT.run x) s

/-- One operation on the state. -/
def op (f : σ → Except ε α × σ) : Routine ε σ α := ExceptT.mk (m := StateM σ) f

/-- A result that does not depend on the state. -/
def lift (r : Except ε α) : Routine ε σ α := op fun s => (r, s)

@[simp] theorem exec_op (f : σ → Except ε α × σ) (s : σ) : (op f).exec s = f s := rfl

@[simp] theorem exec_lift (r : Except ε α) (s : σ) : (lift r).exec s = (r, s) := rfl

@[simp] theorem exec_pure (a : α) (s : σ) : (pure a : Routine ε σ α).exec s = (.ok a, s) := rfl

@[simp] theorem exec_throw (e : ε) (s : σ) :
    (throw e : Routine ε σ α).exec s = (.error e, s) := rfl

theorem exec_bind (x : Routine ε σ α) (f : α → Routine ε σ β) (s : σ) :
    (x >>= f).exec s = match x.exec s with
      | (.ok a, s') => (f a).exec s'
      | (.error e, s') => (.error e, s') := by
  have h : (x >>= f).exec s = match (x.exec s).1 with
      | .ok a => (f a).exec (x.exec s).2
      | .error e => (.error e, (x.exec s).2) := by
    show StateT.run (ExceptT.run x >>= ExceptT.bindCont f) s = _
    rw [StateT.run_bind]
    show (ExceptT.bindCont f (x.exec s).1).run (x.exec s).2 = _
    cases (x.exec s).1 <;> rfl
  rw [h]
  rcases x.exec s with ⟨r, s'⟩
  cases r <;> rfl

/-- A computation that returns is followed by the rest. -/
theorem exec_bind_ok {x : Routine ε σ α} {a : α} {s s' : σ} (hx : x.exec s = (.ok a, s'))
    (f : α → Routine ε σ β) : (x >>= f).exec s = (f a).exec s' := by
  rw [exec_bind, hx]

/-- A computation that stops stops the whole. -/
theorem exec_bind_error {x : Routine ε σ α} {e : ε} {s : σ} (hx : (x.exec s).1 = .error e)
    (f : α → Routine ε σ β) : ((x >>= f).exec s).1 = .error e := by
  have hrun : x.exec s = (.error e, (x.exec s).2) := Prod.ext hx rfl
  rw [exec_bind, hrun]

/-! ## Postconditions -/

/-- What the computation ends with satisfies `Q`. -/
def Ends (x : Routine ε σ α) (s : σ) (Q : Except ε α → σ → Prop) : Prop :=
  Q (x.exec s).1 (x.exec s).2

theorem Ends.mono {x : Routine ε σ α} {s : σ} {Q Q' : Except ε α → σ → Prop} (h : Ends x s Q)
    (hQ : ∀ r s', Q r s' → Q' r s') : Ends x s Q' := hQ _ _ h

theorem Ends.pure {a : α} {s : σ} {Q : Except ε α → σ → Prop} (h : Q (.ok a) s) :
    Ends (Pure.pure a : Routine ε σ α) s Q := h

/-- The rule for sequences. -/
theorem Ends.bind {x : Routine ε σ α} {f : α → Routine ε σ β} {s : σ} {R : Except ε α → σ → Prop}
    {Q : Except ε β → σ → Prop} (hx : Ends x s R) (hok : ∀ a s', R (.ok a) s' → Ends (f a) s' Q)
    (herr : ∀ e s', R (.error e) s' → Q (.error e) s') : Ends (x >>= f) s Q := by
  unfold Ends at hx ⊢
  rw [exec_bind]
  revert hx
  rcases x.exec s with ⟨r, s'⟩
  intro hx
  cases r with
  | ok a => exact hok a s' hx
  | error e => exact herr e s' hx

/-- A computation whose value is changed on the way out. -/
theorem Ends.map {x : Routine ε σ α} {f : α → β} {s : σ} {Q : Except ε β → σ → Prop}
    (h : Q ((x.exec s).1.map f) (x.exec s).2) : Ends (do return f (← x)) s Q := by
  unfold Ends
  rw [exec_bind]
  revert h
  rcases x.exec s with ⟨r, s'⟩
  cases r with
  | ok a => exact id
  | error e => exact id

/-- A result that does not depend on the state leaves it alone. -/
theorem Ends.lift {r : Except ε α} {s : σ} {Q : Except ε α → σ → Prop} (h : Q r s) :
    Ends (Routine.lift r) s Q := h

end Routine
