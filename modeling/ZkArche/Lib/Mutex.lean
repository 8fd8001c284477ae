import ZkArche.Lib.Machine

/-!
# A state behind a mutex that a panic poisons

A critical section reads and writes the state, and it returns or panics.  A panic poisons the
mutex.  Nothing enters a poisoned mutex: taking the lock is a panic of the thread that tries.

When no admitted section panics, whatever state it meets, no run poisons the mutex, and every
section of a run returns (`Mutex.Run.healthy`).
-/

/-- A state behind a mutex. -/
structure Mutex (σ : Type) where
  state : σ
  poisoned : Bool

namespace Mutex

variable {σ ι ε α : Type}

/-- A critical section.  The answer is none when the lock is poisoned. -/
def withLock (m : Mutex σ) (f : σ → σ × Except ε α) : Mutex σ × Option (Except ε α) :=
  if m.poisoned then (m, none)
  else
    match f m.state with
    | (s, .ok a) => (⟨s, false⟩, some (.ok a))
    | (s, .error e) => (⟨s, true⟩, some (.error e))

/-- A section that returns leaves a healthy mutex healthy. -/
theorem withLock_of_ok {m : Mutex σ} {f : σ → σ × Except ε α} {a : α} (hm : m.poisoned = false)
    (hf : (f m.state).2 = .ok a) : m.withLock f = (⟨(f m.state).1, false⟩, some (.ok a)) := by
  have hrun : f m.state = ((f m.state).1, .ok a) := Prod.ext rfl hf
  unfold withLock
  rw [hm, if_neg Bool.false_ne_true, hrun]

/-- What a section does to the state of a healthy mutex, whether it returns or panics. -/
theorem withLock_of_healthy {m : Mutex σ} (hm : m.poisoned = false) (f : σ → σ × Except ε α) :
    (m.withLock f).1.state = (f m.state).1 ∧ (m.withLock f).2 = some (f m.state).2 := by
  unfold withLock
  rw [hm, if_neg Bool.false_ne_true]
  rcases f m.state with ⟨s, e | a⟩
  · exact ⟨rfl, rfl⟩
  · exact ⟨rfl, rfl⟩

theorem withLock_of_poisoned {m : Mutex σ} (hm : m.poisoned = true) (f : σ → σ × Except ε α) :
    m.withLock f = (m, none) := if_pos hm

/-- Threads that enter the mutex one after the other, each with the section of its input. -/
def machine (run : ι → σ → σ × Except ε α) (start : σ) :
    Machine (Mutex σ) ι (Option (Except ε α)) where
  init := fun m => m = ⟨start, false⟩
  step := fun m i => m.withLock (run i)

/-- Sections that return never poison the mutex. -/
theorem Run.healthy {run : ι → σ → σ × Except ε α} {start : σ} {ok : ι → Prop}
    (hok : ∀ i s, ok i → ∃ a, (run i s).2 = .ok a)
    {h : List (ι × Option (Except ε α))} {m : Mutex σ}
    (r : (machine run start).Run (fun _ _ i => ok i) h m) :
    m.poisoned = false ∧ ∀ e ∈ h, ∃ a, e.2 = some (.ok a) := by
  apply Machine.Run.invariant (P := fun h m => m.poisoned = false ∧ ∀ e ∈ h, ∃ a, e.2 = some (.ok a))
    ?_ ?_ r
  · rintro s rfl
    exact ⟨rfl, List.forall_mem_nil _⟩
  · intro h m i _ hi hinv
    obtain ⟨a, ha⟩ := hok i m.state hi
    have hstep : (machine run start).step m i = (⟨(run i m.state).1, false⟩, some (.ok a)) :=
      withLock_of_ok hinv.1 ha
    rw [hstep]
    exact ⟨rfl, List.forall_mem_cons.mpr ⟨⟨a, rfl⟩, hinv.2⟩⟩

end Mutex
