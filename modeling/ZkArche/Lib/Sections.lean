import Mathlib.Data.List.Basic
import Mathlib.Logic.Function.Basic

/-!
# Workers that share state through critical sections

A *section* is what a worker may do to the shared state while it holds the lock: a request
that is executed at once and answered.  Between two requests a worker computes on its own.
`Prog` is the code of such a worker.  `Prog.run` executes it with nobody else around.

A *pool* holds the shared state and the code that is left of every busy worker.  An action
starts an idle worker on a job, or lets a busy worker execute its next request.  The
computation up to the following request belongs to the same action, so a worker whose code
is at its end has already answered.  The log records what happened, newest first.

A *protocol* assigns a token to a worker and says which requests and which answers the
token permits.  Code `Follows` a protocol when no run of it breaks the rules, whatever the
states its requests meet.  `Pool.invariant` then reduces an invariant of all schedules to single
events: the code is gone, and what is left of it is that the token permits the request.
-/

/-- The shared state and the requests that may be made of it. -/
structure Sections where
  State : Type
  Req : Type
  Ans : Req → Type
  exec : State → (r : Req) → State × Ans r

/-! ## Code -/

/-- The code of a worker. -/
inductive Prog (I : Sections) (α : Type) where
  | ret (a : α)
  | req (r : I.Req) (k : I.Ans r → Prog I α)

namespace Prog

variable {I : Sections} {α β : Type}

/-- Sequencing. -/
def bind : Prog I α → (α → Prog I β) → Prog I β
  | .ret a, f => f a
  | .req r k, f => .req r fun a => (k a).bind f

instance : Monad (Prog I) where
  pure := ret
  bind := bind

/-- One request. -/
def call (r : I.Req) : Prog I (I.Ans r) := .req r .ret

@[simp] theorem pure_eq (a : α) : (pure a : Prog I α) = .ret a := rfl

@[simp] theorem ret_bind (a : α) (f : α → Prog I β) : (Prog.ret a >>= f) = f a := rfl

@[simp] theorem req_bind (r : I.Req) (k : I.Ans r → Prog I α) (f : α → Prog I β) :
    (Prog.req r k >>= f) = .req r fun a => k a >>= f := rfl

@[simp] theorem call_bind (r : I.Req) (f : I.Ans r → Prog I β) :
    (call r >>= f) = .req r f := rfl

/-- Execution without interference. -/
def run : Prog I α → I.State → I.State × α
  | .ret a, s => (s, a)
  | .req r k, s => (k (I.exec s r).2).run (I.exec s r).1

/-- A sequence runs its parts one after the other. -/
theorem run_bind (p : Prog I α) (f : α → Prog I β) (s : I.State) :
    (p >>= f).run s = (f (p.run s).2).run (p.run s).1 := by
  induction p generalizing s with
  | ret a => rfl
  | req r k ih => exact ih (I.exec s r).2 (I.exec s r).1

end Prog

/-! ## Protocols -/

/-- The discipline of a worker on jobs `J` with answers `α`, by tokens `T`. -/
structure Protocol (I : Sections) (J α T : Type) where
  /-- The token of an idle worker. -/
  idle : T
  /-- The token a job starts with. -/
  start : J → T
  /-- The requests a token permits. -/
  can : T → I.Req → Prop
  /-- The token after an answered request. -/
  next : T → (r : I.Req) → I.Ans r → T
  /-- The results a token permits. -/
  fin : T → α → Prop

namespace Prog

variable {I : Sections} {J α T : Type} (D : Protocol I J α T)

/-- The code keeps to the protocol, whatever the states its requests meet. -/
def Follows : T → Prog I α → Prop
  | t, .ret a => D.fin t a
  | t, .req r k => D.can t r ∧ ∀ s, Follows (D.next t r (I.exec s r).2) (k (I.exec s r).2)

end Prog

/-! ## Pools -/

/-- What the log records. -/
inductive Event (I : Sections) (W J α : Type) where
  | start (w : W) (j : J)
  | act (w : W) (r : I.Req) (a : I.Ans r)
  | finish (w : W) (out : α)

/-- A pool of workers `W`. -/
structure Pool (I : Sections) (W J α : Type) where
  shared : I.State
  work : W → Option (Prog I α)
  log : List (Event I W J α)

/-- What a scheduler may do. -/
inductive Turn (W J : Type) where
  | start (w : W) (j : J)
  | step (w : W)

/-- Who acts. -/
def Turn.worker {W J : Type} : Turn W J → W
  | .start w _ => w
  | .step w => w

namespace Pool

variable {I : Sections} {W J α T : Type} [DecidableEq W]

/-- All workers idle. -/
def fresh (s : I.State) : Pool I W J α := ⟨s, fun _ => none, []⟩

/-- Give a worker the code that is left: an answer is logged at once. -/
def resume (P : Pool I W J α) (w : W) : Prog I α → Pool I W J α
  | .ret a => { P with work := Function.update P.work w none, log := .finish w a :: P.log }
  | .req r k => { P with work := Function.update P.work w (some (.req r k)) }

/-- One action.  Starting a busy worker and stepping an idle one do nothing. -/
def act (prog : J → Prog I α) (P : Pool I W J α) : Turn W J → Pool I W J α
  | .start w j =>
      match P.work w with
      | some _ => P
      | none => resume { P with log := .start w j :: P.log } w (prog j)
  | .step w =>
      match P.work w with
      | some (.req r k) =>
          let res := I.exec P.shared r
          resume { P with shared := res.1, log := .act w r res.2 :: P.log } w (k res.2)
      | _ => P

/-- A schedule. -/
def run (prog : J → Prog I α) (P : Pool I W J α) (as : List (Turn W J)) : Pool I W J α :=
  as.foldl (act prog) P

end Pool

/-! ## Tokens -/

namespace Protocol

variable {I : Sections} {W J α T : Type} [DecidableEq W] (D : Protocol I J α T)

/-- The token of a worker, read off the log. -/
def tok : List (Event I W J α) → W → T
  | [], _ => D.idle
  | .start w' j :: l, w => if w' = w then D.start j else tok l w
  | .act w' r a :: l, w => if w' = w then D.next (tok l w) r a else tok l w
  | .finish w' _ :: l, w => if w' = w then D.idle else tok l w

theorem tok_start (l : List (Event I W J α)) (w : W) (j : J) :
    D.tok (.start w j :: l) = Function.update (D.tok l) w (D.start j) := by
  funext w'
  by_cases h : w = w'
  · subst h
    simp [tok]
  · simp [tok, h, Function.update_of_ne (Ne.symm h)]

theorem tok_act (l : List (Event I W J α)) (w : W) (r : I.Req) (a : I.Ans r) :
    D.tok (.act w r a :: l) = Function.update (D.tok l) w (D.next (D.tok l w) r a) := by
  funext w'
  by_cases h : w = w'
  · subst h
    simp [tok]
  · simp [tok, h, Function.update_of_ne (Ne.symm h)]

theorem tok_finish (l : List (Event I W J α)) (w : W) (out : α) :
    D.tok (.finish w out :: l) = Function.update (D.tok l) w D.idle := by
  funext w'
  by_cases h : w = w'
  · subst h
    simp [tok]
  · simp [tok, h, Function.update_of_ne (Ne.symm h)]

end Protocol

namespace Pool

variable {I : Sections} {W J α T : Type} [DecidableEq W]

/-- A condition on requests, in the state and with the log they meet. -/
abbrev Guard (I : Sections) (W J α : Type) := I.State → List (Event I W J α) → W → I.Req → Prop

/-- Every request of a schedule meets the condition. -/
def Meets (prog : J → Prog I α) (ok : Guard I W J α) : Pool I W J α → List (Turn W J) → Prop
  | _, [] => True
  | P, a :: as =>
      (∀ w r k, a = .step w → P.work w = some (.req r k) → ok P.shared P.log w r) ∧
        Meets prog ok (act prog P a) as

/-- What is left of a busy worker follows the protocol from the token the log gives, and the
token of any other worker is the idle one. -/
structure Conforms (D : Protocol I J α T) (P : Pool I W J α) : Prop where
  busy : ∀ w p, P.work w = some p → p.Follows D (D.tok P.log w)
  idle : ∀ w, P.work w = none → D.tok P.log w = D.idle

/-- An invariant of the shared state and the log, preserved by every event that the
protocol permits and the condition admits. -/
structure Preserved (D : Protocol I J α T) (ok : Guard I W J α)
    (Inv : I.State → List (Event I W J α) → Prop) : Prop where
  start : ∀ s l w j, Inv s l → D.tok l w = D.idle → Inv s (.start w j :: l)
  act : ∀ s l w r, Inv s l → D.can (D.tok l w) r → ok s l w r →
    Inv (I.exec s r).1 (.act w r (I.exec s r).2 :: l)
  finish : ∀ s l w out, Inv s l → D.fin (D.tok l w) out → Inv s (.finish w out :: l)

variable {D : Protocol I J α T} {ok : Guard I W J α}
  {Inv : I.State → List (Event I W J α) → Prop} {prog : J → Prog I α}

/-- Resuming a worker whose code follows the protocol keeps both invariants. -/
theorem resume_invariant (hp : Preserved D ok Inv) {P : Pool I W J α} {w : W} {p : Prog I α}
    (hinv : Inv P.shared P.log)
    (hbusy : ∀ w' p', w' ≠ w → P.work w' = some p' → p'.Follows D (D.tok P.log w'))
    (hidle : ∀ w', w' ≠ w → P.work w' = none → D.tok P.log w' = D.idle)
    (hf : p.Follows D (D.tok P.log w)) :
    Inv (resume P w p).shared (resume P w p).log ∧ Conforms D (resume P w p) := by
  cases p with
  | ret a =>
      refine ⟨hp.finish _ _ _ _ hinv hf, ?_, ?_⟩
      · intro w' p' hw
        by_cases h : w' = w
        · subst h
          simp [resume] at hw
        · simp only [resume, Function.update_of_ne h] at hw
          simp only [resume, Protocol.tok, if_neg (Ne.symm h)]
          exact hbusy w' p' h hw
      · intro w' hw
        by_cases h : w' = w
        · subst h
          simp [resume, Protocol.tok]
        · simp only [resume, Function.update_of_ne h] at hw
          simp only [resume, Protocol.tok, if_neg (Ne.symm h)]
          exact hidle w' h hw
  | req r k =>
      refine ⟨hinv, ?_, ?_⟩
      · intro w' p' hw
        by_cases h : w' = w
        · subst h
          simp only [resume, Function.update_self, Option.some.injEq] at hw
          subst hw
          exact hf
        · simp only [resume, Function.update_of_ne h] at hw
          exact hbusy w' p' h hw
      · intro w' hw
        by_cases h : w' = w
        · subst h
          simp [resume] at hw
        · simp only [resume, Function.update_of_ne h] at hw
          exact hidle w' h hw

/-- One action preserves an invariant that every permitted event preserves. -/
theorem act_invariant (hp : Preserved D ok Inv) (hprog : ∀ j, (prog j).Follows D (D.start j))
    {P : Pool I W J α} (hinv : Inv P.shared P.log) (hc : Conforms D P) (a : Turn W J)
    (hok : ∀ w r k, a = .step w → P.work w = some (.req r k) → ok P.shared P.log w r) :
    Inv (act prog P a).shared (act prog P a).log ∧ Conforms D (act prog P a) := by
  cases a with
  | start w j =>
      simp only [act]
      split
      next => exact ⟨hinv, hc⟩
      next hw =>
        apply resume_invariant hp (hp.start _ _ w j hinv (hc.idle w hw))
        · intro w' p' h hw
          simp only [Protocol.tok, if_neg (Ne.symm h)]
          exact hc.busy w' p' hw
        · intro w' h hw
          simp only [Protocol.tok, if_neg (Ne.symm h)]
          exact hc.idle w' hw
        · simp only [Protocol.tok, if_true]
          exact hprog j
  | step w =>
      simp only [act]
      split
      next r k hw =>
        obtain ⟨hcan, hk⟩ := hc.busy w _ hw
        apply resume_invariant hp (hp.act _ _ w r hinv hcan (hok w r k rfl hw))
        · intro w' p' h hw'
          simp only [Protocol.tok, if_neg (Ne.symm h)]
          exact hc.busy w' p' hw'
        · intro w' h hw'
          simp only [Protocol.tok, if_neg (Ne.symm h)]
          exact hc.idle w' hw'
        · simp only [Protocol.tok, if_true]
          exact hk _
      next => exact ⟨hinv, hc⟩

/-- The invariant rule: an invariant that every permitted and admitted event preserves holds
after every schedule all of whose requests are admitted. -/
theorem invariant (hp : Preserved D ok Inv) (hprog : ∀ j, (prog j).Follows D (D.start j))
    {P : Pool I W J α} (hinv : Inv P.shared P.log) (hc : Conforms D P) {as : List (Turn W J)}
    (hok : Meets prog ok P as) :
    Inv (run prog P as).shared (run prog P as).log ∧ Conforms D (run prog P as) := by
  induction as generalizing P with
  | nil => exact ⟨hinv, hc⟩
  | cons a as ih =>
      obtain ⟨ha, has⟩ := hok
      obtain ⟨h1, h2⟩ := act_invariant hp hprog hinv hc a ha
      exact ih h1 h2 has

theorem conforms_fresh (s : I.State) : Conforms D (fresh s : Pool I W J α) := by
  refine ⟨?_, fun _ _ => rfl⟩
  intro w p h
  cases h

/-- A condition that always holds is met by every schedule. -/
theorem meets_of_forall (hok : ∀ s l w r, ok s l w r) (P : Pool I W J α) (as : List (Turn W J)) :
    Meets prog ok P as := by
  induction as generalizing P with
  | nil => trivial
  | cons a as ih => exact ⟨fun w r _ _ _ => hok _ _ w r, ih _⟩

/-! ## One worker -/

theorem resume_log (P : Pool I W J α) (w : W) (p : Prog I α) :
    (resume P w p).log = P.log ∨ ∃ a, (resume P w p).log = .finish w a :: P.log := by
  cases p with
  | ret a => exact .inr ⟨a, rfl⟩
  | req r k => exact .inl rfl

/-- Resuming a worker leaves the tokens of the others. -/
theorem tok_resume_of_ne (P : Pool I W J α) {w w' : W} (h : w' ≠ w) (p : Prog I α) :
    D.tok (resume P w p).log w' = D.tok P.log w' := by
  obtain hl | ⟨a, hl⟩ := resume_log P w p
  · rw [hl]
  · rw [hl, D.tok_finish, Function.update_of_ne h]

/-- An action leaves the tokens of the other workers. -/
theorem tok_act_of_ne (P : Pool I W J α) {w : W} (a : Turn W J) (h : w ≠ a.worker) :
    D.tok (act prog P a).log w = D.tok P.log w := by
  cases a with
  | start w' j =>
      simp only [Turn.worker] at h
      simp only [act]
      split
      next => rfl
      next => rw [tok_resume_of_ne _ h, D.tok_start, Function.update_of_ne h]
  | step w' =>
      simp only [Turn.worker] at h
      simp only [act]
      split
      next r k hw => rw [tok_resume_of_ne _ h, D.tok_act, Function.update_of_ne h]
      next => rfl

/-- A condition that holds whenever the other workers are idle is met by every schedule of
one worker. -/
theorem meets_of_worker {w : W}
    (hok : ∀ s l r, (∀ w', w' ≠ w → D.tok l w' = D.idle) → ok s l w r) {P : Pool I W J α}
    (hP : ∀ w', w' ≠ w → D.tok P.log w' = D.idle) {as : List (Turn W J)}
    (has : ∀ a ∈ as, a.worker = w) : Meets prog ok P as := by
  induction as generalizing P with
  | nil => trivial
  | cons a as ih =>
      have ha : a.worker = w := has a List.mem_cons_self
      refine ⟨?_, ih ?_ fun b hb => has b (List.mem_cons_of_mem a hb)⟩
      · intro w' r k hstep _
        subst hstep
        cases ha
        exact hok _ _ r hP
      · intro w' hw'
        rw [tok_act_of_ne P a (ha ▸ hw')]
        exact hP w' hw'

end Pool
