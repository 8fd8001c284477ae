import Mathlib.Logic.Relation
import ZkArche.Lib.Machine
import ZkArche.Lib.Sections

/-!
# Threads that serve over lines

A *line* joins a thread with those it serves: a socket, or one connection.  The thread receives a
job, runs its code for it, hands the answer over and receives again, until its line fails.  The
threads share state through critical sections and are interleaved in any way (`Drivers.Step`).

What the threads do to the shared state is a schedule of a pool of workers, so that what holds of
the pool holds of the threads (`Drivers.pool`).  Every thread alternates between its jobs and their
answers, and its line sees nothing else (`Drivers.serves`).  When the code of a job is one request,
the history of the machine behind the lock consists of the exchanges of the threads
(`Drivers.told`).
-/

namespace Prog

variable {I : Sections} {α β : Type}

/-- Whatever states the requests meet, the code ends with a result of which `Q` holds. -/
def Always (Q : α → Prop) : Prog I α → Prop
  | .ret a => Q a
  | .req r k => ∀ s, Always Q (k (I.exec s r).2)

/-- The rule for sequences. -/
theorem Always.bind {R : α → Prop} {Q : β → Prop} {p : Prog I α} {f : α → Prog I β}
    (hp : p.Always R) (hf : ∀ a, R a → (f a).Always Q) : (p >>= f).Always Q := by
  induction p with
  | ret a => exact hf a hp
  | req r k ih => exact fun s => ih (I.exec s r).2 (hp s)

theorem Always.mono {Q Q' : α → Prop} {p : Prog I α} (hp : p.Always Q) (h : ∀ a, Q a → Q' a) :
    p.Always Q' := by
  induction p with
  | ret a => exact h a hp
  | req r k ih => exact fun s => ih (I.exec s r).2 (hp s)

end Prog

/-- What a thread can see of its line `L`. -/
structure Line (L J α : Type) where
  /-- A receive that returns a job. -/
  recv : L → J → L → Prop
  /-- A receive that returns none, and whether the thread goes on. -/
  miss : L → Bool → L → Prop
  /-- An answer that is handed over, and whether the thread goes on. -/
  send : L → α → Bool → L → Prop

/-- What a line has seen since it was `l₀`: the jobs and their answers, oldest first, the job that
is being served, and whether the thread is still there. -/
inductive Line.Talk {L J α : Type} (ℓ : Line L J α) (l₀ : L) :
    List (J × α) → Option J → Bool → L → Prop where
  | start : Talk ℓ l₀ [] none true l₀
  | recv {xs : List (J × α)} {l l' : L} {j : J} : Talk ℓ l₀ xs none true l → ℓ.recv l j l' →
      Talk ℓ l₀ xs (some j) true l'
  | miss {xs : List (J × α)} {l l' : L} {go : Bool} : Talk ℓ l₀ xs none true l →
      ℓ.miss l go l' → Talk ℓ l₀ xs none go l'
  | send {xs : List (J × α)} {l l' : L} {j : J} {a : α} {go : Bool} :
      Talk ℓ l₀ xs (some j) true l → ℓ.send l a go l' → Talk ℓ l₀ (xs ++ [(j, a)]) none go l'

/-- What a thread is doing. -/
inductive Seat (I : Sections) (J α : Type) where
  | listening
  | working (j : J) (p : Prog I α)
  | sending (j : J) (a : α)
  | gone

namespace Seat

variable {I : Sections} {J α : Type}

/-- The thread goes on, or not. -/
def next : Bool → Seat I J α
  | true => listening
  | false => gone

/-- The code that is left of the job. -/
def left : Seat I J α → Option (Prog I α)
  | working _ p => some p
  | _ => none

@[simp] theorem left_next (go : Bool) : (next go : Seat I J α).left = none := by
  cases go <;> rfl

end Seat

/-- A machine whose inputs are critical sections. -/
abbrev Sections.ofMachine {σ ι ο : Type} (M : Machine σ ι ο) : Sections where
  State := σ
  Req := ι
  Ans _ := ο
  exec := M.step

/-! ## The log of a thread -/

namespace Event

variable {I : Sections} {W J α : Type} [DecidableEq W]

/-- The jobs of a thread, oldest first. -/
def started (w : W) : List (Event I W J α) → List J
  | [] => []
  | .start w' j :: l => if w' = w then started w l ++ [j] else started w l
  | _ :: l => started w l

/-- The answers a thread has, oldest first. -/
def finished (w : W) : List (Event I W J α) → List α
  | [] => []
  | .finish w' a :: l => if w' = w then finished w l ++ [a] else finished w l
  | _ :: l => finished w l

/-- The requests of all threads with their answers, newest first. -/
def requests {σ ι ο : Type} {M : Machine σ ι ο} :
    List (Event (.ofMachine M) W J α) → List (W × ι × ο)
  | [] => []
  | .act w r a :: l => (w, r, a) :: requests l
  | _ :: l => requests l

/-- The requests of a thread with their answers, oldest first. -/
def exchanges {σ ι ο : Type} {M : Machine σ ι ο} (w : W) :
    List (Event (.ofMachine M) W J α) → List (ι × ο)
  | [] => []
  | .act w' r a :: l => if w' = w then exchanges w l ++ [((r, a) : ι × ο)] else exchanges w l
  | _ :: l => exchanges w l

/-- The requests of all threads are those of the threads. -/
theorem mem_requests {σ ι ο : Type} {M : Machine σ ι ο} {w : W} {x : ι × ο}
    {l : List (Event (.ofMachine M) W J α)} : (w, x) ∈ requests l ↔ x ∈ exchanges w l := by
  induction l with
  | nil => exact iff_of_false List.not_mem_nil List.not_mem_nil
  | cons e l ih =>
      cases e with
      | start w' j => exact ih
      | finish w' a => exact ih
      | act w' r a =>
          simp only [requests, exchanges, List.mem_cons, Prod.mk.injEq]
          by_cases hne : w' = w
          · subst hne
            rw [if_pos rfl, List.mem_append, List.mem_singleton, ← ih, or_comm]
            simp
          · rw [if_neg hne, ← ih]
            simp [Ne.symm hne]

end Event

/-! ## Threads -/

/-- The shared state, the threads `W`, their lines, and what happened, newest first. -/
structure Drivers (I : Sections) (W J α : Type) (L : W → Type) where
  shared : I.State
  seat : W → Seat I J α
  line : (w : W) → L w
  log : List (Event I W J α)

namespace Drivers

variable {I : Sections} {W J α : Type} [DecidableEq W] {L : W → Type}

/-- All threads listen. -/
def fresh (s : I.State) (line : (w : W) → L w) : Drivers I W J α L :=
  ⟨s, fun _ => .listening, line, []⟩

/-- A thread has received a job. -/
def hear (d : Drivers I W J α L) (w : W) (j : J) (l : L w) : Drivers I W J α L :=
  { d with line := Function.update d.line w l, log := .start w j :: d.log }

/-- A thread has executed a request. -/
def enter (d : Drivers I W J α L) (w : W) (r : I.Req) : Drivers I W J α L :=
  { d with shared := (I.exec d.shared r).1, log := .act w r (I.exec d.shared r).2 :: d.log }

/-- A thread is left with some code. -/
def settle (d : Drivers I W J α L) (w : W) (j : J) : Prog I α → Drivers I W J α L
  | .ret a => { d with seat := Function.update d.seat w (.sending j a), log := .finish w a :: d.log }
  | .req r k => { d with seat := Function.update d.seat w (.working j (.req r k)) }

/-- A thread is done with its line, and goes on or not. -/
def rest (d : Drivers I W J α L) (w : W) (go : Bool) (l : L w) : Drivers I W J α L :=
  { d with seat := Function.update d.seat w (.next go), line := Function.update d.line w l }

/-- What one thread does next. -/
inductive Step (lines : (w : W) → Line (L w) J α) (prog : J → Prog I α) :
    Drivers I W J α L → Drivers I W J α L → Prop where
  | recv {d : Drivers I W J α L} (w : W) (j : J) (l : L w) : d.seat w = .listening →
      (lines w).recv (d.line w) j l → Step lines prog d ((d.hear w j l).settle w j (prog j))
  | miss {d : Drivers I W J α L} (w : W) (go : Bool) (l : L w) : d.seat w = .listening →
      (lines w).miss (d.line w) go l → Step lines prog d (d.rest w go l)
  | act {d : Drivers I W J α L} (w : W) (j : J) (r : I.Req) (k : I.Ans r → Prog I α) :
      d.seat w = .working j (.req r k) →
      Step lines prog d ((d.enter w r).settle w j (k (I.exec d.shared r).2))
  | send {d : Drivers I W J α L} (w : W) (j : J) (a : α) (go : Bool) (l : L w) :
      d.seat w = .sending j a → (lines w).send (d.line w) a go l →
      Step lines prog d (d.rest w go l)

/-- What the threads can reach. -/
abbrev Reach (lines : (w : W) → Line (L w) J α) (prog : J → Prog I α) :
    Drivers I W J α L → Drivers I W J α L → Prop :=
  Relation.ReflTransGen (Step lines prog)

variable {lines : (w : W) → Line (L w) J α} {prog : J → Prog I α} {s₀ : I.State}
  {l₀ : (w : W) → L w} {d d' : Drivers I W J α L}

/-- A thread receives a job, for which it runs this code. -/
theorem Reach.recv (r : Reach lines prog d d') {w : W} {j : J} {l : L w} {p : Prog I α}
    (hseat : d'.seat w = .listening) (hrecv : (lines w).recv (d'.line w) j l) (hp : prog j = p) :
    Reach lines prog d ((d'.hear w j l).settle w j p) := by
  subst hp
  exact r.tail (.recv w j l hseat hrecv)

/-- A thread executes a request with this effect, and is left with this code. -/
theorem Reach.act (r : Reach lines prog d d') {w : W} {j : J} {q : I.Req} {k : I.Ans q → Prog I α}
    {s s' : I.State} {a : I.Ans q} {p : Prog I α} (hseat : d'.seat w = .working j (.req q k))
    (hshared : d'.shared = s) (hexec : I.exec s q = (s', a)) (hp : k a = p) :
    Reach lines prog d
      (({ d' with shared := s', log := .act w q a :: d'.log } : Drivers I W J α L).settle w j p) := by
  subst hshared hp
  have hstep := r.tail (.act w j q k hseat)
  rwa [enter, hexec] at hstep

/-- A thread hands its answer over. -/
theorem Reach.send (r : Reach lines prog d d') {w : W} {j : J} {a : α} {go : Bool} {l : L w}
    (hseat : d'.seat w = .sending j a) (hsend : (lines w).send (d'.line w) a go l) :
    Reach lines prog d (d'.rest w go l) :=
  r.tail (.send w j a go l hseat hsend)

/-! ## The pool -/

/-- The pool does what the threads do. -/
structure Mirrors (d : Drivers I W J α L) (P : Pool I W J α) : Prop where
  shared : P.shared = d.shared
  log : P.log = d.log
  work : ∀ w, P.work w = (d.seat w).left

theorem Mirrors.settle {P : Pool I W J α} (h : Mirrors d P) (w : W) (j : J) (p : Prog I α) :
    Mirrors (d.settle w j p) (P.resume w p) := by
  cases p with
  | ret a =>
      refine ⟨h.shared, congrArg (List.cons (Event.finish w a)) h.log, fun w' => ?_⟩
      by_cases hw : w' = w
      · subst hw
        simp [Pool.resume, Drivers.settle, Seat.left]
      · simp only [Pool.resume, Drivers.settle, Function.update_of_ne hw, h.work]
  | req r k =>
      refine ⟨h.shared, h.log, fun w' => ?_⟩
      by_cases hw : w' = w
      · subst hw
        simp [Pool.resume, Drivers.settle, Seat.left]
      · simp only [Pool.resume, Drivers.settle, Function.update_of_ne hw, h.work]

/-- A thread whose code is done does not concern the pool. -/
theorem Mirrors.rest {P : Pool I W J α} (h : Mirrors d P) {w : W} (hw : (d.seat w).left = none)
    (go : Bool) (l : L w) : Mirrors (d.rest w go l) P := by
  refine ⟨h.shared, h.log, fun w' => ?_⟩
  by_cases hw' : w' = w
  · subst hw'
    simp only [Drivers.rest, Function.update_self, Seat.left_next, h.work, hw]
  · simp only [Drivers.rest, Function.update_of_ne hw', h.work]

/-- One step of the threads is at most one turn of the pool. -/
theorem Mirrors.step {P : Pool I W J α} (h : Mirrors d P) (hd : Step lines prog d d') :
    ∃ as, Mirrors d' (Pool.run prog P as) := by
  cases hd with
  | recv w j l hseat hrecv =>
      have hwork : P.work w = none := by rw [h.work, hseat]; rfl
      have hheard : Mirrors (d.hear w j l) { P with log := .start w j :: P.log } :=
        ⟨h.shared, congrArg (List.cons (Event.start w j)) h.log, h.work⟩
      refine ⟨[.start w j], ?_⟩
      show Mirrors _ (Pool.act prog P (.start w j))
      simp only [Pool.act, hwork]
      exact hheard.settle w j (prog j)
  | miss w go l hseat hmiss => exact ⟨[], h.rest (by rw [hseat]; rfl) go l⟩
  | act w j r k hseat =>
      have hwork : P.work w = some (.req r k) := by rw [h.work, hseat]; rfl
      have hentered : Mirrors (d.enter w r) { P with
          shared := (I.exec d.shared r).1, log := .act w r (I.exec d.shared r).2 :: P.log } :=
        ⟨rfl, congrArg (List.cons (Event.act w r (I.exec d.shared r).2)) h.log, h.work⟩
      refine ⟨[.step w], ?_⟩
      show Mirrors _ (Pool.act prog P (.step w))
      simp only [Pool.act, hwork, h.shared]
      exact hentered.settle w j _
  | send w j a go l hseat hsend => exact ⟨[], h.rest (by rw [hseat]; rfl) go l⟩

/-- What the threads do is a schedule of the pool. -/
theorem pool (r : Reach lines prog (fresh s₀ l₀) d) :
    ∃ as, Mirrors d (Pool.run prog (.fresh s₀) as) := by
  induction r with
  | refl => exact ⟨[], rfl, rfl, fun w => rfl⟩
  | tail _ hstep ih =>
      obtain ⟨as, h⟩ := ih
      obtain ⟨as', h'⟩ := h.step hstep
      exact ⟨as ++ as', by rwa [Pool.run, List.foldl_append]⟩

/-! ## One thread -/

/-- How a thread and its line stand, given its jobs and its answers. -/
inductive Serves {L : Type} (ℓ : Line L J α) (l₀ : L) :
    Seat I J α → L → List J → List α → Prop where
  | listening {xs : List (J × α)} {l : L} : ℓ.Talk l₀ xs none true l →
      Serves ℓ l₀ .listening l (xs.map Prod.fst) (xs.map Prod.snd)
  | working {xs : List (J × α)} {l : L} {j : J} {p : Prog I α} : ℓ.Talk l₀ xs (some j) true l →
      Serves ℓ l₀ (.working j p) l (xs.map Prod.fst ++ [j]) (xs.map Prod.snd)
  | sending {xs : List (J × α)} {l : L} {j : J} {a : α} : ℓ.Talk l₀ xs (some j) true l →
      Serves ℓ l₀ (.sending j a) l (xs.map Prod.fst ++ [j]) (xs.map Prod.snd ++ [a])
  | gone {xs : List (J × α)} {l : L} : ℓ.Talk l₀ xs none false l →
      Serves ℓ l₀ .gone l (xs.map Prod.fst) (xs.map Prod.snd)

theorem Serves.next {L : Type} {ℓ : Line L J α} {l₀ l : L} {xs : List (J × α)} {go : Bool}
    (h : ℓ.Talk l₀ xs none go l) :
    Serves ℓ l₀ (.next go : Seat I J α) l (xs.map Prod.fst) (xs.map Prod.snd) := by
  cases go with
  | true => exact .listening h
  | false => exact .gone h

/-- What a line has seen, given the jobs. -/
theorem Serves.talk {L : Type} {ℓ : Line L J α} {l₀ l : L} {seat : Seat I J α} {jobs : List J}
    {answers : List α} (h : Serves ℓ l₀ seat l jobs answers) : ∃ xs pending go,
      ℓ.Talk l₀ xs pending go l ∧ jobs = xs.map Prod.fst ++ pending.toList := by
  cases h with
  | listening t => exact ⟨_, _, _, t, (List.append_nil _).symm⟩
  | working t => exact ⟨_, _, _, t, rfl⟩
  | sending t => exact ⟨_, _, _, t, rfl⟩
  | gone t => exact ⟨_, _, _, t, (List.append_nil _).symm⟩

/-- How a thread of the system stands. -/
def ServesAt (lines : (w : W) → Line (L w) J α) (l₀ : (w : W) → L w) (d : Drivers I W J α L)
    (w : W) : Prop :=
  Serves (lines w) (l₀ w) (d.seat w) (d.line w) (Event.started w d.log) (Event.finished w d.log)

/-- A thread works on the job it received last. -/
structure Busy (lines : (w : W) → Line (L w) J α) (l₀ : (w : W) → L w) (d : Drivers I W J α L)
    (w : W) (xs : List (J × α)) (j : J) : Prop where
  talk : (lines w).Talk (l₀ w) xs (some j) true (d.line w)
  jobs : Event.started w d.log = xs.map Prod.fst ++ [j]
  answers : Event.finished w d.log = xs.map Prod.snd

/-- It is left with some code. -/
theorem Busy.settle {w : W} {xs : List (J × α)} {j : J} (h : Busy lines l₀ d w xs j)
    (p : Prog I α) : ServesAt lines l₀ (d.settle w j p) w := by
  cases p with
  | ret a =>
      simp only [ServesAt, Drivers.settle, Function.update_self, Event.started, Event.finished,
        if_true, h.jobs, h.answers]
      exact .sending h.talk
  | req r k =>
      simp only [ServesAt, Drivers.settle, Function.update_self, h.jobs, h.answers]
      exact .working h.talk

/-- That leaves the other threads alone. -/
theorem ServesAt.settle {w w' : W} (h : ServesAt lines l₀ d w') (hne : w' ≠ w) (j : J)
    (p : Prog I α) : ServesAt lines l₀ (d.settle w j p) w' := by
  cases p with
  | ret a =>
      simp only [ServesAt, Drivers.settle, Function.update_of_ne hne, Event.started,
        Event.finished, if_neg hne.symm]
      exact h
  | req r k =>
      simp only [ServesAt, Drivers.settle, Function.update_of_ne hne]
      exact h

theorem ServesAt.rest {w w' : W} (h : ServesAt lines l₀ d w') (hne : w' ≠ w) (go : Bool)
    (l : L w) : ServesAt lines l₀ (d.rest w go l) w' := by
  simp only [ServesAt, Drivers.rest, Function.update_of_ne hne]
  exact h

theorem ServesAt.of_listening {w : W} (h : ServesAt lines l₀ d w) (hseat : d.seat w = .listening) :
    ∃ xs, (lines w).Talk (l₀ w) xs none true (d.line w) ∧
      Event.started w d.log = xs.map Prod.fst ∧ Event.finished w d.log = xs.map Prod.snd := by
  rw [ServesAt, hseat] at h
  generalize Event.started w d.log = js at h ⊢
  generalize Event.finished w d.log = as at h ⊢
  obtain ⟨htalk⟩ := h
  exact ⟨_, htalk, rfl, rfl⟩

theorem ServesAt.of_working {w : W} {j : J} {p : Prog I α} (h : ServesAt lines l₀ d w)
    (hseat : d.seat w = .working j p) : ∃ xs, Busy lines l₀ d w xs j := by
  rw [ServesAt, hseat] at h
  generalize hjobs : Event.started w d.log = js at h
  generalize hanswers : Event.finished w d.log = as at h
  cases h with
  | working htalk => exact ⟨_, htalk, hjobs, hanswers⟩

theorem ServesAt.of_sending {w : W} {j : J} {a : α} (h : ServesAt lines l₀ d w)
    (hseat : d.seat w = .sending j a) :
    ∃ xs, (lines w).Talk (l₀ w) xs (some j) true (d.line w) ∧
      Event.started w d.log = (xs ++ [(j, a)]).map Prod.fst ∧
      Event.finished w d.log = (xs ++ [(j, a)]).map Prod.snd := by
  rw [ServesAt, hseat] at h
  generalize Event.started w d.log = js at h ⊢
  generalize Event.finished w d.log = as at h ⊢
  cases h with
  | sending htalk => exact ⟨_, htalk, by simp, by simp⟩

/-- A thread that receives a job works on it. -/
theorem ServesAt.hear {w : W} {j : J} {l : L w} (h : ServesAt lines l₀ d w)
    (hseat : d.seat w = .listening) (hrecv : (lines w).recv (d.line w) j l) :
    ∃ xs, Busy lines l₀ (d.hear w j l) w xs j := by
  obtain ⟨xs, htalk, hjobs, hanswers⟩ := h.of_listening hseat
  refine ⟨xs, ?_, ?_, hanswers⟩
  · simp only [Drivers.hear, Function.update_self]
    exact htalk.recv hrecv
  · simp only [Drivers.hear, Event.started, if_true, hjobs]

/-- A thread that goes on or not after what its line has seen. -/
theorem ServesAt.of_rest {w : W} {xs : List (J × α)} {go : Bool} {l : L w}
    (htalk : (lines w).Talk (l₀ w) xs none go l) (hjobs : Event.started w d.log = xs.map Prod.fst)
    (hanswers : Event.finished w d.log = xs.map Prod.snd) :
    ServesAt lines l₀ (d.rest w go l) w := by
  simp only [ServesAt, Drivers.rest, Function.update_self, hjobs, hanswers]
  exact .next htalk

/-- A step leaves every thread in order. -/
theorem ServesAt.step (h : ∀ w, ServesAt lines l₀ d w) (hd : Step lines prog d d') (w' : W) :
    ServesAt lines l₀ d' w' := by
  cases hd with
  | recv w j l hseat hrecv =>
      by_cases hne : w' = w
      · subst hne
        obtain ⟨xs, hbusy⟩ := (h w').hear hseat hrecv
        exact hbusy.settle (prog j)
      · refine ServesAt.settle ?_ hne j (prog j)
        simp only [ServesAt, Drivers.hear, Function.update_of_ne hne, Event.started,
          Event.finished, if_neg (Ne.symm hne)]
        exact h w'
  | miss w go l hseat hmiss =>
      by_cases hne : w' = w
      · subst hne
        obtain ⟨xs, htalk, hjobs, hanswers⟩ := (h w').of_listening hseat
        exact .of_rest (htalk.miss hmiss) hjobs hanswers
      · exact (h w').rest hne go l
  | act w j r k hseat =>
      by_cases hne : w' = w
      · subst hne
        obtain ⟨xs, hbusy⟩ := (h w').of_working hseat
        have hstill : Busy lines l₀ (d.enter w' r) w' xs j :=
          ⟨hbusy.talk, hbusy.jobs, hbusy.answers⟩
        exact hstill.settle _
      · have hstill : ServesAt lines l₀ (d.enter w r) w' := h w'
        exact hstill.settle hne j _
  | send w j a go l hseat hsend =>
      by_cases hne : w' = w
      · subst hne
        obtain ⟨xs, htalk, hjobs, hanswers⟩ := (h w').of_sending hseat
        exact .of_rest (htalk.send hsend) hjobs hanswers
      · exact (h w').rest hne go l

/-- Every thread alternates between its jobs and their answers, whatever the others do. -/
theorem serves (r : Reach lines prog (fresh s₀ l₀) d) (w : W) : ServesAt lines l₀ d w := by
  induction r generalizing w with
  | refl => exact .listening .start
  | tail _ hstep ih => exact ServesAt.step ih hstep w

/-! ## What the answers are -/

/-- The job that is being served has no answer yet. -/
theorem zip_jobs {α β : Type} (xs : List (α × β)) (a : α) :
    (xs.map Prod.fst ++ [a]).zip (xs.map Prod.snd) = (xs.map Prod.fst).zip (xs.map Prod.snd) := by
  have hzip : (xs.map Prod.fst ++ [a]).zip (xs.map Prod.snd ++ []) =
      (xs.map Prod.fst).zip (xs.map Prod.snd) ++ [a].zip [] := List.zip_append (by simp)
  rwa [List.append_nil, List.zip_nil_right, List.append_nil] at hzip

theorem zip_answered {α β : Type} (xs : List (α × β)) :
    (xs.map Prod.fst).zip (xs.map Prod.snd) = xs := by
  rw [List.zip_map', List.map_id'']
  exact fun _ => rfl

/-- The code of a thread ends with an answer that its job allows. -/
def Keeps (post : J → α → Prop) (d : Drivers I W J α L) : Prop :=
  ∀ w, match d.seat w with
    | .working j p => p.Always (post j)
    | .sending j a => post j a
    | _ => True

theorem Keeps.settle {post : J → α → Prop} (h : Keeps post d) {w : W} {j : J} {p : Prog I α}
    (hp : p.Always (post j)) : Keeps post (d.settle w j p) := by
  intro w'
  by_cases hne : w' = w
  · subst hne
    cases p with
    | ret a =>
        simp only [Drivers.settle, Function.update_self]
        exact hp
    | req r k =>
        simp only [Drivers.settle, Function.update_self]
        exact hp
  · cases p with
    | ret a =>
        simp only [Drivers.settle, Function.update_of_ne hne]
        exact h w'
    | req r k =>
        simp only [Drivers.settle, Function.update_of_ne hne]
        exact h w'

theorem Keeps.rest {post : J → α → Prop} (h : Keeps post d) (w : W) (go : Bool) (l : L w) :
    Keeps post (d.rest w go l) := by
  intro w'
  by_cases hne : w' = w
  · subst hne
    cases go <;> simp only [Drivers.rest, Function.update_self, Seat.next]
  · simp only [Drivers.rest, Function.update_of_ne hne]
    exact h w'

theorem Keeps.step {post : J → α → Prop} (h : Keeps post d) (hprog : ∀ j, (prog j).Always (post j))
    (hd : Step lines prog d d') : Keeps post d' := by
  cases hd with
  | recv w j l hseat hrecv =>
      have hheard : Keeps post (d.hear w j l) := h
      exact hheard.settle (hprog j)
  | miss w go l hseat hmiss => exact h.rest w go l
  | act w j r k hseat =>
      have hentered : Keeps post (d.enter w r) := h
      have hcode := h w
      rw [hseat] at hcode
      exact hentered.settle (hcode d.shared)
  | send w j a go l hseat hsend => exact h.rest w go l

theorem keeps {post : J → α → Prop} (hprog : ∀ j, (prog j).Always (post j))
    (r : Reach lines prog (fresh s₀ l₀) d) : Keeps post d := by
  induction r with
  | refl => exact fun _ => trivial
  | tail _ hstep ih => exact ih.step hprog hstep

/-- Every job of a thread that is answered has an answer it allows. -/
def Allows (post : J → α → Prop) (w : W) (log : List (Event I W J α)) : Prop :=
  ∀ x ∈ (Event.started w log).zip (Event.finished w log), post x.1 x.2

theorem Allows.settle {post : J → α → Prop} {w w' : W} (h : Allows post w' d.log)
    {xs : List (J × α)} {j : J} (hbusy : Busy lines l₀ d w xs j) {p : Prog I α}
    (hp : p.Always (post j)) : Allows post w' (d.settle w j p).log := by
  cases p with
  | ret a =>
      by_cases hne : w = w'
      · subst hne
        rw [Allows, hbusy.jobs, hbusy.answers, zip_jobs, zip_answered] at h
        rw [Allows]
        simp only [Drivers.settle, Event.started, Event.finished, if_true, hbusy.jobs,
          hbusy.answers]
        rw [List.zip_append (by simp), zip_answered]
        intro x hx
        rcases List.mem_append.mp hx with hx | hx
        · exact h x hx
        · rw [List.mem_singleton.mp hx]
          exact hp
      · simp only [Allows, Drivers.settle, Event.started, Event.finished, if_neg hne]
        exact h
  | req r k => exact h

/-- If the code of a job ends with an answer that the job allows, whatever states its requests
meet, then the answers of every thread are such. -/
theorem allows {post : J → α → Prop} (hprog : ∀ j, (prog j).Always (post j))
    (r : Reach lines prog (fresh s₀ l₀) d) (w' : W) : Allows post w' d.log := by
  induction r with
  | refl => exact nofun
  | @tail d d' r hstep ih =>
      cases hstep with
      | recv w j l hseat hrecv =>
          obtain ⟨xs, hbusy⟩ := (serves r w).hear hseat hrecv
          refine Allows.settle ?_ hbusy (hprog j)
          by_cases hne : w = w'
          · subst hne
            obtain ⟨ys, -, hjobs, hanswers⟩ := (serves r w).of_listening hseat
            rw [Allows, hjobs, hanswers] at ih
            show Allows post w (.start w j :: d.log)
            simp only [Allows, Event.started, Event.finished, if_true, hjobs, hanswers, zip_jobs]
            exact ih
          · simp only [Allows, hear, Event.started, Event.finished, if_neg hne]
            exact ih
      | miss w go l hseat hmiss => exact ih
      | act w j r' k hseat =>
          obtain ⟨xs, htalk, hjobs, hanswers⟩ := (serves r w).of_working hseat
          have hcode := keeps hprog r w
          rw [hseat] at hcode
          have hbusy : Busy lines l₀ (d.enter w r') w xs j := ⟨htalk, hjobs, hanswers⟩
          exact Allows.settle (d := d.enter w r') ih hbusy (hcode d.shared)
      | send w j a go l hseat hsend => exact ih

/-! ## One machine behind the lock -/

section

variable {σ ι ο : Type} {M : Machine σ ι ο} {lines : (w : W) → Line (L w) ι ο} {s₀ : σ}
  {l₀ : (w : W) → L w} {d : Drivers (.ofMachine M) W ι ο L}

/-- The code of a thread is the request of its job. -/
def CallsOnly (d : Drivers (.ofMachine M) W ι ο L) : Prop :=
  ∀ w j p, d.seat w = .working j p → p = .call (I := .ofMachine M) j

/-- A thread with a new job. -/
theorem CallsOnly.settle_call (h : CallsOnly d) (w : W) (j : ι) :
    CallsOnly (d.settle w j (.call (I := .ofMachine M) j)) := by
  intro w' j' p hseat
  by_cases hne : w' = w
  · subst hne
    simp only [settle, Prog.call, Function.update_self, Seat.working.injEq] at hseat
    obtain ⟨rfl, rfl⟩ := hseat
    rfl
  · simp only [settle, Prog.call, Function.update_of_ne hne] at hseat
    exact h w' j' p hseat

/-- A thread that has its answer. -/
theorem CallsOnly.settle_ret (h : CallsOnly d) (w : W) (j : ι) (a : ο) :
    CallsOnly (d.settle w j (.ret a)) := by
  intro w' j' p hseat
  by_cases hne : w' = w
  · subst hne
    simp [settle] at hseat
  · simp only [settle, Function.update_of_ne hne] at hseat
    exact h w' j' p hseat

theorem CallsOnly.rest (h : CallsOnly d) (w : W) (go : Bool) (l : L w) :
    CallsOnly (d.rest w go l) := by
  intro w' j' p hseat
  by_cases hne : w' = w
  · subst hne
    cases go <;> simp [Drivers.rest, Seat.next] at hseat
  · simp only [Drivers.rest, Function.update_of_ne hne] at hseat
    exact h w' j' p hseat

/-- The history of the machine consists of the exchanges of the threads, each thread's in its
order. -/
structure Told (d : Drivers (.ofMachine M) W ι ο L) : Prop where
  calls : CallsOnly d
  run : M.Run Machine.anyInput ((Event.requests d.log).map Prod.snd) d.shared
  own : ∀ w, Event.exchanges w d.log = (Event.started w d.log).zip (Event.finished w d.log)

theorem Told.step (h : Told d) (hserves : ∀ w, ServesAt lines l₀ d w)
    {d' : Drivers (.ofMachine M) W ι ο L} (hd : Step lines (Prog.call (I := .ofMachine M)) d d') :
    Told d' := by
  cases hd with
  | recv w j l hseat hrecv =>
      have hheard : CallsOnly (d.hear w j l) := h.calls
      refine ⟨hheard.settle_call w j, h.run, fun w' => ?_⟩
      show Event.exchanges w' d.log = (Event.started w' (.start w j :: d.log)).zip
        (Event.finished w' d.log)
      by_cases hne : w = w'
      · subst hne
        obtain ⟨xs, -, hjobs, hanswers⟩ := (hserves w).of_listening hseat
        rw [h.own, Event.started, if_pos rfl, hjobs, hanswers, zip_jobs]
      · rw [h.own, Event.started, if_neg hne]
  | miss w go l hseat hmiss => exact ⟨h.calls.rest w go l, h.run, h.own⟩
  | act w j r k hseat =>
      have hcall := h.calls w j _ hseat
      cases hcall
      have hentered : CallsOnly (d.enter w j) := h.calls
      refine ⟨hentered.settle_ret w j _, h.run.step j trivial, fun w' => ?_⟩
      show Event.exchanges w' (.finish w _ :: .act w j _ :: d.log) =
        (Event.started w' d.log).zip (Event.finished w' (.finish w _ :: .act w j _ :: d.log))
      by_cases hne : w = w'
      · subst hne
        obtain ⟨xs, -, hjobs, hanswers⟩ := (hserves w).of_working hseat
        simp only [Event.exchanges, Event.finished, if_true, h.own, hjobs, hanswers, zip_jobs]
        rw [List.zip_append (by simp)]
        rfl
      · simp only [Event.exchanges, Event.finished, if_neg hne]
        exact h.own w'
  | send w j a go l hseat hsend => exact ⟨h.calls.rest w go l, h.run, h.own⟩

theorem told (hs : M.init s₀)
    (r : Reach lines (Prog.call (I := .ofMachine M)) (fresh (I := .ofMachine M) s₀ l₀) d) :
    Told d := by
  induction r with
  | refl => exact ⟨nofun, .init hs, fun w => rfl⟩
  | tail r hstep ih => exact ih.step (serves r) hstep

end

end Drivers
