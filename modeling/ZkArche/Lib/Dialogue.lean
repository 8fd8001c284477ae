import Mathlib.Data.List.Range
import ZkArche.Lib.Machine

/-!
# A client and a machine over a network

A client talks to a machine that others use as well.  A *joint run* interleaves the events of
the client with the inputs of the machine.  What the network may deliver to the client is a
condition on the history of the machine, and what may reach the machine is a condition on the
log of the client.  So messages may be delayed, lost, repeated and overtaken.

In a *dialogue* the client asks one question after the other, each after the answer to the one
before, and the machine remembers its answers.  However often a question arrives, it takes
effect once, the questions take effect in their order, and nothing is said to the client but
their answers (`Dialogue.stage`).
-/

namespace Machine

variable {σ ι ο α ρ : Type} {M : Machine σ ι ο} {may : α → List (ι × ο) → Prop}
  {ok : List α → σ → ι → Prop}

/-! ## Joint runs -/

/-- The logs of a client, the histories of the machine and its states, newest first. -/
inductive Joint (M : Machine σ ι ο) (may : α → List (ι × ο) → Prop)
    (ok : List α → σ → ι → Prop) : List α → List (ι × ο) → σ → Prop where
  | init {s : σ} : M.init s → Joint M may ok [] [] s
  | client {log : List α} {h : List (ι × ο)} {s : σ} (e : α) :
      Joint M may ok log h s → may e h → Joint M may ok (e :: log) h s
  | serve {log : List α} {h : List (ι × ο)} {s : σ} (i : ι) :
      Joint M may ok log h s → ok log s i →
      Joint M may ok log ((i, (M.step s i).2) :: h) (M.step s i).1

/-- The machine's part of a joint run is a run. -/
theorem Joint.run {log : List α} {h : List (ι × ο)} {s : σ} (j : Joint M may ok log h s) :
    M.Run anyInput h s := by
  induction j with
  | init hs => exact .init hs
  | client e _ _ ih => exact ih
  | serve i _ _ ih => exact ih.step i trivial

/-- The joint run before the latest event of the client. -/
theorem Joint.of_cons {e : α} {log : List α} {h : List (ι × ο)} {s : σ}
    (j : Joint M may ok (e :: log) h s) :
    ∃ later earlier s', h = later ++ earlier ∧ Joint M may ok log earlier s' ∧ may e earlier := by
  generalize hl : e :: log = full at j
  induction j with
  | init => cases hl
  | client e' j hm =>
      cases hl
      exact ⟨[], _, _, rfl, j, hm⟩
  | serve i _ _ ih =>
      obtain ⟨later, earlier, s', rfl, j, hm⟩ := ih hl
      exact ⟨_ :: later, earlier, s', rfl, j, hm⟩

/-- The joint run before the latest events of the client. -/
theorem Joint.of_append {new log : List α} {h : List (ι × ο)} {s : σ}
    (j : Joint M may ok (new ++ log) h s) :
    ∃ later earlier s', h = later ++ earlier ∧ Joint M may ok log earlier s' := by
  induction new generalizing h s with
  | nil => exact ⟨[], h, s, rfl, j⟩
  | cons e new ih =>
      obtain ⟨later, earlier, s', rfl, jn, -⟩ := j.of_cons
      obtain ⟨later', earlier', s'', rfl, jl⟩ := ih jn
      exact ⟨later ++ later', earlier', s'', (List.append_assoc ..).symm, jl⟩

/-- An event of the client happened after a part of the history that allows it. -/
theorem Joint.of_mem {e : α} {log : List α} {h : List (ι × ο)} {s : σ}
    (j : Joint M may ok log h s) (he : e ∈ log) :
    ∃ later earlier s', h = later ++ earlier ∧ M.Run anyInput earlier s' ∧ may e earlier := by
  obtain ⟨new, old, rfl⟩ := List.append_of_mem he
  obtain ⟨later, earlier, s', rfl, jn⟩ := j.of_append
  obtain ⟨later', earlier', s'', rfl, jo, hm⟩ := jn.of_cons
  exact ⟨later ++ later', earlier', s'', (List.append_assoc ..).symm, jo.run, hm⟩

theorem Joint.mono {ok' : List α → σ → ι → Prop} (hok : ∀ log s i, ok log s i → ok' log s i)
    {log : List α} {h : List (ι × ο)} {s : σ} (j : Joint M may ok log h s) :
    Joint M may ok' log h s := by
  induction j with
  | init hs => exact .init hs
  | client e _ hm ih => exact ih.client e hm
  | serve i _ hi ih => exact ih.serve i (hok _ _ _ hi)

/-- What holds in every run holds at every input. -/
theorem Joint.along {I : σ → Prop} (hI : ∀ h s, M.Run anyInput h s → I s) {log : List α}
    {h : List (ι × ο)} {s : σ} (j : Joint M may ok log h s) :
    Joint M may (fun log s i => ok log s i ∧ I s) log h s := by
  induction j with
  | init hs => exact .init hs
  | client e _ hm ih => exact ih.client e hm
  | serve i j hi ih => exact ih.serve i ⟨hi, hI _ _ j.run⟩

/-! ## Dialogues -/

/-- What one input does to a dialogue whose first `n` questions are answered: what is said to
the client, what is computed for it, and how many questions are answered then. -/
inductive Turn (asks : ℕ → α) (answer : ℕ → ρ) (rounds : ℕ) (log : List α) (n : ℕ) :
    Option ρ → Option ρ → ℕ → Prop where
  /-- The input belongs to somebody else. -/
  | foreign : Turn asks answer rounds log n none none n
  /-- A question arrives again. -/
  | again {k : ℕ} : k < n → Turn asks answer rounds log n (some (answer k)) none n
  /-- A question arrives for the first time. -/
  | next : n < rounds → asks n ∈ log →
      Turn asks answer rounds log n (some (answer n)) (some (answer n)) (n + 1)

/-- A dialogue of a client with the machine. -/
structure Dialogue (M : Machine σ ι ο) (may : α → List (ι × ο) → Prop)
    (ok : List α → σ → ι → Prop) (ρ : Type) where
  /-- The number of questions. -/
  rounds : ℕ
  asks : ℕ → α
  hears : ρ → α
  answer : ℕ → ρ
  /-- What the client may do. -/
  event : α → Prop
  /-- What an entry of the history says to the client. -/
  said : ι × ο → Option ρ
  /-- What an entry of the history computes for the client. -/
  fresh : ι × ο → Option ρ
  /-- What an entry does when it computes the answer to a question. -/
  Effect : ℕ → ι × ο → Prop
  /-- The machine has answered the first `n` questions. -/
  Stage : ℕ → σ → Prop
  start : ∀ s, M.init s → Stage 0 s
  distinct : ∀ j k, j < rounds → k < rounds → answer j = answer k → j = k
  /-- An answer that is delivered was said. -/
  heard : ∀ h s k, M.Run anyInput h s → k < rounds → may (hears (answer k)) h →
    ∃ e ∈ h, said e = some (answer k)
  /-- An input is a turn, unless it is a question that is asked too early. -/
  turn : ∀ log h s i n, Joint M may ok log h s → (∀ e ∈ log, event e) → ok log s i → Stage n s →
    (∃ k, n < k ∧ k < rounds ∧ asks k ∈ log) ∨
    ∃ n', Turn asks answer rounds log n (said (i, (M.step s i).2)) (fresh (i, (M.step s i).2)) n' ∧
      Stage n' (M.step s i).1 ∧ ((fresh (i, (M.step s i).2)).isSome → Effect n (i, (M.step s i).2))

namespace Dialogue

variable (D : Dialogue M may ok ρ)

/-- The client does nothing else, and asks every question but the first after the answer to the
one before. -/
structure Orderly (log : List α) : Prop where
  events : ∀ e ∈ log, D.event e
  order : ∀ k new old, k + 1 < D.rounds → log = new ++ D.asks (k + 1) :: old →
    D.hears (D.answer k) ∈ old

variable {D}

theorem Orderly.of_append {new log : List α} (ho : D.Orderly (new ++ log)) : D.Orderly log := by
  refine ⟨fun e he => ho.events e (List.mem_append_right new he), fun k new' old hk hlog => ?_⟩
  exact ho.order k (new ++ new') old hk (by rw [hlog, List.append_assoc])

/-- Where a dialogue stands: the answers are those to the first `n` questions, each was computed
once and in their order, and took effect then, and every answered question was asked. -/
structure Stands (D : Dialogue M may ok ρ) (log : List α) (h : List (ι × ο)) (s : σ) (n : ℕ) :
    Prop where
  stage : D.Stage n s
  rounds : n ≤ D.rounds
  said : ∀ e ∈ h, ∀ r, D.said e = some r → ∃ k < n, r = D.answer k
  fresh : h.filterMap D.fresh = ((List.range n).map D.answer).reverse
  effect : ∀ k < n, ∃ e ∈ h, D.fresh e = some (D.answer k) ∧ D.Effect k e
  asked : ∀ k < n, D.asks k ∈ log

/-- An answer that the client heard is one of those that were given. -/
theorem Stands.lt_of_heard {log : List α} {h : List (ι × ο)} {s : σ} {n k : ℕ}
    (hs : D.Stands log h s n) (j : Joint M may ok log h s) (hk : k < D.rounds)
    (hh : D.hears (D.answer k) ∈ log) : k < n := by
  obtain ⟨later, earlier, s', rfl, r, hm⟩ := j.of_mem hh
  obtain ⟨e, he, hsaid⟩ := D.heard earlier s' k r hk hm
  obtain ⟨i, hi, heq⟩ := hs.said e (List.mem_append_right later he) _ hsaid
  rwa [D.distinct k i hk (hi.trans_le hs.rounds) heq]

/-- No question is asked before its turn. -/
theorem Stands.le_of_asked {log : List α} {h : List (ι × ο)} {s : σ} {n k : ℕ}
    (hs : D.Stands log h s n) (j : Joint M may ok log h s) (ho : D.Orderly log)
    (hk : k < D.rounds) (ha : D.asks k ∈ log) : k ≤ n := by
  cases k with
  | zero => exact Nat.zero_le n
  | succ k =>
      obtain ⟨new, old, rfl⟩ := List.append_of_mem ha
      have hheard : D.hears (D.answer k) ∈ new ++ D.asks (k + 1) :: old :=
        List.mem_append_right new (List.mem_cons_of_mem _ (ho.order k new old hk rfl))
      exact hs.lt_of_heard j (by omega) hheard

/-- One input. -/
theorem Stands.serve {log : List α} {h : List (ι × ο)} {s : σ} {n : ℕ} {i : ι}
    (hs : D.Stands log h s n) (j : Joint M may ok log h s) (ho : D.Orderly log)
    (hi : ok log s i) :
    ∃ n', D.Stands log ((i, (M.step s i).2) :: h) (M.step s i).1 n' := by
  obtain ⟨k, hnk, hk, ha⟩ | ⟨n', ht, hstage, heffect⟩ := D.turn log h s i n j ho.events hi hs.stage
  · exact absurd (hs.le_of_asked j ho hk ha) (by omega)
  have hkeep : ∀ k < n, ∃ e ∈ (i, (M.step s i).2) :: h, D.fresh e = some (D.answer k) ∧
      D.Effect k e := by
    intro k hk
    obtain ⟨e, he, hf⟩ := hs.effect k hk
    exact ⟨e, List.mem_cons_of_mem _ he, hf⟩
  generalize hsaid : D.said (i, (M.step s i).2) = said at ht
  generalize hfresh : D.fresh (i, (M.step s i).2) = fresh at ht heffect
  cases ht with
  | foreign =>
      refine ⟨n, hstage, hs.rounds, List.forall_mem_cons.mpr ⟨?_, hs.said⟩, ?_, hkeep,
        hs.asked⟩
      · intro r hr
        rw [hsaid] at hr
        cases hr
      · rw [List.filterMap_cons_none hfresh, hs.fresh]
  | @again k hk =>
      refine ⟨n, hstage, hs.rounds, List.forall_mem_cons.mpr ⟨?_, hs.said⟩, ?_, hkeep,
        hs.asked⟩
      · intro r hr
        rw [hsaid] at hr
        exact ⟨k, hk, (Option.some.inj hr).symm⟩
      · rw [List.filterMap_cons_none hfresh, hs.fresh]
  | next hn ha =>
      refine ⟨n + 1, hstage, hn, List.forall_mem_cons.mpr ⟨?_, ?_⟩, ?_, ?_, ?_⟩
      · intro r hr
        rw [hsaid] at hr
        exact ⟨n, n.lt_succ_self, (Option.some.inj hr).symm⟩
      · intro e he r hr
        obtain ⟨k, hk, rfl⟩ := hs.said e he r hr
        exact ⟨k, by omega, rfl⟩
      · rw [List.filterMap_cons_some hfresh, hs.fresh, List.range_succ, List.map_append,
          List.reverse_append]
        rfl
      · intro k hk
        obtain hlt | rfl := Nat.lt_succ_iff_lt_or_eq.mp hk
        · exact hkeep k hlt
        · exact ⟨_, List.mem_cons_self, hfresh, heffect rfl⟩
      · intro k hk
        obtain hlt | rfl := Nat.lt_succ_iff_lt_or_eq.mp hk
        · exact hs.asked k hlt
        · exact ha

/-- In every joint run with an orderly client the dialogue stands somewhere. -/
theorem stage {log : List α} {h : List (ι × ο)} {s : σ} (j : Joint M may ok log h s)
    (ho : D.Orderly log) : ∃ n, D.Stands log h s n := by
  induction j with
  | init hs =>
      exact ⟨0, D.start _ hs, Nat.zero_le _, List.forall_mem_nil _, rfl, fun k hk => by omega,
        fun k hk => by omega⟩
  | client e _ _ ih =>
      rw [← List.singleton_append] at ho
      obtain ⟨n, hs⟩ := ih ho.of_append
      exact ⟨n, hs.stage, hs.rounds, hs.said, hs.fresh, hs.effect,
        fun k hk => List.mem_cons_of_mem e (hs.asked k hk)⟩
  | serve i j hi ih =>
      obtain ⟨n, hs⟩ := ih ho
      exact hs.serve j ho hi

end Dialogue

end Machine
