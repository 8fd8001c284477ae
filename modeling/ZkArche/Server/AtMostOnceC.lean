import ZkArche.Proto.ClientC
import ZkArche.Server.OwnershipC

/-!
# At most one acknowledgement for a session of the C server

A session ends when its final packet is accepted: a SETUP session with one write of the
registry and a SETUP_ACK, an AUTH session with an AUTH_ACK.  `dispatch` looks the session
up in one critical section and releases it in another, so two workers may accept a final
packet of one session.

The ledger counts per session.  `Once` is the invariant.  At most one worker that accepted
is under way for a session, a worker that released has left no slot with its session, and
a session that was written or acknowledged is over.  `at_most_once` holds for all schedules
in which no worker accepts a packet for a slot that another accepting worker has not
released yet.
-/

namespace ZkArche.C

/-! ## Accepting workers -/

/-- The worker accepted a final packet. -/
def Tok.accepted : Tok → Bool
  | .found _ ok => ok
  | .done ok => ok
  | _ => false

/-- The slot of a worker that accepted a final packet and has not released the slot. -/
def Tok.acceptedSlot : Tok → Option ℕ
  | .found i true => some i
  | _ => none

theorem Tok.acceptedSlot_eq_none {τ : Tok} (h : τ.accepted = false) : τ.acceptedSlot = none := by
  cases τ with
  | found i ok =>
      cases h
      rfl
  | _ => rfl

/-- The acknowledgements sent for a session. -/
def Ledger.acks (L : Ledger) (n : ℕ) : ℕ := L.setupAcks n + L.authAcks n

/-- The session has begun, and no slot holds it any more. -/
structure Ledger.Left (L : Ledger) (n : ℕ) : Prop where
  begun : n < L.next
  gone : ∀ j, L.slot j ≠ some n

theorem Ledger.Left.mono {L L' : Ledger} {n : ℕ} (h : L.Left n) (hnext : L.next ≤ L'.next)
    (hslot : ∀ j, L'.slot j = some n → L.slot j = some n) : L'.Left n :=
  ⟨lt_of_lt_of_le h.begun hnext, fun j hj => h.gone j (hslot j hj)⟩

/-- The sessions and who is under way for them. -/
structure Once (t : SessionTable) (L : Ledger) (T : ℕ → Tok) : Prop where
  mirror : Mirror t L
  begun : ∀ i n, L.slot i = some n → n < L.next
  apart : ∀ i j n, L.slot i = some n → L.slot j = some n → i = j
  /-- A worker that accepted knows its session, and only its slot may still hold it. -/
  accepted : ∀ w, (T w).accepted = true → ∃ n, L.worker w = some n ∧ n < L.next ∧
    ∀ j, L.slot j = some n → (T w).acceptedSlot = some j
  sole : ∀ w w' n, (T w).accepted = true → (T w').accepted = true → L.worker w = some n →
    L.worker w' = some n → w = w'
  written : ∀ n, L.writes n ≠ 0 → L.writes n = 1 ∧ L.Left n ∧
    ∀ w, L.worker w = some n → (T w).acceptedSlot = none
  acked : ∀ n, L.acks n ≠ 0 → L.acks n = 1 ∧ L.Left n ∧
    ∀ w, L.worker w = some n → (T w).accepted = false
  strays : L.strays = 0

namespace Once

variable {t : SessionTable} {L : Ledger} {T : ℕ → Tok}

/-- A worker that has not accepted moves on, and slots are at most emptied. -/
theorem fade (h : Once t L T) {t' : SessionTable} {L' : Ledger} {w : ℕ} {τ : Tok}
    (hτ : τ.accepted = false) (hm : Mirror t' L') (hnext : L'.next = L.next)
    (hslot : ∀ i n, L'.slot i = some n → L.slot i = some n)
    (hworker : ∀ w', w' ≠ w → L'.worker w' = L.worker w') (hwrites : L'.writes = L.writes)
    (hacks : L'.acks = L.acks) (hstrays : L'.strays = L.strays) :
    Once t' L' (Function.update T w τ) := by
  have hleft : ∀ {n}, L.Left n → L'.Left n := fun {n} hn =>
    hn.mono hnext.ge fun j => hslot j n
  have hacc : ∀ {w'}, (Function.update T w τ w').accepted = true → w' ≠ w := by
    rintro w' h1 rfl
    rw [Function.update_self, hτ] at h1
    cases h1
  refine ⟨hm, ?_, ?_, ?_, ?_, ?_, ?_, hstrays ▸ h.strays⟩
  · intro i n hi
    rw [hnext]
    exact h.begun i n (hslot i n hi)
  · intro i j n hi hj
    exact h.apart i j n (hslot i n hi) (hslot j n hj)
  · intro w' h1
    have hw' := hacc h1
    rw [Function.update_of_ne hw'] at h1 ⊢
    obtain ⟨n, hn, hlt, hj⟩ := h.accepted w' h1
    rw [hworker w' hw', hnext]
    exact ⟨n, hn, hlt, fun j hs => hj j (hslot j n hs)⟩
  · intro w' w'' n h1 h2 hn1 hn2
    have hw' := hacc h1
    have hw'' := hacc h2
    rw [Function.update_of_ne hw'] at h1
    rw [Function.update_of_ne hw''] at h2
    rw [hworker w' hw'] at hn1
    rw [hworker w'' hw''] at hn2
    exact h.sole w' w'' n h1 h2 hn1 hn2
  · intro n hn
    rw [hwrites] at hn ⊢
    obtain ⟨h1, hl, hw⟩ := h.written n hn
    refine ⟨h1, hleft hl, ?_⟩
    intro w' hw'
    by_cases hww : w' = w
    · rw [hww, Function.update_self]
      exact Tok.acceptedSlot_eq_none hτ
    · rw [Function.update_of_ne hww]
      exact hw w' (hworker w' hww ▸ hw')
  · intro n hn
    rw [hacks] at hn ⊢
    obtain ⟨h1, hl, hw⟩ := h.acked n hn
    refine ⟨h1, hleft hl, ?_⟩
    intro w' hw'
    by_cases hww : w' = w
    · rw [hww, Function.update_self]
      exact hτ
    · rw [Function.update_of_ne hww]
      exact hw w' (hworker w' hww ▸ hw')

/-- Emptying a slot leaves no new session. -/
theorem clear_slot (L : Ledger) (i : ℕ) :
    ∀ j n, (L.clear i).slot j = some n → L.slot j = some n := by
  intro j n hj
  by_cases hji : j = i
  · subst hji
    simp [Ledger.clear] at hj
  · simpa [Ledger.clear, Function.update_of_ne hji] using hj

/-- A new session begins. -/
theorem activate (h : Once t L T) {w i : ℕ} {s s' : Slot} (hi : t[i]? = some s')
    (hs : s.active = true) :
    Once (t.set i s) (L.fill i) (Function.update T w (.done false)) := by
  -- the new session has a number that nothing in the books carries yet
  have hslot : ∀ {j n}, (L.fill i).slot j = some n →
      (j = i ∧ n = L.next) ∨ (j ≠ i ∧ L.slot j = some n) := by
    intro j n hj
    by_cases hji : j = i
    · subst hji
      exact .inl ⟨rfl, by simpa [Ledger.fill, eq_comm] using hj⟩
    · exact .inr ⟨hji, by simpa [Ledger.fill, Function.update_of_ne hji] using hj⟩
  have hleft : ∀ {n}, L.Left n → (L.fill i).Left n := by
    intro n hn
    apply hn.mono (Nat.le_succ _)
    intro j hj
    obtain ⟨-, rfl⟩ | ⟨-, hj'⟩ := hslot hj
    · exact absurd hn.begun (lt_irrefl _)
    · exact hj'
  have hacc : ∀ {w'}, (Function.update T w (.done false) w').accepted = true →
      (T w').accepted = true ∧ Function.update T w (.done false) w' = T w' := by
    intro w' h1
    by_cases hw : w' = w
    · subst hw
      simp [Tok.accepted] at h1
    · rw [Function.update_of_ne hw] at h1
      exact ⟨h1, Function.update_of_ne hw _ _⟩
  have hnot : ∀ w', (Function.update T w (.done false) w') = T w' ∨
      (Function.update T w (.done false) w') = .done false := by
    intro w'
    by_cases hw : w' = w
    · subst hw
      exact .inr (Function.update_self _ _ _)
    · exact .inl (Function.update_of_ne hw _ _)
  refine ⟨h.mirror.fill hi hs, ?_, ?_, ?_, ?_, ?_, ?_, h.strays⟩
  · intro j n hj
    obtain ⟨-, rfl⟩ | ⟨-, hj⟩ := hslot hj
    · exact Nat.lt_succ_self _
    · exact Nat.lt_succ_of_lt (h.begun j n hj)
  · intro j k n hj hk
    obtain ⟨hji, hn⟩ | ⟨-, hj'⟩ := hslot hj <;> obtain ⟨hki, hn'⟩ | ⟨-, hk'⟩ := hslot hk
    · rw [hji, hki]
    · exact absurd (hn ▸ h.begun k n hk') (lt_irrefl _)
    · exact absurd (hn' ▸ h.begun j n hj') (lt_irrefl _)
    · exact h.apart j k n hj' hk'
  · intro w' h1
    obtain ⟨h1, heq⟩ := hacc h1
    obtain ⟨n, hn, hlt, hj⟩ := h.accepted w' h1
    refine ⟨n, hn, Nat.lt_succ_of_lt hlt, ?_⟩
    intro j hs
    obtain ⟨-, rfl⟩ | ⟨-, hs⟩ := hslot hs
    · exact absurd hlt (lt_irrefl _)
    · rw [heq]
      exact hj j hs
  · intro w' w'' n h1 h2 hn1 hn2
    exact h.sole w' w'' n (hacc h1).1 (hacc h2).1 hn1 hn2
  · intro n hn
    obtain ⟨h1, hl, hw⟩ := h.written n hn
    refine ⟨h1, hleft hl, fun w' hw' => ?_⟩
    obtain heq | heq := hnot w'
    · rw [heq]
      exact hw w' hw'
    · rw [heq]
      rfl
  · intro n hn
    obtain ⟨h1, hl, hw⟩ := h.acked n hn
    refine ⟨h1, hleft hl, fun w' hw' => ?_⟩
    obtain heq | heq := hnot w'
    · rw [heq]
      exact hw w' hw'
    · rw [heq]
      rfl

/-- A worker accepts a packet for a slot that no other accepting worker has. -/
theorem find (h : Once t L T) {w i : ℕ} {s : Slot} (hi : t[i]? = some s)
    (hs : s.active = true) (hsole : ∀ w', w' ≠ w → (T w').acceptedSlot ≠ some i) :
    Once t (L.look w i) (Function.update T w (.found i true)) := by
  obtain ⟨n, hn⟩ := h.mirror.session hi hs
  have hself : (L.look w i).worker w = some n := by simp [Ledger.look, hn]
  have hother : ∀ {w'}, w' ≠ w → (L.look w i).worker w' = L.worker w' := by
    intro w' hw
    simp [Ledger.look, Function.update_of_ne hw]
  -- whoever accepted for the session in the slot would be a rival for it
  have hrival : ∀ w', w' ≠ w → (T w').accepted = true → L.worker w' ≠ some n := by
    intro w' hw hacc hn'
    obtain ⟨m, hm, -, hj⟩ := h.accepted w' hacc
    rw [hn', Option.some.injEq] at hm
    subst hm
    exact hsole w' hw (hj i hn)
  have hnotLeft : ∀ {m}, L.Left m → m ≠ n := by
    rintro m hl rfl
    exact hl.gone i hn
  have hleft : ∀ {m}, L.Left m → (L.look w i).Left m := fun hl => hl.mono le_rfl fun _ hs => hs
  refine ⟨h.mirror, h.begun, h.apart, ?_, ?_, ?_, ?_, h.strays⟩
  · intro w' h1
    by_cases hw : w' = w
    · subst hw
      refine ⟨n, hself, h.begun i n hn, ?_⟩
      intro j hj
      rw [Function.update_self, h.apart j i n hj hn]
      rfl
    · rw [Function.update_of_ne hw] at h1 ⊢
      rw [hother hw]
      exact h.accepted w' h1
  · intro w' w'' m h1 h2 hm1 hm2
    by_cases hw' : w' = w <;> by_cases hw'' : w'' = w
    · rw [hw', hw'']
    · subst hw'
      rw [Function.update_of_ne hw''] at h2
      rw [hself, Option.some.injEq] at hm1
      rw [hother hw'', ← hm1] at hm2
      exact absurd hm2 (hrival w'' hw'' h2)
    · subst hw''
      rw [Function.update_of_ne hw'] at h1
      rw [hself, Option.some.injEq] at hm2
      rw [hother hw', ← hm2] at hm1
      exact absurd hm1 (hrival w' hw' h1)
    · rw [Function.update_of_ne hw'] at h1
      rw [Function.update_of_ne hw''] at h2
      rw [hother hw'] at hm1
      rw [hother hw''] at hm2
      exact h.sole w' w'' m h1 h2 hm1 hm2
  · intro m hm
    obtain ⟨h1, hl, hw⟩ := h.written m hm
    refine ⟨h1, hleft hl, fun w' hw' => ?_⟩
    by_cases hww : w' = w
    · subst hww
      rw [hself, Option.some.injEq] at hw'
      exact absurd hw'.symm (hnotLeft hl)
    · rw [Function.update_of_ne hww]
      exact hw w' (hother hww ▸ hw')
  · intro m hm
    obtain ⟨h1, hl, hw⟩ := h.acked m hm
    refine ⟨h1, hleft hl, fun w' hw' => ?_⟩
    by_cases hww : w' = w
    · subst hww
      rw [hself, Option.some.injEq] at hw'
      exact absurd hw'.symm (hnotLeft hl)
    · rw [Function.update_of_ne hww]
      exact hw w' (hother hww ▸ hw')

/-- An accepting worker releases its slot: its session is gone from the table. -/
theorem release (h : Once t L T) {w i : ℕ} (hw : T w = .found i true) :
    Once (t.set i .free) (L.clear i) (Function.update T w (.done true)) := by
  have hslot := clear_slot L i
  have hleft : ∀ {n}, L.Left n → (L.clear i).Left n := fun {n} hn =>
    hn.mono le_rfl fun j => hslot j n
  have hacc : ∀ {w'}, (Function.update T w (.done true) w').accepted = (T w').accepted := by
    intro w'
    by_cases hww : w' = w
    · subst hww
      rw [Function.update_self, hw]
      rfl
    · rw [Function.update_of_ne hww]
  refine ⟨h.mirror.clear i rfl, ?_, ?_, ?_, ?_, ?_, ?_, h.strays⟩
  · intro j n hj
    exact h.begun j n (hslot j n hj)
  · intro j k n hj hk
    exact h.apart j k n (hslot j n hj) (hslot k n hk)
  · intro w' h1
    rw [hacc] at h1
    obtain ⟨n, hn, hlt, hj⟩ := h.accepted w' h1
    refine ⟨n, hn, hlt, fun j hs => ?_⟩
    by_cases hww : w' = w
    · -- the only slot that may hold the session is the one just emptied
      subst hww
      have hji := hj j (hslot j n hs)
      rw [hw, Tok.acceptedSlot, Option.some.injEq] at hji
      subst hji
      simp [Ledger.clear] at hs
    · rw [Function.update_of_ne hww]
      exact hj j (hslot j n hs)
  · intro w' w'' n h1 h2 hn1 hn2
    exact h.sole w' w'' n (hacc ▸ h1) (hacc ▸ h2) hn1 hn2
  · intro n hn
    obtain ⟨h1, hl, hwr⟩ := h.written n hn
    refine ⟨h1, hleft hl, fun w' hw' => ?_⟩
    by_cases hww : w' = w
    · rw [hww, Function.update_self]
      rfl
    · rw [Function.update_of_ne hww]
      exact hwr w' hw'
  · intro n hn
    obtain ⟨h1, hl, hack⟩ := h.acked n hn
    refine ⟨h1, hleft hl, fun w' hw' => ?_⟩
    rw [hacc]
    exact hack w' hw'

/-- A session that no slot holds is written for the first time. -/
theorem write (h : Once t L T) {w n : ℕ} (hn : L.worker w = some n) (hl : L.Left n)
    (hzero : L.writes n = 0) (hnone : ∀ w', L.worker w' = some n → (T w').acceptedSlot = none) :
    Once t (L.write w) T := by
  have hleft : ∀ {m}, L.Left m → (L.write w).Left m := fun hl => hl.mono le_rfl fun _ hs => hs
  refine ⟨h.mirror, h.begun, h.apart, h.accepted, h.sole, ?_, ?_, ?_⟩
  · intro m hm
    by_cases hmn : n = m
    · subst hmn
      refine ⟨?_, hleft hl, hnone⟩
      simp [Ledger.write, bump, hn, hzero]
    · have hsame : (L.write w).writes m = L.writes m := by simp [Ledger.write, bump, hn, hmn]
      rw [hsame] at hm ⊢
      obtain ⟨h1, hl', hwr⟩ := h.written m hm
      exact ⟨h1, hleft hl', hwr⟩
  · intro m hm
    obtain ⟨h1, hl', hack⟩ := h.acked m hm
    exact ⟨h1, hleft hl', hack⟩
  · simp [Ledger.write, bumpStray, hn, h.strays]

/-- The acknowledgement of a session that is over. -/
theorem acknowledge (h : Once t L T) {L' : Ledger} {w n : ℕ} (hw : T w = .done true)
    (hn : L.worker w = some n) (hslot : L'.slot = L.slot) (hnext : L'.next = L.next)
    (hworker : L'.worker = Function.update L.worker w none) (hwrites : L'.writes = L.writes)
    (hacks : ∀ m, L'.acks m = L.acks m + if m = n then 1 else 0)
    (hstrays : L'.strays = L.strays) : Once t L' (Function.update T w .idle) := by
  have hacc : (T w).accepted = true := by
    rw [hw]
    rfl
  obtain ⟨n', hn', hlt, hj⟩ := h.accepted w hacc
  rw [hn, Option.some.injEq] at hn'
  subst hn'
  have hgone : ∀ j, L.slot j ≠ some n := by
    intro j hs
    have hji := hj j hs
    rw [hw] at hji
    cases hji
  -- first the worker goes idle, then its acknowledgement is counted
  have hidle : Once t (L.forget w) (Function.update T w .idle) :=
    h.fade rfl (h.mirror.of_slot_eq rfl) rfl (fun _ _ hs => hs)
      (fun w' hw' => Function.update_of_ne hw' _ _) rfl rfl rfl
  have hleft : ∀ {m}, L.Left m → L'.Left m := fun hm =>
    hm.mono hnext.ge fun j hs => hslot ▸ hs
  refine ⟨h.mirror.of_slot_eq hslot, ?_, ?_, ?_, ?_, ?_, ?_, hstrays ▸ h.strays⟩
  · rw [hslot, hnext]
    exact h.begun
  · rw [hslot]
    exact h.apart
  · rw [hworker, hslot, hnext]
    exact hidle.accepted
  · rw [hworker]
    exact hidle.sole
  · intro m hm
    rw [hwrites] at hm ⊢
    obtain ⟨h1, hl, hwr⟩ := hidle.written m hm
    rw [hworker]
    exact ⟨h1, hleft ⟨hl.begun, hl.gone⟩, hwr⟩
  · intro m hm
    rw [hworker]
    by_cases hmn : m = n
    · subst hmn
      have hzero : L.acks m = 0 := by
        by_contra hne
        rw [(h.acked m hne).2.2 w hn] at hacc
        cases hacc
      refine ⟨by simp [hacks, hzero], hleft ⟨hlt, hgone⟩, ?_⟩
      intro w' hw'
      by_cases hww : w' = w
      · rw [hww, Function.update_self]
        rfl
      · rw [Function.update_of_ne hww] at hw' ⊢
        by_contra hne
        exact hww (h.sole w' w m (by simpa using hne) hacc hw' hn)
    · have hsame : L'.acks m = L.acks m := by simp [hacks, hmn]
      rw [hsame] at hm ⊢
      obtain ⟨h1, hl, hack⟩ := hidle.acked m hm
      exact ⟨h1, hleft ⟨hl.begun, hl.gone⟩, hack⟩

/-- A section keeps the invariant, unless it accepts a packet for a slot that another
accepting worker has. -/
theorem effect (h : Once t L T) {w : ℕ} {τ τ' : Tok} {t' : SessionTable} {L' : Ledger}
    (hτ : T w = τ) (he : Effect t L w τ t' L' τ')
    (hsole : ∀ i, τ'.acceptedSlot = some i → ∀ w', w' ≠ w → (T w').acceptedSlot ≠ some i) :
    Once t' L' (Function.update T w τ') := by
  have hm := h.mirror.effect he
  have hlook : ∀ i w', w' ≠ w → (L.look w i).worker w' = L.worker w' :=
    fun i w' hw' => Function.update_of_ne hw' _ _
  cases he with
  | quiet hq =>
      rcases hq with ⟨rfl, -⟩ | rfl
      · rw [← hτ, Function.update_eq_self]
        exact h
      · exact h.fade rfl hm rfl (fun _ _ hs => hs) (fun _ _ => rfl) rfl rfl rfl
  | @reserved _ i _ => exact h.fade rfl hm rfl (clear_slot L i) (fun _ _ => rfl) rfl rfl rfl
  | @found _ i _ ok hi hs =>
      cases ok with
      | false => exact h.fade rfl hm rfl (fun _ _ hs => hs) (hlook i) rfl rfl rfl
      | true => exact h.find hi hs (hsole i rfl)
  | refused i => exact h.fade rfl hm rfl (fun _ _ hs => hs) (hlook i) rfl rfl rfl
  | activated hi hs => exact h.activate hi hs
  | @notActivated i _ => exact h.fade rfl hm rfl (clear_slot L i) (fun _ _ => rfl) rfl rfl rfl
  | @releasedOwned i => exact h.fade rfl hm rfl (clear_slot L i) (fun _ _ => rfl) rfl rfl rfl
  | @releasedFound i ok =>
      cases ok with
      | false => exact h.fade rfl hm rfl (clear_slot L i) (fun _ _ => rfl) rfl rfl rfl
      | true => exact h.release hτ
  | @enrolled i =>
      -- the write counts for a session that the release has just taken out of the table
      have hacc : (T w).accepted = true := by
        rw [hτ]
        rfl
      have hslot : (T w).acceptedSlot = some i := by
        rw [hτ]
        rfl
      obtain ⟨n, hn, hlt, hj⟩ := h.accepted w hacc
      have hrel := h.release hτ
      obtain ⟨n', hn', hlt', hj'⟩ := hrel.accepted w (by simp [Tok.accepted])
      have hnn : n' = n := by
        have hcast : (L.clear i).worker w = L.worker w := rfl
        rw [hcast, hn, Option.some.injEq] at hn'
        exact hn'.symm
      subst hnn
      apply hrel.write hn' ⟨hlt', ?_⟩
      · by_contra hne
        have hnone := (h.written n' hne).2.2 w hn
        rw [hslot] at hnone
        cases hnone
      · intro w' hw'
        by_cases hww : w' = w
        · rw [hww, Function.update_self]
          rfl
        · rw [Function.update_of_ne hww]
          apply Tok.acceptedSlot_eq_none
          by_contra hne
          exact hww (h.sole w' w n' (by simpa using hne) hacc hw' hn)
      · intro j hs
        have hji := hj' j hs
        rw [Function.update_self] at hji
        cases hji

theorem init (capacity : ℕ) : Once (authSessionTableInit capacity) .empty (fun _ => .idle) :=
  ⟨Mirror.init capacity, nofun, nofun, nofun, nofun, fun _ h => absurd rfl h,
    fun _ h => absurd rfl h, rfl⟩

/-- A packet that is no acknowledgement is not counted. -/
theorem send_of_not_ack (L : Ledger) (w : ℕ) {out : List UInt8} (h : ¬ IsAck out) :
    L.send w out = L := by
  simp only [IsAck, not_or] at h
  simp only [Ledger.send, h.1, h.2, if_false]

theorem finish (h : Once t L T) {w : ℕ} {out : List UInt8} (hfin : (T w).Fin out) :
    Once t ((L.send w out).forget w) (Function.update T w .idle) := by
  have hforget : ∀ w', w' ≠ w → (L.forget w).worker w' = L.worker w' :=
    fun w' hw' => Function.update_of_ne hw' _ _
  by_cases hack : IsAck out
  · have hw := hfin.ack hack
    obtain ⟨n, hn, -⟩ := h.accepted w (by rw [hw]; rfl)
    by_cases hauth : pktTypeOf out = pktAuthAck
    · apply h.acknowledge hw hn <;> simp only [Ledger.send, hauth, if_true, Ledger.forget]
      · intro m
        simp only [Ledger.acks, bump, hn, Option.some.injEq, eq_comm (a := n)]
        split <;> rfl
      · simp [bumpStray, hn]
    · have hsetup : pktTypeOf out = pktSetupAck := hack.resolve_left hauth
      have hne : pktSetupAck ≠ pktAuthAck := by decide
      apply h.acknowledge hw hn <;> simp only [Ledger.send, hsetup, hne, if_true, if_false,
        Ledger.forget]
      · intro m
        simp only [Ledger.acks, bump, hn, Option.some.injEq, eq_comm (a := n)]
        split <;> omega
      · simp [bumpStray, hn]
  · rw [send_of_not_ack L w hack]
    exact h.fade rfl (h.mirror.of_slot_eq rfl) rfl (fun _ _ hs => hs) hforget rfl rfl rfl

end Once

/-! ## All schedules -/

/-- No session is written or acknowledged twice, and nothing is written or acknowledged
without a session. -/
def AtMostOnce (L : Ledger) : Prop :=
  (∀ n, L.authAcks n ≤ 1 ∧ L.setupAcks n ≤ 1 ∧ L.writes n ≤ 1) ∧ L.strays = 0

theorem Once.atMostOnce {t : SessionTable} {L : Ledger} {T : ℕ → Tok} (h : Once t L T) :
    AtMostOnce L := by
  refine ⟨fun n => ?_, h.strays⟩
  have hacks : L.setupAcks n + L.authAcks n ≤ 1 := by
    by_cases hn : L.acks n = 0
    · exact hn.le.trans (Nat.zero_le 1)
    · exact (h.acked n hn).1.le
  have hwrites : L.writes n ≤ 1 := by
    by_cases hn : L.writes n = 0
    · exact hn.le.trans (Nat.zero_le 1)
    · exact (h.written n hn).1.le
  exact ⟨by omega, by omega, hwrites⟩

section

variable {q : ℕ} {G : Type} [AddCommGroup G] [Module (ZMod q) G]

theorem once_preserved {S : Suite q G} {cap : ℕ} {cfg : ServerConfig} :
    Pool.Preserved (serverProtocol S cap cfg) (Sole S cap cfg Tok.acceptedSlot)
      (fun s l => Once s.sessions (ledger l) (tokens l)) := by
  apply preserved_of_effects
  · intro t L T w job h _
    exact h.fade rfl (h.mirror.of_slot_eq rfl) rfl (fun _ _ hs => hs)
      (fun w' hw' => Function.update_of_ne hw' _ _) rfl rfl rfl
  · intro t L T w t' L' τ h he hsole
    exact h.effect rfl he hsole
  · intro t L T w out h hfin
    exact h.finish hfin

/-- Every session is written and acknowledged at most once, after every schedule in which no
worker accepts a final packet for a slot that another worker has accepted one for and not
yet released. -/
theorem at_most_once (S : Suite q G) (cap : ℕ) (cfg : ServerConfig) (registry : Registry)
    (capacity : ℕ) (cache : ReplayCache) (as : List (Turn ℕ Job))
    (hsole : Pool.Meets (dispatch S cap cfg) (Sole S cap cfg Tok.acceptedSlot)
      (serverStart S cap cfg registry capacity cache) as) :
    AtMostOnce
      (ledger (serverRun S cap cfg (serverStart S cap cfg registry capacity cache) as).log) := by
  have hinit : Once (authSessionTableInit capacity) .empty (fun _ => .idle) := .init capacity
  have hconf := Pool.conforms_fresh (D := serverProtocol S cap cfg) (W := ℕ)
    ⟨registry, authSessionTableInit capacity, cache⟩
  obtain ⟨h, -⟩ := Pool.invariant once_preserved dispatch_follows
    (P := serverStart S cap cfg registry capacity cache) hinit hconf hsole
  exact h.atMostOnce

end

/-! ## Two copies of a final packet -/

/-- The device with the key 3, enrolled for role 1 at the server with the key 5. -/
def demoDevice : ClientCtx where
  deviceId := byteString 31 1
  deviceSk := byteString 31 3
  devicePub := byteString 31 3
  serverPubPinned := byteString 31 5
  hasPinnedServer := true
  roleCommitment :=
    match authMakeRoleCommitment smallSuite 1 (byteString 31 6) with
    | .ok c => c
    | .error _ => Bytes.zero 32
  roleBlind := byteString 31 6
  roleCode := 1
  hasRole := true
  sessionId := byteString 15 7
  seq := 0
  clientNonce := Bytes.zero 32
  ephSecret := Bytes.zero 32
  ephC := Bytes.zero 32
  pendingClientProof := default
  pendingServerPub := Bytes.zero 32
  pendingServerNonce := Bytes.zero 32
  pendingSetupChallenge := Bytes.zero 16
  sessionKey := Bytes.zero 32
  kcTh := Bytes.zero 32
  kcKS2c := Bytes.zero 32
  kcKC2s := Bytes.zero 32
  authComplete := false

/-- The packet of a builder. -/
def packetOf (r : ClientResult (List UInt8)) : List UInt8 :=
  match r.2 with
  | .ok pkt => pkt
  | .error _ => []

/-- The device after it built an AUTH_1, and the AUTH_1. -/
def demoSent : ClientResult (List UInt8) :=
  authClientBuildAuth1 smallSuite demoDevice [1]
    ⟨byteString 31 9, byteString 63 4, byteString 63 3, byteString 63 2, byteString 63 5,
      fun _ => byteString 63 6⟩ maxDatagram

/-- A server that knows the device, after a schedule. -/
def demoAuthRun (as : List (Turn ℕ Job)) : ServerPool smallSuite 4 demoConfig :=
  serverRun smallSuite 4 demoConfig
    (serverStart smallSuite 4 demoConfig
      [⟨demoDevice.deviceId, demoDevice.devicePub, demoDevice.roleCommitment⟩] 2
      authReplayCacheInit) as

/-- Worker 0 handles the AUTH_1: reserve, count, copy the entry, verify, activate. -/
def demoAuth1 : List (Turn ℕ Job) :=
  [.start 0 (demoJob (packetOf demoSent)), .step 0, .step 0, .step 0, .step 0, .step 0]

/-- The packet sent last. -/
def lastOut (P : ServerPool smallSuite 4 demoConfig) : List UInt8 :=
  match P.log with
  | .finish _ out :: _ => out
  | _ => []

/-- The AUTH_3 the device answers the AUTH_2 with. -/
def demoAuth3 : Job :=
  let ctx := (authClientHandleAuth2 smallSuite demoSent.1 (lastOut (demoAuthRun demoAuth1))).1
  demoJob (packetOf (authClientBuildAuth3 smallSuite ctx maxDatagram))

/-- One worker authenticates the device, and the AUTH_ACK is counted. -/
theorem at_most_once_one_worker :
    AtMostOnce (ledger (demoAuthRun (demoAuth1 ++ [.start 0 demoAuth3, .step 0, .step 0])).log) ∧
    (ledger (demoAuthRun (demoAuth1 ++ [.start 0 demoAuth3, .step 0, .step 0])).log).authAcks 0
      = 1 := by
  refine ⟨?_, by decide +kernel⟩
  apply at_most_once
  apply sole_of_worker (w := 0) rfl
  simp [demoAuth1, Turn.worker]

/-- Two workers handle one final packet in step with each other. -/
def inStep (job : Job) : List (Turn ℕ Job) :=
  [.start 1 job, .step 1, .start 2 job, .step 2, .step 1, .step 2]

/-- One AUTH session is acknowledged twice, and one SETUP session is written and
acknowledged twice. -/
theorem at_most_once_fails :
    ((ledger (demoAuthRun (demoAuth1 ++ inStep demoAuth3)).log).authAcks 0 = 2 ∧
      ¬ AtMostOnce (ledger (demoAuthRun (demoAuth1 ++ inStep demoAuth3)).log)) ∧
    ((ledger (demoRun ([.start 0 demoSetup1, .step 0, .step 0] ++ inStep demoSetup3)).log).writes 0
        = 2 ∧
      (ledger (demoRun ([.start 0 demoSetup1, .step 0, .step 0]
        ++ inStep demoSetup3)).log).setupAcks 0 = 2) := by
  have hacks : (ledger (demoAuthRun (demoAuth1 ++ inStep demoAuth3)).log).authAcks 0 = 2 := by
    decide +kernel
  refine ⟨⟨hacks, ?_⟩, by decide +kernel⟩
  intro h
  have hle := (h.1 0).1
  omega

end ZkArche.C
