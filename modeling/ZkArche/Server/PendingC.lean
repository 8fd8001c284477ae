import ZkArche.Server.AtMostOnceC
import ZkArche.Server.EnrollmentC

/-!
# Pending sessions of the C server

`dispatch` never looks for the session identifier of a SETUP_1 or an AUTH_1 in the session
table.  So a second packet with the identifier of a pending session takes a second slot
(`Duplicates`), and this is the only way in which two slots of a kind get one identifier
(`session_uniqueness`).

Nor does it look at the flags of a packet, or at a response it sent before.  A SETUP_2 or an
AUTH_2 always comes with a new slot, so a retransmission is never answered with the response
of the first transmission out of an unchanged table (`retransmission_executed`).
-/

namespace ZkArche.C

/-! ## Slots with one identifier -/

/-- At most one slot is of the kind. -/
def AtMostOne (f : Slot → Bool) (t : SessionTable) : Prop :=
  ∀ i j : ℕ, t[i]?.any f = true → t[j]?.any f = true → i = j

/-- Every session identifier has at most one SETUP slot and at most one AUTH slot. -/
structure SessionsUnique (t : SessionTable) : Prop where
  setup : ∀ sid, AtMostOne (Slot.isSetup sid) t
  auth : ∀ sid, AtMostOne (Slot.isAuth sid) t

theorem any_set_slot {t : SessionTable} {i : ℕ} (hi : t[i]? = some .free) (s : Slot)
    (f : Slot → Bool) (j : ℕ) :
    (t.set i s)[j]?.any f = if i = j then f s else t[j]?.any f := by
  obtain ⟨hlt, -⟩ := List.getElem?_eq_some_iff.mp hi
  rw [getElem?_set_slot]
  by_cases hij : i = j
  · subst hij
    simp [hlt]
  · simp [hij]

/-- Filling a free slot keeps a kind unique unless it was there already. -/
theorem AtMostOne.set_iff {f : Slot → Bool} {t : SessionTable} {i : ℕ} (h : AtMostOne f t)
    (hf : f .free = false) (hi : t[i]? = some .free) (s : Slot) :
    AtMostOne f (t.set i s) ↔ ¬ (f s = true ∧ ∃ j : ℕ, t[j]?.any f = true) := by
  have hfree : t[i]?.any f = false := by
    rw [hi]
    exact hf
  constructor
  · rintro hu ⟨hs, j, hj⟩
    have hne : i ≠ j := by
      rintro rfl
      rw [hfree] at hj
      cases hj
    apply hne
    apply hu
    · rw [any_set_slot hi, if_pos rfl, hs]
    · rw [any_set_slot hi, if_neg hne, hj]
  · intro hno j k hj hk
    rw [any_set_slot hi] at hj hk
    split at hj
    next hij =>
      split at hk
      next hik => exact hij.symm.trans hik
      next => exact absurd ⟨hj, k, hk⟩ hno
    next =>
      split at hk
      next => exact absurd ⟨hk, j, hj⟩ hno
      next => exact h j k hj hk

/-- Freeing a slot keeps a kind unique. -/
theorem AtMostOne.release {f : Slot → Bool} {t : SessionTable} (h : AtMostOne f t)
    (hf : f .free = false) (i : ℕ) : AtMostOne f (t.set i .free) := by
  have hany : ∀ j : ℕ, (t.set i .free)[j]?.any f = true → t[j]?.any f = true := by
    intro j hj
    rw [getElem?_set_slot] at hj
    split at hj
    next =>
      simp only [Option.any_some, hf] at hj
      cases hj
    next => exact hj
  exact fun j k hj hk => h j k (hany j hj) (hany k hk)

theorem SessionsUnique.release {t : SessionTable} (h : SessionsUnique t) (i : ℕ) :
    SessionsUnique (t.set i .free) :=
  ⟨fun sid => (h.setup sid).release rfl i, fun sid => (h.auth sid).release rfl i⟩

theorem sessionsUnique_init (capacity : ℕ) : SessionsUnique (authSessionTableInit capacity) := by
  have hnone : ∀ (f : Slot → Bool), f .free = false → ∀ i : ℕ,
      (authSessionTableInit capacity)[i]?.any f = false := by
    intro f hf i
    rw [authSessionTableInit, List.getElem?_replicate]
    split
    next => exact hf
    next => rfl
  refine ⟨fun sid i j hi => ?_, fun sid i j hi => ?_⟩
  · rw [hnone _ rfl] at hi
    cases hi
  · rw [hnone _ rfl] at hi
    cases hi

/-- A new SETUP session keeps the table unique unless its identifier is pending. -/
theorem SessionsUnique.set_setup_iff {t : SessionTable} {i : ℕ} (h : SessionsUnique t)
    (hi : t[i]? = some .free) (p : PendingSetup) :
    SessionsUnique (t.set i (.setup p)) ↔
      ¬ ∃ j : ℕ, t[j]?.any (Slot.isSetup p.sessionId) = true := by
  constructor
  · intro hu hj
    exact ((h.setup p.sessionId).set_iff rfl hi (.setup p)).mp (hu.setup p.sessionId)
      ⟨decide_eq_true rfl, hj⟩
  · intro hno
    refine ⟨fun sid => ?_, fun sid => ?_⟩
    · rw [(h.setup sid).set_iff rfl hi]
      rintro ⟨hs, hj⟩
      cases of_decide_eq_true hs
      exact hno hj
    · rw [(h.auth sid).set_iff rfl hi]
      rintro ⟨hs, -⟩
      cases hs

/-- A new AUTH session keeps the table unique unless its identifier is pending. -/
theorem SessionsUnique.set_auth_iff {t : SessionTable} {i : ℕ} (h : SessionsUnique t)
    (hi : t[i]? = some .free) (p : PendingAuth) :
    SessionsUnique (t.set i (.auth p)) ↔
      ¬ ∃ j : ℕ, t[j]?.any (Slot.isAuth p.sessionId) = true := by
  constructor
  · intro hu hj
    exact ((h.auth p.sessionId).set_iff rfl hi (.auth p)).mp (hu.auth p.sessionId)
      ⟨decide_eq_true rfl, hj⟩
  · intro hno
    refine ⟨fun sid => ?_, fun sid => ?_⟩
    · rw [(h.setup sid).set_iff rfl hi]
      rintro ⟨hs, -⟩
      cases hs
    · rw [(h.auth sid).set_iff rfl hi]
      rintro ⟨hs, hj⟩
      cases of_decide_eq_true hs
      exact hno hj

/-! ## The packets that duplicate an identifier -/

variable {q : ℕ} {G : Type} [AddCommGroup G] [Module (ZMod q) G]

/-- A SETUP session with the identifier is pending. -/
def SetupPending (st : ServerState) (sid : SessionId) : Prop :=
  ∃ j : ℕ, st.sessions[j]?.any (Slot.isSetup sid) = true

/-- An AUTH session with the identifier is pending. -/
def AuthPending (st : ServerState) (sid : SessionId) : Prop :=
  ∃ j : ℕ, st.sessions[j]?.any (Slot.isAuth sid) = true

/-- The job is a SETUP_1 or an AUTH_1 that is accepted while a slot is free and a session of
its kind with its identifier is pending. -/
def Duplicates (S : Suite q G) (cap : ℕ) (cfg : ServerConfig) (st : ServerState) (job : Job) :
    Prop :=
  ∃ hdr payload, authHeaderDecode job.input = .ok (hdr, payload) ∧ Slot.free ∈ st.sessions ∧
    (hdr.pktType = pktSetup1 ∧ SetupPending st hdr.sessionId ∧
        (∃ r, authServerHandleSetup1 S cfg hdr.sessionId hdr.seq payload job.setup maxDatagram
          = .ok r) ∨
      hdr.pktType = pktAuth1 ∧ AuthPending st hdr.sessionId ∧
        ∃ r, search (verdicts S cap cfg st hdr payload job.auth) .unknownDevice = .ok r)

variable {S : Suite q G} {cap : ℕ} {cfg : ServerConfig} {st : ServerState} {job : Job}
  {hdr : Header} {payload : List UInt8}

theorem Duplicates.inv (hd : authHeaderDecode job.input = .ok (hdr, payload))
    (h : Duplicates S cap cfg st job) : Slot.free ∈ st.sessions ∧
    (hdr.pktType = pktSetup1 ∧ SetupPending st hdr.sessionId ∧
        (∃ r, authServerHandleSetup1 S cfg hdr.sessionId hdr.seq payload job.setup maxDatagram
          = .ok r) ∨
      hdr.pktType = pktAuth1 ∧ AuthPending st hdr.sessionId ∧
        ∃ r, search (verdicts S cap cfg st hdr payload job.auth) .unknownDevice = .ok r) := by
  obtain ⟨hdr', payload', hd', h⟩ := h
  rw [hd] at hd'
  cases hd'
  exact h

theorem free_mem {t : SessionTable} {i : ℕ} (h : t.findIdx? (· = .free) = some i) :
    Slot.free ∈ t := List.mem_of_getElem? (free_of_findIdx? h)

theorem not_free_mem {t : SessionTable} (h : t.findIdx? (· = .free) = none) :
    Slot.free ∉ t := by
  intro hm
  have hno := List.findIdx?_eq_none_iff.mp h _ hm
  cases hno

/-- The session of an accepted AUTH_1 has its identifier. -/
theorem search_sessionId {draws : ℕ → Auth2Draws} {p : PendingAuth} {pkt : List UInt8}
    (h : search (verdicts S cap cfg st hdr payload draws) .unknownDevice = .ok (p, pkt)) :
    p.sessionId = hdr.sessionId := by
  obtain ⟨j, -, hv⟩ := List.mem_map.mp (search_eq_ok h)
  obtain ⟨a1, pub, rc, -, -, -, hr⟩ := authServerHandleAuth1_eq_ok_iff.mp (verdict_eq_ok hv)
  obtain ⟨-, ephS, proof, shared, -, -, -, rfl, -⟩ := auth1Respond_eq_ok_iff.mp hr
  rfl

theorem serveSetup1_unique_iff (hu : SessionsUnique st.sessions)
    (hd : authHeaderDecode job.input = .ok (hdr, payload)) (ht : hdr.pktType = pktSetup1) :
    SessionsUnique (serveSetup1 S cfg st job hdr payload).1.sessions ↔
      ¬ Duplicates S cap cfg st job := by
  have hty : hdr.pktType ≠ pktAuth1 := by
    rw [ht]
    decide
  unfold serveSetup1
  cases hi : st.sessions.findIdx? (· = .free) with
  | none => exact ⟨fun _ hdup => not_free_mem hi (hdup.inv hd).1, fun _ => hu⟩
  | some i =>
      cases hr : authServerHandleSetup1 S cfg hdr.sessionId hdr.seq payload job.setup
          maxDatagram with
      | error e =>
          refine ⟨fun _ hdup => ?_, fun _ => hu⟩
          obtain ⟨-, ⟨-, -, r, hok⟩ | ⟨ht', -⟩⟩ := hdup.inv hd
          · rw [hr] at hok
            cases hok
          · exact hty ht'
      | ok r =>
          obtain ⟨p, pkt⟩ := r
          obtain ⟨s1, proof, -, -, hp, -⟩ := authServerHandleSetup1_ok hr
          have hsid : p.sessionId = hdr.sessionId := by rw [hp]
          simp only
          rw [hu.set_setup_iff (free_of_findIdx? hi), hsid]
          refine not_congr ⟨fun hj => ?_, fun hdup => ?_⟩
          · exact ⟨hdr, payload, hd, free_mem hi, .inl ⟨ht, hj, _, hr⟩⟩
          · obtain ⟨-, ⟨-, hj, -⟩ | ⟨ht', -⟩⟩ := hdup.inv hd
            · exact hj
            · exact absurd ht' hty

theorem serveAuth1_unique_iff (hu : SessionsUnique st.sessions)
    (hd : authHeaderDecode job.input = .ok (hdr, payload)) (ht : hdr.pktType = pktAuth1) :
    SessionsUnique (serveAuth1 S cap cfg st job hdr payload).1.sessions ↔
      ¬ Duplicates S cap cfg st job := by
  have hty : hdr.pktType ≠ pktSetup1 := by
    rw [ht]
    decide
  unfold serveAuth1
  cases hi : st.sessions.findIdx? (· = .free) with
  | none => exact ⟨fun _ hdup => not_free_mem hi (hdup.inv hd).1, fun _ => hu⟩
  | some i =>
      cases hr : search (verdicts S cap cfg st hdr payload job.auth) .unknownDevice with
      | error e =>
          refine ⟨fun _ hdup => ?_, fun _ => hu⟩
          obtain ⟨-, ⟨ht', -⟩ | ⟨-, -, r, hok⟩⟩ := hdup.inv hd
          · exact hty ht'
          · rw [hr] at hok
            cases hok
      | ok r =>
          obtain ⟨p, pkt⟩ := r
          simp only
          rw [hu.set_auth_iff (free_of_findIdx? hi), search_sessionId hr]
          refine not_congr ⟨fun hj => ?_, fun hdup => ?_⟩
          · exact ⟨hdr, payload, hd, free_mem hi, .inr ⟨ht, hj, _, hr⟩⟩
          · obtain ⟨-, ⟨ht', -⟩ | ⟨-, hj, -⟩⟩ := hdup.inv hd
            · exact absurd ht' hty
            · exact hj

/-- Final packets only free slots. -/
theorem serveSetup3_unique (hu : SessionsUnique st.sessions) :
    SessionsUnique (serveSetup3 S st job hdr payload).1.sessions := by
  unfold serveSetup3
  split
  next => exact hu
  next i p _ =>
    split
    next => exact hu
    next =>
      unfold enroll
      split
      next => exact hu.release i
      next => exact hu.release i

theorem serveAuth3_unique (hu : SessionsUnique st.sessions) :
    SessionsUnique (serveAuth3 S st hdr payload).1.sessions := by
  unfold serveAuth3
  split
  next => exact hu
  next i p _ => exact hu.release i

/-- A packet keeps identifiers unique exactly when it does not duplicate one. -/
theorem sessionsUnique_step_iff (hu : SessionsUnique st.sessions) :
    SessionsUnique ((dispatch S cap cfg job).run st).1.sessions ↔
      ¬ Duplicates S cap cfg st job := by
  cases hd : authHeaderDecode job.input with
  | error e =>
      rw [dispatch_run_dropped st hd]
      refine ⟨fun _ hdup => ?_, fun _ => hu⟩
      obtain ⟨hdr, payload, hd', -⟩ := hdup
      rw [hd] at hd'
      cases hd'
  | ok v =>
      obtain ⟨hdr, payload⟩ := v
      rw [dispatch_run st hd]
      simp only [serve]
      split
      next ht => exact serveSetup1_unique_iff hu hd ht
      next h1 =>
        -- only a SETUP_1 or an AUTH_1 duplicates
        have hnot : hdr.pktType ≠ pktAuth1 → ¬ Duplicates S cap cfg st job := by
          intro h2 hdup
          obtain ⟨-, ⟨ht, -⟩ | ⟨ht, -⟩⟩ := hdup.inv hd
          · exact h1 ht
          · exact h2 ht
        split
        next ht =>
          have h2 : hdr.pktType ≠ pktAuth1 := by
            rw [ht]
            decide
          exact iff_of_true (serveSetup3_unique hu) (hnot h2)
        split
        next ht => exact serveAuth1_unique_iff hu hd ht
        next h2 =>
          split
          next => exact iff_of_true (serveAuth3_unique hu) (hnot h2)
          next => exact iff_of_true hu (hnot h2)

/-- The session a final packet finds is the only one of its kind with its identifier. -/
structure SoleSession (t : SessionTable) : Prop where
  setup : ∀ sid (i : ℕ) p, lookupSetup t sid = some (i, p) →
    ∀ (j : ℕ) p', t[j]? = some (.setup p') → p'.sessionId = sid → j = i
  auth : ∀ sid (i : ℕ) p, lookupAuth t sid = some (i, p) →
    ∀ (j : ℕ) p', t[j]? = some (.auth p') → p'.sessionId = sid → j = i

theorem SessionsUnique.sole {t : SessionTable} (h : SessionsUnique t) : SoleSession t := by
  constructor
  · intro sid i p hl j p' hj hp'
    obtain ⟨hi, hp⟩ := lookupSetup_eq_some hl
    apply h.setup sid j i
    · simp [hj, Slot.isSetup, hp']
    · simp [hi, Slot.isSetup, hp]
  · intro sid i p hl j p' hj hp'
    obtain ⟨hi, hp⟩ := lookupAuth_eq_some hl
    apply h.auth sid j i
    · simp [hj, Slot.isAuth, hp']
    · simp [hi, Slot.isAuth, hp]

/-- In a run without duplicates every session identifier has at most one slot of each kind, and
final packets act on the only session they can mean.  These are exactly the runs along which
identifiers stay unique. -/
theorem session_uniqueness (S : Suite q G) (cap : ℕ) (cfg : ServerConfig) (registry : Registry)
    (capacity : ℕ) (cache : ReplayCache) (h : List Entry) (st : ServerState) :
    ((sequential S cap cfg ⟨registry, authSessionTableInit capacity, cache⟩).Run
        (fun _ s job => ¬ Duplicates S cap cfg s job) h st →
      SessionsUnique st.sessions ∧ SoleSession st.sessions) ∧
    ((sequential S cap cfg ⟨registry, authSessionTableInit capacity, cache⟩).Run
        (fun _ s job => ¬ Duplicates S cap cfg s job) h st ↔
      (sequential S cap cfg ⟨registry, authSessionTableInit capacity, cache⟩).Run
        (fun _ s job => SessionsUnique ((dispatch S cap cfg job).run s).1.sessions) h st) := by
  have hruns := @Machine.Run.iff_invariant _ _ _
    (sequential S cap cfg ⟨registry, authSessionTableInit capacity, cache⟩)
    (fun _ s job => ¬ Duplicates S cap cfg s job)
    (fun _ s => SessionsUnique s.sessions)
    (by
      rintro _ rfl
      exact sessionsUnique_init capacity)
    (fun _ s job hu => (sessionsUnique_step_iff hu).symm)
    h st
  exact ⟨fun r => ⟨hruns.1 r, (hruns.1 r).sole⟩, hruns.2⟩

/-! ## Two sessions with one identifier -/

/-- A server with two free slots that knows the device. -/
def demoState : ServerState :=
  ⟨[⟨demoDevice.deviceId, demoDevice.devicePub, demoDevice.roleCommitment⟩],
    authSessionTableInit 2, authReplayCacheInit⟩

/-- The history and the state after jobs, one at a time. -/
def demoSequence (jobs : List Job) : List Entry × ServerState :=
  (sequential smallSuite 4 demoConfig demoState).exec [] demoState jobs

/-- Two copies of a SETUP_1 take two slots. -/
theorem session_uniqueness_fails :
    ∃ h st, (sequential smallSuite 4 demoConfig demoState).Run Machine.anyInput h st ∧
      h.map Prod.fst = [demoSetup1, demoSetup1] ∧ ¬ SessionsUnique st.sessions := by
  have hrun : (sequential smallSuite 4 demoConfig demoState).Run Machine.anyInput
      (demoSequence [demoSetup1, demoSetup1]).1 (demoSequence [demoSetup1, demoSetup1]).2 :=
    (Machine.Run.init rfl).exec _ fun _ _ _ _ => trivial
  have hslots : ∀ i < 2, (demoSequence [demoSetup1, demoSetup1]).2.sessions[i]?.any
      (Slot.isSetup (byteString 15 7)) = true := by decide +kernel
  refine ⟨_, _, hrun, rfl, ?_⟩
  intro h
  cases h.setup (byteString 15 7) 0 1 (hslots 0 (by decide)) (hslots 1 (by decide))

/-! ## Retransmissions -/

/-- `AUTH_FLAG_RETRANSMIT`. -/
def flagRetransmit : UInt16 := 0x0001

/-- A packet, sent again. -/
def retransmission (hdr : Header) (payload : List UInt8) : List UInt8 :=
  { hdr with flags := hdr.flags ||| flagRetransmit }.bytes ++ payload

/-- The call writes the response and changes nothing. -/
structure AnswersAgain (S : Suite q G) (cap : ℕ) (cfg : ServerConfig) (st : ServerState)
    (job : Job) (response : List UInt8) : Prop where
  reply : ((dispatch S cap cfg job).run st).2 = response
  registry : ((dispatch S cap cfg job).run st).1.registry = st.registry
  replayCache : ((dispatch S cap cfg job).run st).1.replayCache = st.replayCache
  sessions : ((dispatch S cap cfg job).run st).1.sessions = st.sessions

/-- A SETUP_2 or an AUTH_2 comes with a new slot. -/
theorem sessions_ne_of_response {S : Suite q G} {cap : ℕ} {cfg : ServerConfig}
    {st : ServerState} {job : Job}
    (h : pktTypeOf ((dispatch S cap cfg job).run st).2 = pktSetup2 ∨
      pktTypeOf ((dispatch S cap cfg job).run st).2 = pktAuth2) :
    ((dispatch S cap cfg job).run st).1.sessions ≠ st.sessions := by
  have hset : ∀ {i : ℕ} {s : Slot}, st.sessions.findIdx? (· = .free) = some i → s ≠ .free →
      st.sessions.set i s ≠ st.sessions := by
    intro i s hi hs
    exact set_slot_ne (free_of_findIdx? hi) hs
  have hrefuse : ∀ {out : List UInt8}, Refusal out →
      ¬ (pktTypeOf out = pktSetup2 ∨ pktTypeOf out = pktAuth2) := by
    intro out hr hty
    rcases hty with hty | hty
    · exact hr.type_ne (by decide) (by decide) hty
    · exact hr.type_ne (by decide) (by decide) hty
  generalize hst : ((dispatch S cap cfg job).run st).1 = st'
  generalize hout : ((dispatch S cap cfg job).run st).2 = out at h
  have hserved : Served S cfg st job ((dispatch S cap cfg job).run st).1
      ((dispatch S cap cfg job).run st).2 := dispatch_served st job
  rw [hst, hout] at hserved
  cases hserved with
  | other _ _ hr => exact absurd h (hrefuse hr)
  | setup1 _ _ _ _ hi _ hs =>
      rw [hs]
      exact hset hi nofun
  | setup3 _ _ _ _ _ _ _ =>
      rw [pktTypeOf_frame] at h
      exact absurd h (by decide)
  | setup3Unsaved _ _ _ _ _ _ _ hr => exact absurd h (hrefuse hr)
  | auth1 hi _ hs _ =>
      rw [hs]
      exact hset hi nofun
  | auth3 _ _ _ hr =>
      rcases hr with hty | hr
      · rw [hty] at h
        exact absurd h (by decide)
      · exact absurd h (hrefuse hr)

/-- Whatever happened since, a retransmission is never answered with the response of the first
transmission out of an unchanged state. -/
theorem retransmission_executed (S : Suite q G) (cap : ℕ) (cfg : ServerConfig)
    (st₀ : ServerState) {h : List Entry} {st : ServerState}
    (_ : (sequential S cap cfg st₀).Run Machine.anyInput h st) {e : Entry} (_ : e ∈ h)
    {hdr : Header} {payload : List UInt8} (_ : received e = some (hdr, payload))
    (hty : pktTypeOf e.2.reply = pktSetup2 ∨ pktTypeOf e.2.reply = pktAuth2) (job : Job)
    (_ : job.input = retransmission hdr payload) : ¬ AnswersAgain S cap cfg st job e.2.reply := by
  intro ha
  rw [← ha.reply] at hty
  exact sessions_ne_of_response hty ha.sessions

/-- The AUTH_1 of the device. -/
def demoAuth : Job := demoJob (packetOf demoSent)

/-- The first packet of a server that knows the device. -/
def demoFirst (job : Job) : Entry :=
  (job, ((sequential smallSuite 4 demoConfig demoState).step demoState job).2)

theorem demoFirst_run (job : Job) : (sequential smallSuite 4 demoConfig demoState).Run
    Machine.anyInput [demoFirst job] (demoFirst job).2.after :=
  .step job (.init rfl) trivial

/-- A job whose packet is sent again. -/
def resend (job : Job) : Job :=
  match authHeaderDecode job.input with
  | .ok (hdr, payload) => { job with input := retransmission hdr payload }
  | .error _ => job

theorem resend_input {job : Job} {hdr : Header} {payload : List UInt8}
    (hd : authHeaderDecode job.input = .ok (hdr, payload)) :
    (resend job).input = retransmission hdr payload := by
  simp only [resend, hd]

/-- An accepted SETUP_1 that is pending is sent again. -/
theorem retransmission_executed_setup :
    pktTypeOf (demoFirst demoSetup1).2.reply = pktSetup2 ∧
    ¬ AnswersAgain smallSuite 4 demoConfig (demoFirst demoSetup1).2.after (resend demoSetup1)
      (demoFirst demoSetup1).2.reply := by
  have hty : pktTypeOf (demoFirst demoSetup1).2.reply = pktSetup2 := by decide +kernel
  have hd : authHeaderDecode demoSetup1.input = .ok (Header.fresh pktSetup1 (byteString 15 7) 1, _) :=
    authHeaderDecode_frame ..
  refine ⟨hty, ?_⟩
  apply retransmission_executed smallSuite 4 demoConfig demoState (demoFirst_run demoSetup1)
    List.mem_cons_self _ (.inl hty) _ (resend_input hd)
  rw [received]
  show (authHeaderDecode demoSetup1.input).toOption = _
  rw [hd]
  rfl

/-- A SETUP_1 that is sent again takes a second slot, and an AUTH_1 that is sent again is
refused as a replay. -/
theorem retransmission_fails :
    (pktTypeOf (demoFirst demoSetup1).2.reply = pktSetup2 ∧
      SetupPending (demoFirst demoSetup1).2.after (byteString 15 7) ∧
      ¬ AnswersAgain smallSuite 4 demoConfig (demoFirst demoSetup1).2.after (resend demoSetup1)
        (demoFirst demoSetup1).2.reply) ∧
    pktTypeOf (demoFirst demoAuth).2.reply = pktAuth2 ∧
    AuthPending (demoFirst demoAuth).2.after (byteString 15 7) ∧
    ¬ AnswersAgain smallSuite 4 demoConfig (demoFirst demoAuth).2.after (resend demoAuth)
      (demoFirst demoAuth).2.reply := by
  have hsetup : pktTypeOf (demoFirst demoSetup1).2.reply = pktSetup2 ∧
      (demoFirst demoSetup1).2.after.sessions[0]?.any (Slot.isSetup (byteString 15 7)) = true ∧
      (demoFirst demoSetup1).2.after.sessions[1]? = some .free ∧
      ((dispatch smallSuite 4 demoConfig (resend demoSetup1)).run
        (demoFirst demoSetup1).2.after).1.sessions[1]? ≠ some .free := by decide +kernel
  have hauth : pktTypeOf (demoFirst demoAuth).2.reply = pktAuth2 ∧
      (demoFirst demoAuth).2.after.sessions[0]?.any (Slot.isAuth (byteString 15 7)) = true ∧
      pktTypeOf ((dispatch smallSuite 4 demoConfig (resend demoAuth)).run
        (demoFirst demoAuth).2.after).2 = pktError := by decide +kernel
  obtain ⟨hty, hpending, hfree, htaken⟩ := hsetup
  obtain ⟨hty', hpending', herror⟩ := hauth
  refine ⟨⟨hty, ⟨0, hpending⟩, ?_⟩, hty', ⟨0, hpending'⟩, ?_⟩
  · intro ha
    rw [ha.sessions] at htaken
    exact htaken hfree
  · intro ha
    rw [ha.reply, hty'] at herror
    cases herror

end ZkArche.C
