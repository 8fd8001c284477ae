import ZkArche.Server.EnrollmentAtomicity
import ZkArche.Server.PendingC

/-!
# Final packets that fail

A SETUP_3 or an AUTH_3 that is answered with an ERROR packet should cost nobody anything: the
device, or whoever it is that the forged packet was meant to hurt, sends a correct one and is
acknowledged.

The Rust server removes a session only when it acknowledges its final packet.  The C server
does not look at the result of an AUTH_3 before it releases the slot, and releases the slot of
a SETUP_3 whose record it could not put or save.  In these cases the session is lost
(`LosesSession`), and in no others (`final_packet_failures`).
-/

namespace ZkArche

/-- The packet is the last that a device sends in an exchange. -/
def IsFinal (hdr : Header) : Prop := hdr.pktType = pktSetup3 ∨ hdr.pktType = pktAuth3

end ZkArche

namespace ZkArche.C

/-! ## The C server -/

/-- The registry is full, and has no record of the device. -/
def NoRoom (reg : Registry) (deviceId : Bytes 32) : Prop :=
  registryMaxEntries ≤ reg.length ∧ ∀ r ∈ reg, r.deviceId ≠ deviceId

theorem authRegistryPut_eq_error_iff {reg : Registry} {e : RegistryEntry} :
    (∃ err, authRegistryPut reg e = .error err) ↔ NoRoom reg e.deviceId := by
  unfold authRegistryPut NoRoom
  cases hi : reg.findIdx? fun r => r.deviceId = e.deviceId with
  | none =>
      have hno : ∀ r ∈ reg, r.deviceId ≠ e.deviceId := by
        intro r hr
        simpa using List.findIdx?_eq_none_iff.mp hi r hr
      simp only [ge_iff_le]
      split
      next hfull => exact iff_of_true ⟨_, rfl⟩ ⟨hfull, hno⟩
      next hroom => exact iff_of_false (fun ⟨_, h⟩ => by cases h) (fun h => hroom h.1)
  | some i =>
      obtain ⟨hlt, hp, -⟩ := List.findIdx?_eq_some_iff_getElem.mp hi
      refine iff_of_false (fun ⟨_, h⟩ => by cases h) ?_
      intro h
      exact h.2 _ (List.getElem_mem hlt) (by simpa using hp)

variable {q : ℕ} {G : Type} [AddCommGroup G] [Module (ZMod q) G]

/-- The job is an AUTH_3 with another tag than its session expects, or a SETUP_3 that proves
possession of the key of the record it finds while the registry has no room for the record or
its file cannot be written. -/
def LosesSession (S : Suite q G) (st : ServerState) (job : Job) : Prop :=
  ∃ hdr payload, authHeaderDecode job.input = .ok (hdr, payload) ∧
    ((hdr.pktType = pktAuth3 ∧ ∃ i p, lookupAuth st.sessions hdr.sessionId = some (i, p) ∧
        payload ≠ (p.tagC S).val) ∨
      (hdr.pktType = pktSetup3 ∧ ∃ i p s3, lookupSetup st.sessions hdr.sessionId = some (i, p) ∧
        authSetup3Decode payload = .ok s3 ∧ p.proves S s3.clientProof = true ∧
        (NoRoom st.registry p.deviceId ∨ ∃ err, job.save = .error err)))

/-- What the server answers to a packet after others. -/
def replyAfter (S : Suite q G) (cap : ℕ) (cfg : ServerConfig) (st : ServerState)
    (others : List Job) (job : Job) : List UInt8 :=
  ((dispatch S cap cfg job).run ((sequential S cap cfg st).exec [] st others).2).2

/-- A final packet that is answered with an ERROR packet leaves the session table, and every
final packet that would have been acknowledged, at once or after other packets, still is. -/
def FailureHarmless (S : Suite q G) (cap : ℕ) (cfg : ServerConfig) (e : Entry) : Prop :=
  ∀ hdr payload, received e = some (hdr, payload) → IsFinal hdr →
    pktTypeOf e.2.reply = pktError →
    e.2.after.sessions = e.2.before.sessions ∧
    ∀ others job, IsAck (replyAfter S cap cfg e.2.before others job) →
      IsAck (replyAfter S cap cfg e.2.after others job)

variable {S : Suite q G} {cap : ℕ} {cfg : ServerConfig}

/-- Enrolling fails without room and when the file cannot be written. -/
theorem enroll_eq_error_iff {st : ServerState} {i : ℕ} {p : PendingSetup}
    {save : Except AuthErr Unit} : (∃ err, (enroll st i p save).2 = .error err) ↔
      NoRoom st.registry p.deviceId ∨ ∃ err, save = .error err := by
  have hput := @authRegistryPut_eq_error_iff st.registry p.entry
  unfold enroll
  cases hp : authRegistryPut st.registry p.entry with
  | error e => exact iff_of_true ⟨e, rfl⟩ (.inl (hput.mp ⟨e, hp⟩))
  | ok reg =>
      have hroom : ¬ NoRoom st.registry p.deviceId := by
        intro h
        obtain ⟨e, he⟩ := hput.mpr h
        rw [hp] at he
        cases he
      exact ⟨.inr, fun h => h.resolve_left hroom⟩

/-- The handler refuses every tag but the one it expects. -/
theorem authServerHandleAuth3_eq_error {p : PendingAuth} (sid : SessionId) (seq : UInt32)
    {payload : List UInt8} (h : payload ≠ (p.tagC S).val) :
    ∃ e, authServerHandleAuth3 S p sid seq payload maxDatagram = .error e := by
  cases hr : authServerHandleAuth3 S p sid seq payload maxDatagram with
  | error e => exact ⟨e, rfl⟩
  | ok pkt => exact absurd (authServerHandleAuth3_eq_ok_iff.mp hr).2.1 h

/-- A job that loses its session is answered with an ERROR packet, and its slot is free. -/
theorem LosesSession.changes (cap : ℕ) (cfg : ServerConfig) {st : ServerState} {job : Job}
    (h : LosesSession S st job) :
    ∃ hdr payload, authHeaderDecode job.input = .ok (hdr, payload) ∧ IsFinal hdr ∧
      pktTypeOf ((dispatch S cap cfg job).run st).2 = pktError ∧
      ((dispatch S cap cfg job).run st).1.sessions ≠ st.sessions := by
  obtain ⟨hdr, payload, hd, ⟨ht, i, p, hl, htag⟩ | ⟨ht, i, p, s3, hl, hs3, hp, hfail⟩⟩ := h
  · refine ⟨hdr, payload, hd, .inr ht, ?_⟩
    obtain ⟨-, hnone⟩ | ⟨i', p', hl', hrun⟩ := dispatch_auth3_cases (S := S) cap cfg st hd ht
    · rw [hl] at hnone
      cases hnone
    · rw [hl] at hl'
      cases hl'
      obtain ⟨e, he⟩ := authServerHandleAuth3_eq_error hdr.sessionId hdr.seq htag
      rw [hrun, he]
      refine ⟨pktTypeOf_errorReply hdr e, ?_⟩
      exact set_slot_ne (lookupAuth_eq_some hl).1 (fun h => by cases h)
  · refine ⟨hdr, payload, hd, .inl ht, ?_⟩
    obtain ⟨-, hno⟩ | ⟨i', p', s3', hl', -, -, hrun⟩ :=
      dispatch_setup3_cases (S := S) cap cfg st hd ht
    · rw [hno i p s3 hl hs3] at hp
      cases hp
    · rw [hl] at hl'
      cases hl'
      obtain ⟨e, he⟩ := (enroll_eq_error_iff (i := i)).mpr hfail
      rw [hrun]
      refine ⟨?_, ?_⟩
      · simp only [he]
        exact pktTypeOf_errorReply hdr e
      · simp only [enroll_sessions]
        exact set_slot_ne (lookupSetup_eq_some hl).1 (fun h => by cases h)

/-- Any other final packet that is answered with an ERROR packet leaves the state. -/
theorem state_of_refused {st : ServerState} {job : Job} {hdr : Header} {payload : List UInt8}
    (hno : ¬ LosesSession S st job) (hd : authHeaderDecode job.input = .ok (hdr, payload))
    (hf : IsFinal hdr) (hty : pktTypeOf ((dispatch S cap cfg job).run st).2 = pktError) :
    ((dispatch S cap cfg job).run st).1 = st := by
  rcases hf with ht | ht
  · obtain ⟨⟨err, hrun⟩, -⟩ | ⟨i, p, s3, hl, hs3, hp, hrun⟩ :=
      dispatch_setup3_cases (S := S) cap cfg st hd ht
    · rw [hrun]
    · rw [hrun] at hty
      cases hen : (enroll st i p job.save).2 with
      | ok u =>
          rw [hen] at hty
          cases hty
      | error e =>
          exact absurd ⟨hdr, payload, hd, .inr ⟨ht, i, p, s3, hl, hs3, hp,
            enroll_eq_error_iff.mp ⟨e, hen⟩⟩⟩ hno
  · obtain ⟨hrun, -⟩ | ⟨i, p, hl, hrun⟩ := dispatch_auth3_cases (S := S) cap cfg st hd ht
    · rw [hrun]
    · have hsid := (lookupAuth_eq_some hl).2
      have htag : payload = (p.tagC S).val := by
        by_contra htag
        exact hno ⟨hdr, payload, hd, .inl ⟨ht, i, p, hl, htag⟩⟩
      have hok : authServerHandleAuth3 S p hdr.sessionId hdr.seq payload maxDatagram
          = .ok (frame pktAuthAck hdr.sessionId hdr.seq [ackByte]) :=
        authServerHandleAuth3_eq_ok_iff.mpr ⟨hsid.symm, htag, by decide, rfl⟩
      rw [hrun, hok] at hty
      cases hty

/-- A final packet is harmless when it fails, unless it loses its session. -/
theorem failureHarmless_iff (st : ServerState) (job : Job) :
    FailureHarmless S cap cfg (job, ⟨st, ((dispatch S cap cfg job).run st).2,
      ((dispatch S cap cfg job).run st).1⟩) ↔ ¬ LosesSession S st job := by
  constructor
  · intro hh hl
    obtain ⟨hdr, payload, hd, hf, hty, hne⟩ := hl.changes cap cfg
    exact hne (hh hdr payload (received_eq_some_iff.mpr hd) hf hty).1
  · intro hno hdr payload hrec hf hty
    have hst := state_of_refused hno (received_eq_some_iff.mp hrec) hf hty
    simp only at hty ⊢
    rw [hst]
    exact ⟨rfl, fun others job' hack => hack⟩

end ZkArche.C

namespace ZkArche.Rust

/-! ## The Rust server -/

variable {Addr : Type} [DecidableEq Addr] {q : ℕ} {G : Type} [AddCommGroup G]
  [Module (ZMod q) G] [DecidableEq G]

/-- A final packet that is answered with an ERROR packet leaves the sessions, and every final
packet that would have been acknowledged still is, unless a cached response is sent again. -/
def FailureHarmless (S : Suite q G) (e : Entry Addr q G) : Prop :=
  ∀ hdr payload pkt, packetOf e = some (hdr, payload) → IsFinal hdr →
    e.2.reply.bind Reply.sent = some pkt → pktTypeOf pkt = pktError →
    e.2.after.setupSessions = e.2.before.setupSessions ∧
    e.2.after.authSessions = e.2.before.authSessions ∧
    ∀ (pk : Packet Addr q G) hdr' payload' ack, parsePacket pk.bytes = .ok (hdr', payload') →
      IsFinal hdr' → (dispatchPacket S e.2.before pk).2 = .fresh ack →
      cachedFor e.2.after hdr' pk.peer = none → (dispatchPacket S e.2.after pk).2 = .fresh ack

variable {S : Suite q G}

omit [DecidableEq Addr] in
/-- The answer to a final packet depends on the sessions and the key of the server only. -/
theorem respond_final_congr {st st' : ServerState Addr G} {hdr : Header} {payload : List UInt8}
    {pk : Packet Addr q G} (hf : IsFinal hdr) (hs : st'.setupSessions = st.setupSessions)
    (ha : st'.authSessions = st.authSessions) (hpub : st'.serverPub = st.serverPub) :
    (respond S st' hdr payload pk).2 = (respond S st hdr payload pk).2 := by
  rcases hf with ht | ht
  · have hne : hdr.pktType ≠ pktSetup1 := by
      rw [ht]
      decide
    simp only [respond, if_neg hne, if_pos ht, dispatchSetup3, hs, hpub]
    split
    next => rfl
    next => split <;> rfl
  · have hne : hdr.pktType ≠ pktSetup1 ∧ hdr.pktType ≠ pktSetup3 ∧ hdr.pktType ≠ pktAuth1 := by
      rw [ht]
      decide
    simp only [respond, if_neg hne.1, if_neg hne.2.1, if_neg hne.2.2, if_pos ht, dispatchAuth3, ha]
    split
    next => rfl
    next => split <;> rfl

omit [DecidableEq Addr] [AddCommGroup G] [Module (ZMod q) G] [DecidableEq G] in
/-- The reply depends on the answer only. -/
theorem conclude_reply (st st' : ServerState Addr G) (hdr : Header) (pk : Packet Addr q G)
    (r : Except Stop (List UInt8)) : (conclude st hdr pk r).2 = (conclude st' hdr pk r).2 := by
  unfold conclude
  split <;> rfl

/-- The reply to a packet that is not answered out of the cache. -/
theorem dispatchPacket_reply {st : ServerState Addr G} {pk : Packet Addr q G} {hdr : Header}
    {payload : List UInt8} (hp : parsePacket pk.bytes = .ok (hdr, payload))
    (hc : cachedFor st hdr pk.peer = none) :
    (dispatchPacket S st pk).2 = (conclude st hdr pk (respond S st hdr payload pk).2).2 := by
  simp only [dispatchPacket, hp, hc]
  exact conclude_reply ..

/-- A fresh reply does not come out of the cache. -/
theorem cachedFor_of_fresh {st : ServerState Addr G} {pk : Packet Addr q G} {hdr : Header}
    {payload pkt : List UInt8} (hp : parsePacket pk.bytes = .ok (hdr, payload))
    (h : (dispatchPacket S st pk).2 = .fresh pkt) : cachedFor st hdr pk.peer = none := by
  cases hc : cachedFor st hdr pk.peer with
  | none => rfl
  | some c =>
      simp only [dispatchPacket, hp, hc] at h
      cases h

/-- A packet that is answered with an ERROR packet leaves the sessions. -/
theorem sessions_of_refused {st : ServerState Addr G} {pk : Packet Addr q G} {pkt : List UInt8}
    (hsent : (dispatchPacket S st pk).2.sent = some pkt) (hty : pktTypeOf pkt = pktError)
    {hdr : Header} {payload : List UInt8} (hp : parsePacket pk.bytes = .ok (hdr, payload)) :
    (dispatchPacket S st pk).1.setupSessions = st.setupSessions ∧
      (dispatchPacket S st pk).1.authSessions = st.authSessions := by
  cases hc : cachedFor st hdr pk.peer with
  | some c => simp only [dispatchPacket, hp, hc, and_self]
  | none =>
      generalize hst : (dispatchPacket S st pk).1 = st'
      generalize hreply : (dispatchPacket S st pk).2 = reply at hsent
      have hserved : Served S st pk (dispatchPacket S st pk).1 (dispatchPacket S st pk).2 :=
        dispatchPacket_served st pk
      rw [hst, hreply] at hserved
      cases hserved with
      | other hu _ => exact ⟨hu.setup, hu.auth⟩
      | setup3Unsaved _ _ _ _ _ ha hs _ => exact ⟨hs, ha⟩
      | setup1 _ _ _ _ _ _ _ =>
          cases hsent
          cases hty
      | setup3 _ _ _ _ _ _ _ =>
          cases hsent
          cases hty
      | auth1 _ _ hauth2 _ _ _ =>
          cases hsent
          rw [hty] at hauth2
          cases hauth2
      | auth3 _ _ _ _ _ _ _ =>
          cases hsent
          cases hty

/-- Final packets that fail are harmless. -/
theorem failureHarmless (st : ServerState Addr G) (op : ServerOp Addr q G) :
    FailureHarmless S (op, (serverStep S st op).2) := by
  cases op with
  | gc now pickSetup pickAuth =>
      intro hdr payload pkt hpk
      cases hpk
  | packet pk =>
      intro hdr payload pkt hpk _ hsent hty
      obtain ⟨hs, ha⟩ := sessions_of_refused (S := S) hsent hty (packetOf_eq_some_iff.mp hpk)
      refine ⟨hs, ha, ?_⟩
      intro pk' hdr' payload' ack hp' hf' hack hc
      have hpub := dispatchPacket_serverPub (S := S) st pk
      rw [← hack, dispatchPacket_reply hp' (cachedFor_of_fresh hp' hack), dispatchPacket_reply hp' hc]
      simp only [serverStep]
      rw [respond_final_congr hf' hs ha hpub]
      exact conclude_reply ..

end ZkArche.Rust

namespace ZkArche

/-! ## Runs -/

variable {q : ℕ} {G : Type} [AddCommGroup G] [Module (ZMod q) G] [DecidableEq G]

/-- In every run of the C server, a final packet that fails is harmless exactly when it does not
lose its session.  In every run of the Rust server all that fail are harmless. -/
theorem final_packet_failures (S : Suite q G) :
    (∀ (cap : ℕ) (cfg : C.ServerConfig) (st₀ : C.ServerState) (h : List C.Entry)
      (st : C.ServerState), (C.sequential S cap cfg st₀).Run Machine.anyInput h st →
      ∀ e ∈ h, C.FailureHarmless S cap cfg e ↔ ¬ C.LosesSession S e.2.before e.1) ∧
    ∀ (Addr : Type) [DecidableEq Addr] (st₀ : Rust.ServerState Addr G)
      (h : List (Rust.Entry Addr q G)) (st : Rust.ServerState Addr G),
      (Rust.server S st₀).Run Machine.anyInput h st → ∀ e ∈ h, Rust.FailureHarmless S e := by
  constructor
  · intro cap cfg st₀ h st hrun
    exact hrun.forall_mem fun s job => C.failureHarmless_iff s job
  · intro Addr _ st₀ h st hrun
    exact hrun.forall_mem fun s op => Rust.failureHarmless s op

/-! ## Sessions that are lost -/

namespace C

/-- An AUTH_3 with a wrong tag for the session of the device. -/
def demoForged : Job := demoJob (frame pktAuth3 (byteString 15 7) 2 (Auth3.bytes ⟨Bytes.zero 32⟩))

/-- A SETUP_3 of the device, while the registry file cannot be written. -/
def demoUnwritten : Job := { demoSetup3 with save := .error .storageFailure }

/-- The types of the replies, newest first. -/
def demoReplies (jobs : List Job) : List UInt8 :=
  (demoSequence jobs).1.map fun e => pktTypeOf e.2.reply

end C

/-- Somebody sends an AUTH_3 with a wrong tag for the session of a device, and the correct AUTH_3
of the device is refused; likewise a SETUP_3, after one that could not be saved. -/
theorem final_packet_failures_lose :
    (∃ h st, (C.sequential smallSuite 4 C.demoConfig C.demoState).Run Machine.anyInput h st ∧
      h.map Prod.fst = [C.demoForged, C.demoAuth] ∧
      ∃ e ∈ h, ¬ C.FailureHarmless smallSuite 4 C.demoConfig e) ∧
    (C.demoReplies [C.demoAuth, C.demoAuth3] = [pktAuthAck, pktAuth2] ∧
      C.demoReplies [C.demoAuth, C.demoForged, C.demoAuth3] = [pktError, pktError, pktAuth2]) ∧
    C.demoReplies [C.demoSetup1, C.demoSetup3] = [pktSetupAck, pktSetup2] ∧
      C.demoReplies [C.demoSetup1, C.demoUnwritten, C.demoSetup3]
        = [pktError, pktError, pktSetup2] := by
  have hrun : (C.sequential smallSuite 4 C.demoConfig C.demoState).Run Machine.anyInput
      (C.demoSequence [C.demoAuth, C.demoForged]).1 (C.demoSequence [C.demoAuth, C.demoForged]).2 :=
    (Machine.Run.init rfl).exec _ fun _ _ _ _ => trivial
  obtain ⟨⟨e, he, hrec, hty, hne⟩, hauth⟩ :
      (∃ e ∈ (C.demoSequence [C.demoAuth, C.demoForged]).1,
        (C.received e).map (fun v => v.1.pktType) = some pktAuth3 ∧
        pktTypeOf e.2.reply = pktError ∧ e.2.after.sessions ≠ e.2.before.sessions) ∧
      C.demoReplies [C.demoAuth, C.demoAuth3] = [pktAuthAck, pktAuth2] ∧
      C.demoReplies [C.demoAuth, C.demoForged, C.demoAuth3] = [pktError, pktError, pktAuth2] := by
    decide +kernel
  refine ⟨⟨_, _, hrun, rfl, e, he, ?_⟩, hauth, by decide +kernel⟩
  intro hh
  obtain ⟨⟨hdr, payload⟩, hr, ht⟩ := Option.map_eq_some_iff.mp hrec
  exact hne (hh hdr payload hr (.inr ht) hty).1

end ZkArche
