import ZkArche.Lib.Machine
import ZkArche.Server.ScanC

/-!
# The C server, one packet at a time

When nobody interferes, a call of `dispatch` runs its critical sections one after the other,
and is a function of the state (`serve`, `dispatch_run`).  A slot that the call reserved and
gave back is as it was before.

`Served` lists what a call can then do to the registry and the session table, with the packet
it writes.
-/

namespace ZkArche.C

/-- No answer, or an ERROR packet. -/
def Refusal (out : List UInt8) : Prop := out = [] ∨ pktTypeOf out = pktError

theorem authStrerror_length (e : AuthErr) : (ascii (authStrerror e)).length ≤ 64 := by
  cases e <;> decide

/-- `error_reply` always finds room for its packet. -/
theorem errorReply_eq (hdr : Header) (e : AuthErr) : errorReply hdr e
    = frame pktError hdr.sessionId hdr.seq (natLE 2 e.code ++ ascii (authStrerror e)) := by
  have hlen := authStrerror_length e
  have hmsg : (ascii (authStrerror e)).length ≤ maxPayload - 2 :=
    hlen.trans (by decide)
  have hbuild : authPacketBuildError hdr.sessionId hdr.seq e (authStrerror e) maxDatagram
      = .ok (frame pktError hdr.sessionId hdr.seq (natLE 2 e.code ++ ascii (authStrerror e))) := by
    simp only [authPacketBuildError, Except.bind_eq_ok_iff, ensure_eq_ok_iff,
      authPacketBuild_eq_ok_iff, List.length_append, natLE_length]
    refine ⟨(), hmsg, ?_, ?_, trivial⟩
    · exact (Nat.add_le_add_left hlen 2).trans (by decide)
    · exact (Nat.add_le_add_left (Nat.add_le_add_left hlen 2) headerLen).trans (by decide)
  rw [errorReply, hbuild]

theorem pktTypeOf_errorReply (hdr : Header) (e : AuthErr) :
    pktTypeOf (errorReply hdr e) = pktError := by
  rw [errorReply_eq, pktTypeOf_frame]

theorem refusal_errorReply (hdr : Header) (e : AuthErr) : Refusal (errorReply hdr e) :=
  .inr (pktTypeOf_errorReply hdr e)

/-- A refusal is of no type but ERROR. -/
theorem Refusal.type_ne {out : List UInt8} (h : Refusal out) {ty : UInt8} (h0 : ty ≠ 0)
    (he : ty ≠ pktError) : pktTypeOf out ≠ ty := by
  rcases h with rfl | h
  · exact fun h => h0 h.symm
  · rw [h]
    exact he.symm

/-! ## Calls -/

section

variable {q : ℕ} {G : Type} [AddCommGroup G] [Module (ZMod q) G]

/-- A SETUP_1 when nobody interferes. -/
def serveSetup1 (S : Suite q G) (cfg : ServerConfig) (st : ServerState) (job : Job)
    (hdr : Header) (payload : List UInt8) : ServerState × Except AuthErr (List UInt8) :=
  match st.sessions.findIdx? (· = .free) with
  | none => (st, .error .tooManyActive)
  | some i =>
      match authServerHandleSetup1 S cfg hdr.sessionId hdr.seq payload job.setup maxDatagram with
      | .error e => (st, .error e)
      | .ok (p, pkt) => ({ st with sessions := st.sessions.set i (.setup p) }, .ok pkt)

/-- A SETUP_3 when nobody interferes. -/
def serveSetup3 (S : Suite q G) (st : ServerState) (job : Job) (hdr : Header)
    (payload : List UInt8) : ServerState × Except AuthErr (List UInt8) :=
  match lookupSetup st.sessions hdr.sessionId with
  | none => (st, .error .unknownSession)
  | some (i, p) =>
      match authServerHandleSetup3 S p hdr.sessionId hdr.seq payload maxDatagram with
      | .error e => (st, .error e)
      | .ok pkt => ((enroll st i p job.save).1, (enroll st i p job.save).2.map fun _ => pkt)

/-- An AUTH_1 when nobody interferes. -/
def serveAuth1 (S : Suite q G) (cap : ℕ) (cfg : ServerConfig) (st : ServerState) (job : Job)
    (hdr : Header) (payload : List UInt8) : ServerState × Except AuthErr (List UInt8) :=
  match st.sessions.findIdx? (· = .free) with
  | none => (st, .error .tooManyActive)
  | some i =>
      match search (verdicts S cap cfg st hdr payload job.auth) .unknownDevice with
      | .error e => (st, .error e)
      | .ok (p, pkt) =>
          ({ st with
            sessions := st.sessions.set i (.auth p)
            replayCache := remember S cap st.replayCache payload }, .ok pkt)

/-- An AUTH_3 when nobody interferes. -/
def serveAuth3 (S : Suite q G) (st : ServerState) (hdr : Header) (payload : List UInt8) :
    ServerState × Except AuthErr (List UInt8) :=
  match lookupAuth st.sessions hdr.sessionId with
  | none => (st, .error .unknownSession)
  | some (i, p) =>
      ({ st with sessions := st.sessions.set i .free },
        authServerHandleAuth3 S p hdr.sessionId hdr.seq payload maxDatagram)

/-- A packet with a valid header when nobody interferes. -/
def serve (S : Suite q G) (cap : ℕ) (cfg : ServerConfig) (st : ServerState) (job : Job)
    (hdr : Header) (payload : List UInt8) : ServerState × Except AuthErr (List UInt8) :=
  if hdr.pktType = pktSetup1 then serveSetup1 S cfg st job hdr payload
  else if hdr.pktType = pktSetup3 then serveSetup3 S st job hdr payload
  else if hdr.pktType = pktAuth1 then serveAuth1 S cap cfg st job hdr payload
  else if hdr.pktType = pktAuth3 then serveAuth3 S st hdr payload
  else (st, .error .unknownPktType)

section

variable {S : Suite q G} {cap : ℕ} {cfg : ServerConfig} (st : ServerState) (job : Job)
  (hdr : Header) (payload : List UInt8)

theorem dispatchSetup1_run :
    (dispatchSetup1 S cap cfg job hdr payload).run st = serveSetup1 S cfg st job hdr payload := by
  rw [dispatchSetup1, Prog.run_bind, serveSetup1]
  cases hi : st.sessions.findIdx? (· = .free) with
  | none =>
      simp only [locked, Prog.call, Prog.run, reserve_none hi]
      rfl
  | some i =>
      have hfree := free_of_findIdx? hi
      simp only [locked, Prog.call, Prog.run, reserve_some hi]
      cases authServerHandleSetup1 S cfg hdr.sessionId hdr.seq payload job.setup maxDatagram with
      | error e =>
          show ({ st with sessions := authSessionTableRelease (st.sessions.set i .reserved) i },
            Except.error e) = _
          rw [release_reserved hfree]
      | ok r =>
          obtain ⟨p, pkt⟩ := r
          have hact := @activateOrRelease_reserved { st with
            sessions := st.sessions.set i .reserved } i (.setup p) (getElem?_set_reserved hfree)
          simp only [Prog.run_bind, Prog.run, execReq, hact, List.set_set]
          rfl

theorem dispatchSetup3_run :
    (dispatchSetup3 S cap cfg job hdr payload).run st = serveSetup3 S st job hdr payload := by
  rw [dispatchSetup3, Prog.run_bind, serveSetup3]
  simp only [locked, Prog.call, Prog.run, execReq]
  cases lookupSetup st.sessions hdr.sessionId with
  | none => rfl
  | some r =>
      obtain ⟨i, p⟩ := r
      cases hr : authServerHandleSetup3 S p hdr.sessionId hdr.seq payload maxDatagram with
      | error e =>
          simp only [hr]
          rfl
      | ok pkt =>
          simp only [hr, Prog.run_bind, Prog.run, execReq]
          cases (enroll st i p job.save).2 with
          | error e => rfl
          | ok u => rfl

theorem tryHandleAuth1_run :
    (tryHandleAuth1 S cap cfg job hdr payload).run st
      = serveAuth1 S cap cfg st job hdr payload := by
  rw [tryHandleAuth1, Prog.run_bind, serveAuth1]
  cases hi : st.sessions.findIdx? (· = .free) with
  | none =>
      simp only [locked, Prog.call, Prog.run, reserve_none hi]
      rfl
  | some i =>
      have hfree := free_of_findIdx? hi
      simp only [locked, Prog.call, Prog.run, reserve_some hi]
      rw [Prog.run_bind]
      simp only [Prog.run, execReq]
      rw [scanCandidates_eq i hdr payload job.auth st.registry.length 0 .unknownDevice
        { st with sessions := st.sessions.set i .reserved } (getElem?_set_reserved hfree),
        ← List.range_eq_range']
      -- the verdicts do not depend on the reservation
      show settle S cap _ i payload (search (verdicts S cap cfg st hdr payload job.auth)
        .unknownDevice) = _
      cases search (verdicts S cap cfg st hdr payload job.auth) .unknownDevice with
      | ok r => simp only [settle, List.set_set]
      | error e => simp only [settle, release_reserved hfree]

theorem dispatchAuth3_run :
    (dispatchAuth3 S cap cfg hdr payload).run st = serveAuth3 S st hdr payload := by
  rw [dispatchAuth3, Prog.run_bind, serveAuth3]
  simp only [locked, Prog.call, Prog.run, execReq]
  cases lookupAuth st.sessions hdr.sessionId with
  | none => rfl
  | some r => rfl

theorem dispatchBody_run :
    (dispatchBody S cap cfg job hdr payload).run st = serve S cap cfg st job hdr payload := by
  unfold dispatchBody serve
  split
  next => exact dispatchSetup1_run st job hdr payload
  split
  next => exact dispatchSetup3_run st job hdr payload
  split
  next => exact tryHandleAuth1_run st job hdr payload
  split
  next => exact dispatchAuth3_run st hdr payload
  next => rfl

variable {hdr payload}

/-- A call of `dispatch` when nobody interferes. -/
theorem dispatch_run {job : Job} (hd : authHeaderDecode job.input = .ok (hdr, payload)) :
    (dispatch S cap cfg job).run st = ((serve S cap cfg st job hdr payload).1,
      replyOf hdr (serve S cap cfg st job hdr payload).2) := by
  unfold dispatch
  simp only [hd, Prog.run_bind, dispatchBody_run]
  rfl

/-- A packet without a valid header is dropped. -/
theorem dispatch_run_dropped {job : Job} {e : AuthErr}
    (hd : authHeaderDecode job.input = .error e) :
    (dispatch S cap cfg job).run st = (st, []) := by
  unfold dispatch
  simp only [hd]
  rfl

end

/-! ## What a call can do -/

/-- The record of an accepted SETUP_1. -/
def setupPending (cfg : ServerConfig) (sid : SessionId) (s1 : Setup1) (draws : Setup2Draws) :
    PendingSetup :=
  ⟨sid, s1.deviceId, s1.devicePub, s1.roleCommitment, s1.clientNonce, draws.nonce,
    draws.challenge, cfg.serverPub⟩

/-- What a call of `dispatch` can do when nobody interferes. -/
inductive Served (S : Suite q G) (cfg : ServerConfig) (st : ServerState) (job : Job) :
    ServerState → List UInt8 → Prop where
  /-- Nothing. -/
  | other {st' : ServerState} {out : List UInt8} : st'.registry = st.registry →
      st'.sessions = st.sessions → Refusal out → Served S cfg st job st' out
  /-- A SETUP_1 is accepted, and takes the first free slot. -/
  | setup1 {st' : ServerState} {hdr : Header} {payload : List UInt8} {i : ℕ} {s1 : Setup1}
      {proof : SchnorrProof} : authHeaderDecode job.input = .ok (hdr, payload) →
      hdr.pktType = pktSetup1 → authSetup1Decode payload = .ok s1 →
      tokenOk cfg s1.pairingToken = true → st.sessions.findIdx? (· = .free) = some i →
      st'.registry = st.registry →
      st'.sessions = st.sessions.set i (.setup (setupPending cfg hdr.sessionId s1 job.setup)) →
      Served S cfg st job st' (frame pktSetup2 hdr.sessionId hdr.seq
        (Setup2.bytes ⟨job.setup.nonce, job.setup.challenge, cfg.serverPub, proof⟩))
  /-- A SETUP_3 is accepted, and its record is saved. -/
  | setup3 {st' : ServerState} {hdr : Header} {payload : List UInt8} {i : ℕ}
      {p : PendingSetup} {s3 : Setup3} : authHeaderDecode job.input = .ok (hdr, payload) →
      hdr.pktType = pktSetup3 → lookupSetup st.sessions hdr.sessionId = some (i, p) →
      authSetup3Decode payload = .ok s3 → p.proves S s3.clientProof = true →
      authRegistryPut st.registry p.entry = .ok st'.registry →
      st'.sessions = st.sessions.set i .free →
      Served S cfg st job st' (frame pktSetupAck hdr.sessionId hdr.seq [ackByte])
  /-- A SETUP_3 is accepted, but the registry is full or its file cannot be written. -/
  | setup3Unsaved {st' : ServerState} {out : List UInt8} {hdr : Header} {payload : List UInt8}
      {i : ℕ} {p : PendingSetup} {s3 : Setup3} : authHeaderDecode job.input = .ok (hdr, payload) →
      hdr.pktType = pktSetup3 → lookupSetup st.sessions hdr.sessionId = some (i, p) →
      authSetup3Decode payload = .ok s3 → p.proves S s3.clientProof = true →
      (st'.registry = st.registry ∨ authRegistryPut st.registry p.entry = .ok st'.registry) →
      st'.sessions = st.sessions.set i .free → Refusal out → Served S cfg st job st' out
  /-- An AUTH_1 is accepted, and takes the first free slot. -/
  | auth1 {st' : ServerState} {out : List UInt8} {i : ℕ} {p : PendingAuth} :
      st.sessions.findIdx? (· = .free) = some i → st'.registry = st.registry →
      st'.sessions = st.sessions.set i (.auth p) → pktTypeOf out = pktAuth2 →
      Served S cfg st job st' out
  /-- An AUTH_3 ends its session, accepted or not. -/
  | auth3 {st' : ServerState} {out : List UInt8} {i : ℕ} {p : PendingAuth} {sid : SessionId} :
      lookupAuth st.sessions sid = some (i, p) → st'.registry = st.registry →
      st'.sessions = st.sessions.set i .free → pktTypeOf out = pktAuthAck ∨ Refusal out →
      Served S cfg st job st' out

variable {S : Suite q G} {cap : ℕ} {cfg : ServerConfig}

theorem auth1_type {sid : SessionId} {seq : UInt32} {payload pkt : List UInt8}
    {lookup : Except AuthErr (Bytes 32 × Bytes 32)} {draws : Auth2Draws} {outCap : ℕ}
    {p : PendingAuth}
    (h : authServerHandleAuth1 S cfg sid seq payload lookup draws outCap = .ok (p, pkt)) :
    pktTypeOf pkt = pktAuth2 := by
  obtain ⟨a1, pub, rc, -, -, -, hr⟩ := authServerHandleAuth1_eq_ok_iff.mp h
  obtain ⟨-, ephS, proof, shared, -, -, -, -, rfl⟩ := auth1Respond_eq_ok_iff.mp hr
  exact pktTypeOf_frame ..

section

variable {st : ServerState} {job : Job} {hdr : Header} {payload : List UInt8}

theorem serveSetup1_served (hd : authHeaderDecode job.input = .ok (hdr, payload))
    (ht : hdr.pktType = pktSetup1) : Served S cfg st job (serveSetup1 S cfg st job hdr payload).1
      (replyOf hdr (serveSetup1 S cfg st job hdr payload).2) := by
  unfold serveSetup1
  split
  next => exact .other rfl rfl (refusal_errorReply hdr .tooManyActive)
  next i hi =>
    split
    next e _ => exact .other rfl rfl (refusal_errorReply hdr e)
    next p pkt hr =>
      obtain ⟨s1, proof, hs1, htok, rfl, rfl⟩ := authServerHandleSetup1_ok hr
      exact .setup1 hd ht hs1 htok hi rfl rfl

theorem search_eq_ok {α : Type} {l : List (Except AuthErr α)} {last : AuthErr} {r : α}
    (h : search l last = .ok r) : .ok r ∈ l := by
  induction l generalizing last with
  | nil => cases h
  | cons v l ih =>
      cases v with
      | ok r' =>
          cases h
          exact List.mem_cons_self
      | error e =>
          simp only [search] at h
          split at h
          next => exact List.mem_cons_of_mem _ (ih h)
          next => cases h

theorem verdict_eq_ok {draws : ℕ → Auth2Draws} {j : ℕ} {r : PendingAuth × List UInt8}
    (h : verdict S cap cfg st hdr payload draws j = .ok r) :
    authServerHandleAuth1 S cfg hdr.sessionId hdr.seq payload
      (.ok ((st.registry.getD j default).devicePub, (st.registry.getD j default).roleCommitment))
      (draws j) maxDatagram = .ok r := by
  obtain ⟨e, hg⟩ | ⟨key, r', -, -, ha, hg⟩ := authServerHandleAuth1Guarded_cases (S := S) cap
    st.replayCache cfg hdr.sessionId hdr.seq payload
    (.ok ((st.registry.getD j default).devicePub, (st.registry.getD j default).roleCommitment))
    (draws j) maxDatagram
  · rw [verdict, hg] at h
    cases h
  · rw [verdict, hg] at h
    cases h
    exact ha

theorem serveAuth1_served : Served S cfg st job (serveAuth1 S cap cfg st job hdr payload).1
    (replyOf hdr (serveAuth1 S cap cfg st job hdr payload).2) := by
  unfold serveAuth1
  split
  next => exact .other rfl rfl (refusal_errorReply hdr .tooManyActive)
  next i hi =>
    split
    next e _ => exact .other rfl rfl (refusal_errorReply hdr e)
    next p pkt hr =>
      obtain ⟨j, -, hv⟩ := List.mem_map.mp (search_eq_ok hr)
      exact .auth1 hi rfl rfl (auth1_type (verdict_eq_ok hv))

theorem serveSetup3_served (hd : authHeaderDecode job.input = .ok (hdr, payload))
    (ht : hdr.pktType = pktSetup3) : Served S cfg st job (serveSetup3 S st job hdr payload).1
      (replyOf hdr (serveSetup3 S st job hdr payload).2) := by
  unfold serveSetup3
  split
  next => exact .other rfl rfl (refusal_errorReply hdr .unknownSession)
  next i p hl =>
    split
    next e _ => exact .other rfl rfl (refusal_errorReply hdr e)
    next pkt hr =>
      obtain ⟨-, ⟨s3, hs3, hp⟩, -, rfl⟩ := authServerHandleSetup3_eq_ok_iff.mp hr
      unfold enroll
      cases hput : authRegistryPut st.registry p.entry with
      | error e => exact .setup3Unsaved hd ht hl hs3 hp (.inl rfl) rfl (refusal_errorReply hdr e)
      | ok reg =>
          cases hsave : job.save with
          | error e =>
              exact .setup3Unsaved hd ht hl hs3 hp (.inr hput) rfl (refusal_errorReply hdr e)
          | ok u => exact .setup3 hd ht hl hs3 hp hput rfl

theorem serveAuth3_served : Served S cfg st job (serveAuth3 S st hdr payload).1
    (replyOf hdr (serveAuth3 S st hdr payload).2) := by
  unfold serveAuth3
  split
  next => exact .other rfl rfl (refusal_errorReply hdr .unknownSession)
  next i p hl =>
    refine .auth3 hl rfl rfl ?_
    cases hr : authServerHandleAuth3 S p hdr.sessionId hdr.seq payload maxDatagram with
    | error e => exact .inr (refusal_errorReply hdr e)
    | ok pkt =>
        obtain ⟨-, -, -, rfl⟩ := authServerHandleAuth3_eq_ok_iff.mp hr
        exact .inl (pktTypeOf_frame ..)

end

/-- What a call of `dispatch` does when nobody interferes is on the list. -/
theorem dispatch_served (st : ServerState) (job : Job) :
    Served S cfg st job ((dispatch S cap cfg job).run st).1
      ((dispatch S cap cfg job).run st).2 := by
  cases hd : authHeaderDecode job.input with
  | error e =>
      rw [dispatch_run_dropped st hd]
      exact .other rfl rfl (.inl rfl)
  | ok v =>
      obtain ⟨hdr, payload⟩ := v
      rw [dispatch_run st hd]
      unfold serve
      split
      next ht => exact serveSetup1_served hd ht
      split
      next ht => exact serveSetup3_served hd ht
      split
      next => exact serveAuth1_served
      split
      next => exact serveAuth3_served
      next => exact .other rfl rfl (refusal_errorReply hdr .unknownPktType)

/-! ## One packet of a type -/

section

variable {st : ServerState} {job : Job} {hdr : Header} {payload : List UInt8}

theorem serve_setup3 (ht : hdr.pktType = pktSetup3) :
    serve S cap cfg st job hdr payload = serveSetup3 S st job hdr payload := by
  have hne : hdr.pktType ≠ pktSetup1 := by
    rw [ht]
    decide
  rw [serve, if_neg hne, if_pos ht]

theorem serve_auth1 (ht : hdr.pktType = pktAuth1) :
    serve S cap cfg st job hdr payload = serveAuth1 S cap cfg st job hdr payload := by
  have hne : hdr.pktType ≠ pktSetup1 ∧ hdr.pktType ≠ pktSetup3 := by
    rw [ht]
    decide
  rw [serve, if_neg hne.1, if_neg hne.2, if_pos ht]

theorem serve_auth3 (ht : hdr.pktType = pktAuth3) :
    serve S cap cfg st job hdr payload = serveAuth3 S st hdr payload := by
  have hne : hdr.pktType ≠ pktSetup1 ∧ hdr.pktType ≠ pktSetup3 ∧ hdr.pktType ≠ pktAuth1 := by
    rw [ht]
    decide
  rw [serve, if_neg hne.1, if_neg hne.2.1, if_neg hne.2.2, if_pos ht]

/-- A SETUP_1 is refused, or its record takes the first free slot. -/
theorem dispatch_setup1_cases (cap : ℕ) (cfg : ServerConfig) (st : ServerState)
    (hd : authHeaderDecode job.input = .ok (hdr, payload)) (ht : hdr.pktType = pktSetup1) :
    (∃ err, (dispatch S cap cfg job).run st = (st, errorReply hdr err)) ∨
    ∃ i s1 proof, st.sessions.findIdx? (· = .free) = some i ∧ authSetup1Decode payload = .ok s1 ∧
      (dispatch S cap cfg job).run st = ({ st with
          sessions := st.sessions.set i (.setup (setupPending cfg hdr.sessionId s1 job.setup)) },
        frame pktSetup2 hdr.sessionId hdr.seq
          (Setup2.bytes ⟨job.setup.nonce, job.setup.challenge, cfg.serverPub, proof⟩)) := by
  rw [dispatch_run st hd, serve, if_pos ht, serveSetup1]
  cases hi : st.sessions.findIdx? (· = .free) with
  | none => exact .inl ⟨.tooManyActive, rfl⟩
  | some i =>
      cases hr : authServerHandleSetup1 S cfg hdr.sessionId hdr.seq payload job.setup
          maxDatagram with
      | error err => exact .inl ⟨err, rfl⟩
      | ok r =>
          obtain ⟨p, pkt⟩ := r
          obtain ⟨s1, proof, hs1, -, rfl, rfl⟩ := authServerHandleSetup1_ok hr
          exact .inr ⟨i, s1, proof, rfl, hs1, rfl⟩

/-- A SETUP_3 is refused before it reaches the registry, or enrolls the record it finds. -/
theorem dispatch_setup3_cases (cap : ℕ) (cfg : ServerConfig) (st : ServerState)
    (hd : authHeaderDecode job.input = .ok (hdr, payload)) (ht : hdr.pktType = pktSetup3) :
    ((∃ err, (dispatch S cap cfg job).run st = (st, errorReply hdr err)) ∧
      ∀ i p s3, lookupSetup st.sessions hdr.sessionId = some (i, p) →
        authSetup3Decode payload = .ok s3 → p.proves S s3.clientProof = false) ∨
    ∃ i p s3, lookupSetup st.sessions hdr.sessionId = some (i, p) ∧
      authSetup3Decode payload = .ok s3 ∧ p.proves S s3.clientProof = true ∧
      (dispatch S cap cfg job).run st = ((enroll st i p job.save).1, replyOf hdr
        ((enroll st i p job.save).2.map fun _ =>
          frame pktSetupAck hdr.sessionId hdr.seq [ackByte])) := by
  rw [dispatch_run st hd, serve_setup3 ht, serveSetup3]
  cases hl : lookupSetup st.sessions hdr.sessionId with
  | none => exact .inl ⟨⟨.unknownSession, rfl⟩, fun _ _ _ h => by cases h⟩
  | some r =>
      obtain ⟨i, p⟩ := r
      have hsid := (lookupSetup_eq_some hl).2
      cases hr : authServerHandleSetup3 S p hdr.sessionId hdr.seq payload maxDatagram with
      | error e =>
          refine .inl ⟨⟨e, by simp only [hr, replyOf]⟩, ?_⟩
          rintro i' p' s3 ⟨⟩ hs3
          by_contra hp
          rw [Bool.not_eq_false] at hp
          have hok : authServerHandleSetup3 S p hdr.sessionId hdr.seq payload maxDatagram
              = .ok (frame pktSetupAck hdr.sessionId hdr.seq [ackByte]) :=
            authServerHandleSetup3_eq_ok_iff.mpr ⟨hsid.symm, ⟨s3, hs3, hp⟩, by decide, rfl⟩
          rw [hr] at hok
          cases hok
      | ok pkt =>
          obtain ⟨-, ⟨s3, hs3, hp⟩, -, rfl⟩ := authServerHandleSetup3_eq_ok_iff.mp hr
          refine .inr ⟨i, p, s3, rfl, hs3, hp, ?_⟩
          simp only [hr]

/-- An AUTH_3 finds no session, or ends the one it finds. -/
theorem dispatch_auth3_cases (cap : ℕ) (cfg : ServerConfig) (st : ServerState)
    (hd : authHeaderDecode job.input = .ok (hdr, payload)) (ht : hdr.pktType = pktAuth3) :
    ((dispatch S cap cfg job).run st = (st, errorReply hdr .unknownSession) ∧
      lookupAuth st.sessions hdr.sessionId = none) ∨
    ∃ i p, lookupAuth st.sessions hdr.sessionId = some (i, p) ∧
      (dispatch S cap cfg job).run st = ({ st with sessions := st.sessions.set i .free },
        replyOf hdr (authServerHandleAuth3 S p hdr.sessionId hdr.seq payload maxDatagram)) := by
  rw [dispatch_run st hd, serve_auth3 ht, serveAuth3]
  cases hl : lookupAuth st.sessions hdr.sessionId with
  | none => exact .inl ⟨rfl, rfl⟩
  | some r => exact .inr ⟨r.1, r.2, rfl, rfl⟩

end

/-! ## Runs -/

/-- What a call ends with: the state it meets, the packet it writes, and the state it
leaves. -/
structure Outcome where
  before : ServerState
  reply : List UInt8
  after : ServerState

/-- An answered packet. -/
abbrev Entry := Job × Outcome

/-- The server that answers one packet at a time. -/
def sequential (S : Suite q G) (cap : ℕ) (cfg : ServerConfig) (st : ServerState) :
    Machine ServerState Job Outcome where
  init := fun s => s = st
  step := fun s job =>
    let r := (dispatch S cap cfg job).run s
    (r.1, ⟨s, r.2, r.1⟩)

end

end ZkArche.C
