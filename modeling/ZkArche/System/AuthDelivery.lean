import ZkArche.Server.Interop
import ZkArche.System.Network

/-!
# Authentication over a network that loses, repeats and reorders

An enrolled device with the Rust client authenticates to the Rust server over a network as in
`System/Network.lean`.  When the server handles the AUTH_1 it has its key, the device is enrolled
and the replay key is fresh, and no collection evicts the pending record of the session or drops
a cached response of it (`AuthNetwork`).  The network and the other peers are free in the rest.

The client ends with the session key of the server as soon as it has the acknowledgement, and
before that only with an error of its transport: no copy, delay or loss makes either party
refuse the other.  The server accepts one AUTH_1 and one AUTH_3, however many copies arrive, and
the client sends at most `max_retries + 1` copies of each (`lossy_auth`).
-/

namespace ZkArche.Rust

variable {Addr : Type} [DecidableEq Addr] {q : ℕ} {G : Type} [AddCommGroup G]
  [Module (ZMod q) G] [DecidableEq G] {S : Suite q G} {h : Honest q}

/-! ## The device -/

omit [DecidableEq G] in
/-- The store holds the credentials of the device. -/
structure Equipped (S : Suite q G) (h : Honest q) (store : CredentialStore q G) : Prop where
  deviceRoot : ∃ root, store.deviceRoot = some root ∧ deriveDeviceScalar S root = h.x
  serverPub : store.serverPub = some (h.serverPub S)
  roleCredential : store.roleCredential = some ⟨h.roleCode, h.blind, h.commitment S⟩
  loads : store.loadRootFails = none ∧ store.loadServerPubFails = none ∧
    store.loadRoleFails = none

/-- The client loads the credentials of the device. -/
theorem Equipped.load {w : World q G} (hw : Equipped S h w.store) (hx : h.devicePub S ≠ 0) :
    (loadAuthCredentials S).exec w
      = (.ok (h.x, h.serverPub S, ⟨h.roleCode, h.blind, h.commitment S⟩), w) := by
  obtain ⟨root, hroot, hscalar⟩ := hw.deviceRoot
  obtain ⟨hl1, hl2, hl3⟩ := hw.loads
  have hload1 : (loadOrCreateDeviceRoot (q := q) (G := G) false).exec w = (.ok root, w) := by
    simp only [loadOrCreateDeviceRoot, Routine.exec_op, hl1, hroot]
  have hdevice : orStop (rejectIdentity (h.x • S.base) "device_pub") = .ok () :=
    congrArg orStop (ensure_pos hx)
  have hload2 : (loadServerPub (q := q)).exec w = (.ok (some (h.serverPub S)), w) := by
    simp only [loadServerPub, Routine.exec_op, hl2, hw.serverPub]
  have hload3 : loadRoleCredential.exec w
      = (.ok (some ⟨h.roleCode, h.blind, h.commitment S⟩), w) := by
    simp only [loadRoleCredential, Routine.exec_op, hl3, hw.roleCredential]
  rw [loadAuthCredentials, Routine.exec_bind_ok hload1]
  dsimp only
  rw [hscalar, Routine.exec_bind_ok (exec_attempt_ok hdevice _), Routine.exec_bind_ok hload2,
    Routine.exec_bind_ok (exec_attempt_ok rfl _), Routine.exec_bind_ok hload3]
  rfl

/-! ## The server -/

/-- An AUTH_1 that is accepted. -/
theorem dispatchPacket_auth1 {st : ServerState Addr G} {pk : Packet Addr q G} {hdr : Header}
    {payload : List UInt8} {rkey : ReplayKey} {p : PendingAuth}
    (hp : parsePacket pk.bytes = .ok (hdr, payload)) (hty : hdr.pktType = pktAuth1)
    (hc : cachedFor st hdr pk.peer = none)
    (ha : auth1Accept S pk.serverSk (pk.iterate st.registry.records) st.replay defaultAllowedRoles
      hdr.sessionId hdr.seq payload pk.auth = .ok (rkey, p)) :
    (dispatchPacket S st pk).2 = .fresh p.responsePacket ∧
      (dispatchPacket S st pk).1.authSessions.lookup hdr.sessionId = some p := by
  have hrespond : respond S st hdr payload pk = dispatchAuth1 S st hdr payload pk := by
    simp only [respond, hty, (by decide : pktAuth1 ≠ pktSetup1), (by decide : pktAuth1 ≠ pktSetup3),
      if_false, if_true]
  have hhandle : handleAuth1 S pk.serverSk (pk.iterate st.registry.records) st.replay
      defaultAllowedRoles hdr.sessionId hdr.seq payload pk.auth
      = ((st.replay.insert rkey).1, .ok p) := by
    simp only [handleAuth1, ha]
  simp only [dispatchPacket, hp, hc, hrespond, dispatchAuth1, hhandle, conclude, responseOf]
  exact ⟨trivial, AList.lookup_insert _⟩

/-- An AUTH_3 with the expected tag. -/
theorem dispatchPacket_auth3 {st : ServerState Addr G} {pk : Packet Addr q G} {hdr : Header}
    {p : PendingAuth} (hp : parsePacket pk.bytes = .ok (hdr, p.expectedTagC.val))
    (hty : hdr.pktType = pktAuth3) (hc : cachedFor st hdr pk.peer = none)
    (hl : st.authSessions.lookup hdr.sessionId = some p) :
    (dispatchPacket S st pk).2 = .fresh (frame pktAuthAck hdr.sessionId hdr.seq [ackByte]) := by
  have hrespond : ∀ payload, respond S st hdr payload pk = dispatchAuth3 st hdr payload := by
    intro payload
    simp only [respond, hty, (by decide : pktAuth3 ≠ pktSetup1), (by decide : pktAuth3 ≠ pktSetup3),
      (by decide : pktAuth3 ≠ pktAuth1), if_false, if_true]
  have hhandle : handleAuth3 p hdr.sessionId hdr.seq p.expectedTagC.val
      = .ok (frame pktAuthAck hdr.sessionId hdr.seq [ackByte]) :=
    handleAuth3_eq_ok_iff.mpr ⟨rfl, rfl⟩
  simp only [dispatchPacket, hp, hc, hrespond, dispatchAuth3, hl, hhandle, conclude, responseOf]

/-! ## The flow -/

/-- The network, with collections that spare the session, and a server that has its key and has
enrolled the device when it handles the AUTH_1.  The random bytes it draws then are those of
`h`. -/
structure AuthNetwork (S : Suite q G) (h : Honest q) (peer : Addr) (sid : SessionId)
    (log : List (ClientEvent G)) (st : ServerState Addr G) (op : ServerOp Addr q G) : Prop where
  conveys : Conveys peer sid log st op
  serves : ∀ pk hdr payload, op = .packet pk → parsePacket pk.bytes = .ok (hdr, payload) →
    hdr.sessionId = sid → hdr.pktType = pktAuth1 → cachedFor st hdr peer = none →
    pk.serverSk = .ok h.sk ∧ pk.auth = h.serverDraws ∧
      Serves S h (pk.iterate st.registry.records) st.replay

section

variable [Fact q.Prime] (hn : h.NonDegenerate S) (hrole : h.roleCode ∈ h.allowedRoles)
  (hroles : h.allowedRoles = defaultAllowedRoles) {st₀ : ServerState Addr G} (peer : Addr)
  {sid : SessionId} (hlabelled : CacheLabelled st₀)
  (hunused : ∀ seq, st₀.responseCache.lookup (sid, seq) = none)

/-- The server keeps the tag it expects. -/
def AwaitsTag (S : Suite q G) (h : Honest q) (sid : SessionId) (st : ServerState Addr G) : Prop :=
  ∃ p, st.authSessions.lookup sid = some p ∧ p.expectedTagC = (h.confirmation S).tag S .c2s

/-- The packets of an authentication. -/
def authFlow : Flow S st₀ peer sid (AuthNetwork S h peer sid) where
  request := fun k => if k = 0 then (h.session S sid 0 1).auth1 else (h.session S sid 0 1).auth3
  answer := fun k => if k = 0 then (h.session S sid 0 1).auth2 else (h.session S sid 0 1).ack
  Pending := AwaitsTag S h sid
  Effect := fun _ _ _ => True
  request_parses := by
    intro k hk
    obtain rfl | rfl := Nat.le_one_iff_eq_zero_or_eq_one.mp (Nat.le_of_lt_succ hk)
    · exact ⟨_, _, parsePacket_frame pktAuth1 sid 0 _, rfl⟩
    · exact ⟨_, _, parsePacket_frame pktAuth3 sid 1 _, rfl⟩
  answer_labelled := by
    intro k hk
    obtain rfl | rfl := Nat.le_one_iff_eq_zero_or_eq_one.mp (Nat.le_of_lt_succ hk)
    · exact ⟨pktAuth2, _, rfl⟩
    · exact ⟨pktAuthAck, _, rfl⟩
  conveys := fun _ _ _ hok => hok.conveys
  pending_same := by
    rintro st st' hsame ⟨p, hl, htag⟩
    exact ⟨p, hsame.auth.trans hl, htag⟩
  labelled := hlabelled
  unused := hunused
  first := by
    intro log st pk hok hbytes hpeer hnone
    have hp : parsePacket pk.bytes
        = .ok (Header.fresh pktAuth1 sid 0, (h.auth1 S).encode S) := by
      rw [hbytes]
      exact parsePacket_frame pktAuth1 sid 0 _
    have hc := hnone _ _ hp
    obtain ⟨hsk, hdraws, hserves⟩ := hok.serves pk _ _ rfl hp rfl rfl hc
    have h8 : h.allowedRoles.length ≤ maxRoles := hroles ▸ (by decide)
    obtain ⟨id, hacc⟩ := hserves.accepts hn hrole h8 sid 0
    rw [← hsk, ← hdraws, hroles] at hacc
    obtain ⟨hreply, hl⟩ := dispatchPacket_auth1 hp rfl (hpeer ▸ hc) hacc
    exact ⟨hreply, ⟨_, hl, rfl⟩, trivial⟩
  second := by
    rintro log st pk - hbytes hpeer hnone ⟨p, hl, htag⟩
    have hp : parsePacket pk.bytes
        = .ok (Header.fresh pktAuth3 sid 1, p.expectedTagC.val) := by
      rw [hbytes, htag]
      exact parsePacket_frame pktAuth3 sid 1 _
    exact ⟨dispatchPacket_auth3 hp rfl (hpeer ▸ hnone _ _ hp) hl, trivial⟩

/-- The client of an authentication, after it has loaded its credentials. -/
def authCaller (maxRetries : ℕ) :
    (authFlow hn hrole hroles peer hlabelled hunused).Caller Confirmed (Bytes 32) where
  maxRetries := maxRetries
  type := fun k => if k = 0 then pktAuth1 else pktAuth3
  expected := fun k => if k = 0 then pktAuth2 else pktAuthAck
  payload := (h.auth1 S).encode S
  accept := acceptAuth2 S ⟨h.serverPub S, h.ephSecret, h.auth1 S⟩
  next := fun c => Auth3.encode ⟨c.tagC S⟩
  finish := fun c resp => do
    attempt (orStop (decodeAck resp))
    return c.sessionKey
  resp := fun k => if k = 0 then (h.auth2 S).encode S else [ackByte]
  accepted := confirmedOf S (h.confirmation S)
  request_zero := rfl
  request_one := rfl
  answer := by
    intro k hk
    obtain rfl | rfl := Nat.le_one_iff_eq_zero_or_eq_one.mp (Nat.le_of_lt_succ hk)
    · rfl
    · rfl
  expects := by
    intro k hk
    obtain rfl | rfl := Nat.le_one_iff_eq_zero_or_eq_one.mp (Nat.le_of_lt_succ hk)
    · decide
    · decide
  fits := by
    refine ⟨Honest.auth1_length hrole (hroles ▸ (by decide)), ?_⟩
    show ((confirmedOf S (h.confirmation S)).tagC S).val.length ≤ maxPayload
    rw [Bytes.len]
    decide
  accepts := acceptAuth2_honest hn
  silent := by
    intro c resp w
    refine ⟨[], ?_, fun _ => List.not_mem_nil⟩
    show _ = w.log
    have hends : Routine.Ends (attempt (orStop (decodeAck resp)) >>= fun _ => pure c.sessionKey) w
        fun _ w' => w'.log = w.log := by
      refine (attempt_ends _ w).bind ?_ ?_
      · rintro - _ ⟨rfl, -⟩
        rfl
      · rintro e _ ⟨rfl, -⟩
        rfl
    exact hends

/-- A client with the credentials runs the flow. -/
theorem Equipped.exec_eq {w : World q G} (hw : Equipped S h w.store) (maxRetries : ℕ)
    (sessionId : Bytes 32) (hsid : sid = randSessionId sessionId) :
    (runAuthClient S maxRetries h.allowedRoles (h.clientDraws sessionId)).exec w
      = (authCaller hn hrole hroles peer hlabelled hunused maxRetries).run.exec w := by
  subst hsid
  refine (Routine.exec_bind_ok (hw.load hn.devicePub) _).trans ?_
  exact (Routine.exec_bind_ok (exec_attempt_ok (authStart_eq hrole sessionId) _) _).trans rfl

end

/-- An enrolled device authenticates over the network, and no collection takes what the server
holds for the session.  Let `s` be the session of its secrets and the random bytes of both sides.
The server computes the AUTH_2 of `s`, then the acknowledgement, or a front of these, each once.
The client sends copies of the AUTH_1 and then of the AUTH_3.  It returns the session key when it
has the acknowledgement.  Otherwise it has stopped with an error of its transport, or has not
returned. -/
theorem lossy_auth [Fact q.Prime] (S : Suite q G) (h : Honest q) (hn : h.NonDegenerate S)
    (hrole : h.roleCode ∈ h.allowedRoles) (hroles : h.allowedRoles = defaultAllowedRoles)
    {profile : Profile} {serverPub : G} {registry : Registry G} {replay : MemoryReplayCache}
    {token : Option (List UInt8)} {now : ℕ} {past : List (Entry Addr q G)}
    {st₀ : ServerState Addr G}
    (hpast : (server S (.start profile serverPub registry replay token now)).Run
      Machine.anyInput past st₀)
    (peer : Addr) (sessionId : Bytes 32)
    (hunused : ∀ seq, st₀.responseCache.lookup (randSessionId sessionId, seq) = none)
    (w : World q G) (hw : Equipped S h w.store) (hlog : w.log = []) (maxRetries : ℕ)
    {r : Except Halt (Bytes 32)} {w' : World q G}
    (hrun : (runAuthClient S maxRetries h.allowedRoles (h.clientDraws sessionId)).exec w = (r, w'))
    {hist : List (Entry Addr q G)} {st : ServerState Addr G}
    (j : (server S st₀).Joint (Delivers peer) (AuthNetwork S h peer (randSessionId sessionId))
      w'.log hist st) :
    let s := h.session S (randSessionId sessionId) 0 1
    ∃ n ≤ 2,
      hist.filterMap (freshIn (randSessionId sessionId)) = ([s.auth2, s.ack].take n).reverse ∧
      w'.store = w.store ∧
      (∃ k₁ ≤ maxRetries + 1, ∃ k₃ ≤ maxRetries + 1, w'.log.filterMap sentOf
        = List.replicate k₃ s.auth3 ++ List.replicate k₁ s.auth1) ∧
      ((.received s.ack ∈ w'.log ∧ n = 2 ∧ r = .ok s.sessionKey) ∨
        (.received s.ack ∉ w'.log ∧ Unanswered w r)) := by
  intro s
  have hlabelled : CacheLabelled st₀ := (run_labelled cacheLabelled_start hpast).1
  have hends := (authCaller hn hrole hroles peer hlabelled hunused maxRetries).run_ends
    (w := w) hlog
  rw [Routine.Ends, ← hw.exec_eq hn hrole hroles peer hlabelled hunused maxRetries sessionId rfl,
    hrun] at hends
  obtain ⟨n, h2, hfresh, -, w₁, hstore, ⟨k₁, hk₁, k₃, hk₃, hsent⟩, hresult⟩ := hends hist st j
  have hanswers : ((List.range n).map (authFlow hn hrole hroles peer hlabelled
      hunused).answer).reverse = ([s.auth2, s.ack].take n).reverse := by
    obtain rfl | rfl | rfl : n = 0 ∨ n = 1 ∨ n = 2 := by omega
    · rfl
    · rfl
    · rfl
  obtain ⟨hno, hun, rfl⟩ | ⟨hin, htwo, hfinish⟩ := hresult
  · exact ⟨n, h2, hfresh.trans hanswers, hstore, ⟨k₁, hk₁, k₃, hk₃, hsent⟩, .inr ⟨hno, hun⟩⟩
  · have hdone : (r, w') = (.ok s.sessionKey, w₁) :=
      hfinish.symm.trans ((Routine.exec_bind_ok (exec_attempt_ok rfl w₁) _).trans rfl)
    cases hdone
    exact ⟨n, h2, hfresh.trans hanswers, hstore, ⟨k₁, hk₁, k₃, hk₃, hsent⟩,
      .inl ⟨hin, htwo, rfl⟩⟩

/-! ## A repeated AUTH_1 -/

/-- A server that has enrolled two devices and has just started. -/
def demoAuthServer : ServerState Bool (ZMod 11) :=
  .start ⟨15 * 10 ^ 9, 1024, 2048⟩ (demoHonest.serverPub smallSuite)
    ((AList.insert (byteString 31 1)
      ⟨demoHonest.devicePub smallSuite, demoHonest.commitment smallSuite⟩ ∅).insert
        (byteString 31 2) ⟨demoDeviceKey, demoCommitment⟩)
    (MemoryReplayCache.new 4) none 0

/-- A packet of the device. -/
def demoAuthPacket (bytes : List UInt8) : Packet Bool 11 (ZMod 11) :=
  ⟨true, bytes, 0, .ok demoHonest.sk, .ok (), id, demoOrder,
    ⟨byteString 31 8, byteString 31 6, byteString 63 2⟩, demoHonest.serverDraws⟩

theorem demoWorld_equipped (s : Session) :
    Equipped smallSuite demoHonest (demoWorld.deliver s).store :=
  ⟨demoWorld_holds.deviceRoot, demoWorld_holds.serverPub, demoWorld_holds.roleCredential,
    demoWorld_holds.loads⟩

/-- The packets of the device arrive when they were sent. -/
theorem demoAuth_network {sid : SessionId} {log : List (ClientEvent (ZMod 11))}
    {st : ServerState Bool (ZMod 11)} {ty : UInt8} {seq : UInt32} {payload : List UInt8}
    (hsent : .sent (frame ty sid seq payload) ∈ log)
    (hserves : ty = pktAuth1 → cachedFor st (Header.fresh ty sid seq) true = none →
      Serves smallSuite demoHonest st.registry.records st.replay) :
    AuthNetwork smallSuite demoHonest true sid log st
      (.packet (demoAuthPacket (frame ty sid seq payload))) := by
  refine ⟨fun _ _ _ _ => ⟨rfl, hsent⟩, ?_⟩
  rintro pk hdr p hop hp - hty hc
  cases hop
  rw [demoAuthPacket, parsePacket_frame] at hp
  cases hp
  exact ⟨rfl, rfl, hserves hty hc⟩

/-- The AUTH_1 arrives twice. -/
theorem demoAuth_joint :
    let sid := randSessionId (byteString 31 7)
    let s := demoHonest.session smallSuite sid 0 1
    ∃ (hist : List (Entry Bool 11 (ZMod 11))) (st : ServerState Bool (ZMod 11))
      (w' : World 11 (ZMod 11)), hist.length = 3 ∧ .received s.ack ∈ w'.log ∧
      (runAuthClient smallSuite 3 demoHonest.allowedRoles
        (demoHonest.clientDraws (byteString 31 7))).exec (demoWorld.deliver s)
          = (.ok s.sessionKey, w') ∧
      (server smallSuite demoAuthServer).Joint (Delivers true)
        (AuthNetwork smallSuite demoHonest true sid) w'.log hist st := by
  intro sid s
  have : Fact (Nat.Prime 11) := ⟨by decide⟩
  let F : Flow smallSuite demoAuthServer true sid _ :=
    authFlow demoHonest_nonDegenerate (by decide) rfl true cacheLabelled_start (fun _ => rfl)
  obtain ⟨w', hrun, hlog⟩ := demoWorld_holds.completes demoHonest_nonDegenerate (by decide)
    (by decide) 3 (byteString 31 7)
  have hlog' : w'.log = [.received s.ack, .sent s.auth3, .received s.auth2, .sent s.auth1] :=
    hlog
  obtain ⟨hist, st, hlen, j⟩ := F.joint_repeated
    (rfl : (demoAuthPacket s.auth1).bytes = s.auth1) rfl
    (rfl : (demoAuthPacket s.auth3).bytes = s.auth3) rfl
    (demoAuth_network List.mem_cons_self fun _ _ => demoRecords_serves)
    (fun st hstage _ => demoAuth_network (List.mem_cons_of_mem _ List.mem_cons_self)
      fun _ hnone => by
        rw [cachedFor_eq_some_iff.mpr (hstage.cached 0 Nat.zero_lt_one)] at hnone
        cases hnone)
    (fun _ _ _ => demoAuth_network List.mem_cons_self fun hty => absurd hty (by decide))
  exact ⟨hist, st, w', hlen, hlog' ▸ List.mem_cons_self, hrun, hlog' ▸ j⟩

/-- The server answers the copy, and computes the AUTH_2 once. -/
theorem lossy_auth_repeated :
    let sid := randSessionId (byteString 31 7)
    let s := demoHonest.session smallSuite sid 0 1
    ∃ hist : List (Entry Bool 11 (ZMod 11)),
      hist.length = 3 ∧ hist.filterMap (freshIn sid) = [s.ack, s.auth2] := by
  intro sid s
  have : Fact (Nat.Prime 11) := ⟨by decide⟩
  obtain ⟨hist, st, w', hlen, hack, hrun, j⟩ := demoAuth_joint
  obtain ⟨n, -, hfresh, -, -, hresult⟩ := lossy_auth smallSuite demoHonest
    demoHonest_nonDegenerate (by decide) rfl (.init rfl) true (byteString 31 7) (fun _ => rfl)
    (demoWorld.deliver s) (demoWorld_equipped s) rfl 3 hrun j
  obtain ⟨-, rfl, -⟩ | ⟨hno, -⟩ := hresult
  · exact ⟨hist, hlen, hfresh⟩
  · exact absurd hack hno

end ZkArche.Rust
