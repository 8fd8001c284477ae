import ZkArche.Crypto.SchnorrKinds
import ZkArche.Proto.ClientEvidenceRust
import ZkArche.System.AuthDelivery

/-!
# Enrollment over a network that loses, repeats and reorders

A device with the Rust client enrolls with the Rust server over a network as in
`System/Network.lean`.  When the server handles the SETUP_1 it has its key and wants the token of
the device, and when it handles the SETUP_3 it can write the registry file.  No collection evicts
the pending record of the session or drops a cached response of it (`SetupNetwork`).

The client pins the key of the server exactly when it has the acknowledgement, and before that
stops only with an error of its transport.  However many copies arrive, the server registers the
device once, with the key and the commitment that the device holds (`lossy_setup`).
-/

namespace ZkArche.Rust

variable {Addr : Type} [DecidableEq Addr] {q : ℕ} {G : Type} [AddCommGroup G]
  [Module (ZMod q) G]

/-! ## The values -/

/-- The secrets of a device and a server, the pairing token, and the random bytes of both. -/
structure Pairing (q : ℕ) (G : Type) where
  root : Bytes 32
  role : RoleCredential q G
  token : Option (List UInt8)
  sk : ZMod q
  client : SetupClientDraws
  server : Setup2Draws

namespace Pairing

variable (S : Suite q G) (p : Pairing q G)

/-- The secret key of the device. -/
def x : ZMod q := deriveDeviceScalar S p.root

/-- The identifier of the device. -/
def deviceId : Bytes 32 := deriveDeviceId S p.root

/-- The public key of the device. -/
def devicePub : G := p.x S • S.base

/-- The public key of the server. -/
def serverPub : G := p.sk • S.base

/-- The record that the server keeps. -/
def record : DeviceRecord G := ⟨p.devicePub S, p.role.commitment⟩

/-- The session identifier. -/
def sid : SessionId := randSessionId p.client.sessionId

/-- The SETUP_1. -/
def setup1 : Setup1 G :=
  ⟨p.token, p.deviceId S, p.devicePub S, p.client.nonce, p.role.commitment⟩

/-- What both sides prove over. -/
def binding : SetupBinding G :=
  ⟨p.deviceId S, p.devicePub S, p.serverPub S, p.client.nonce, p.server.nonce,
    p.server.challenge.cut 0 16 half_fits⟩

/-- The SETUP_2. -/
def setup2 : Setup2 q G :=
  ⟨p.server.nonce, p.server.challenge.cut 0 16 half_fits, p.serverPub S,
    proveSetupServer S p.server.proof p.sk (p.binding S)⟩

/-- The SETUP_3. -/
def setup3 : Setup3 q G := ⟨proveSetupClient S p.client.proof (p.x S) (p.binding S)⟩

/-- The requests. -/
def request (k : ℕ) : List UInt8 :=
  if k = 0 then frame pktSetup1 p.sid 0 ((p.setup1 S).wire S).bytes
  else frame pktSetup3 p.sid 1 ((p.setup3 S).encode S)

/-- The answers. -/
def answer (k : ℕ) : List UInt8 :=
  if k = 0 then frame pktSetup2 p.sid 0 ((p.setup2 S).encode S)
  else frame pktSetupAck p.sid 1 [ackByte]

/-- No point that is sent is the identity, and the token is short. -/
structure NonDegenerate : Prop where
  devicePub : p.devicePub S ≠ 0
  commitment : p.role.commitment ≠ 0
  serverPub : p.serverPub S ≠ 0
  clientNonce : (p.setup3 S).clientProof.a ≠ 0
  serverNonce : (p.setup2 S).serverProof.a ≠ 0
  token : (p.token.getD []).length ≤ 128

end Pairing

/-! ## The server -/

variable {S : Suite q G} [DecidableEq G] {p : Pairing q G}

/-- An empty token arrives as none. -/
theorem Setup1.decode_wire {m : Setup1 G} (hp : m.devicePub ≠ 0) (hc : m.roleCommitment ≠ 0)
    (ht : (m.pairingToken.getD []).length ≤ 128) :
    ∃ token, Option.getD token [] = m.pairingToken.getD [] ∧
      Setup1.decode S (m.wire S).bytes = .ok { m with pairingToken := token } := by
  by_cases hempty : m.pairingToken = some []
  · refine ⟨none, by rw [hempty]; rfl, Setup1.decode_eq_ok_iff.mpr ⟨?_, hp, hc, by simp, by simp⟩⟩
    simp only [Setup1.wire, hempty]
    rfl
  · exact ⟨m.pairingToken, rfl, Setup1.decode_eq_ok_iff.mpr ⟨rfl, hp, hc, ht, hempty⟩⟩

/-- A SETUP_1 that is accepted. -/
theorem dispatchPacket_setup1 {st : ServerState Addr G} {pk : Packet Addr q G} {hdr : Header}
    {payload : List UInt8} {r : PendingSetup G}
    (hp : parsePacket pk.bytes = .ok (hdr, payload)) (hty : hdr.pktType = pktSetup1)
    (hc : cachedFor st hdr pk.peer = none)
    (ha : handleSetup1 S pk.serverSk hdr.sessionId hdr.seq payload st.requirePairingToken pk.setup
      = .ok r) :
    (dispatchPacket S st pk).2 = .fresh r.responsePacket ∧
      (dispatchPacket S st pk).1.setupSessions.lookup hdr.sessionId = some r := by
  have hrespond : respond S st hdr payload pk = dispatchSetup1 S st hdr payload pk := by
    simp only [respond, hty, if_true]
  simp only [dispatchPacket, hp, hc, hrespond, dispatchSetup1, ha, conclude, responseOf]
  exact ⟨trivial, AList.lookup_insert _⟩

/-- A SETUP_3 that proves possession, when the file can be written. -/
theorem dispatchPacket_enrolls {st : ServerState Addr G} {pk : Packet Addr q G} {hdr : Header}
    {payload : List UInt8} {r : PendingSetup G}
    (hp : parsePacket pk.bytes = .ok (hdr, payload)) (hty : hdr.pktType = pktSetup3)
    (hc : cachedFor st hdr pk.peer = none) (hl : st.setupSessions.lookup hdr.sessionId = some r)
    (hcheck : setup3Check S r st.serverPub payload = .ok ()) (hflush : pk.flush = .ok ()) :
    (dispatchPacket S st pk).2 = .fresh (frame pktSetupAck hdr.sessionId hdr.seq [ackByte]) ∧
      (dispatchPacket S st pk).1.registry = st.registry.insert r.deviceId r.record := by
  have hhandle : handleSetup3 S r st.serverPub hdr.sessionId hdr.seq payload pk.flush
      = (some (r.deviceId, r.record), .ok (frame pktSetupAck hdr.sessionId hdr.seq [ackByte])) := by
    obtain ⟨e, h⟩ | ⟨-, ⟨e, he, -⟩ | ⟨-, h⟩⟩ := handleSetup3_cases (S := S) r st.serverPub
      hdr.sessionId hdr.seq payload pk.flush
    · simp only [handleSetup3, hcheck] at h
      cases h
    · rw [hflush] at he
      cases he
    · exact h
  rw [dispatchPacket_setup3 hp hty hc]
  simp only [dispatchSetup3, hl, hhandle, conclude, responseOf]
  exact ⟨trivial, rfl⟩

/-! ## The flow -/

/-- The network, with collections that spare the session, and a server that has its key and wants
the token of the device when it handles the SETUP_1, and that can write its registry when it
handles the SETUP_3.  The random bytes it draws are those of `p`. -/
structure SetupNetwork (S : Suite q G) (p : Pairing q G) (peer : Addr)
    (log : List (ClientEvent G)) (st : ServerState Addr G) (op : ServerOp Addr q G) : Prop where
  conveys : Conveys peer p.sid log st op
  accepts : ∀ pk hdr payload, op = .packet pk → parsePacket pk.bytes = .ok (hdr, payload) →
    hdr.sessionId = p.sid → hdr.pktType = pktSetup1 → cachedFor st hdr peer = none →
    pk.serverSk = .ok p.sk ∧ pk.setup = p.server ∧
      tokenOk st.requirePairingToken (p.setup1 S) = true
  flushes : ∀ pk hdr payload, op = .packet pk → parsePacket pk.bytes = .ok (hdr, payload) →
    hdr.sessionId = p.sid → hdr.pktType = pktSetup3 → cachedFor st hdr peer = none →
    pk.flush = .ok ()

section

variable (hn : p.NonDegenerate S) {st₀ : ServerState Addr G} (peer : Addr)
  (hlabelled : CacheLabelled st₀) (hunused : ∀ seq, st₀.responseCache.lookup (p.sid, seq) = none)

include hn in
/-- The server accepts the SETUP_1. -/
theorem Pairing.NonDegenerate.accepts {required : Option (List UInt8)}
    (htoken : tokenOk required (p.setup1 S) = true) :
    handleSetup1 S (.ok p.sk) p.sid 0 ((p.setup1 S).wire S).bytes required p.server
      = .ok (setupPending S p.sk p.sid 0 (p.setup1 S) p.server) := by
  obtain ⟨token, hget, hdecode⟩ :=
    Setup1.decode_wire (S := S) (m := p.setup1 S) hn.devicePub hn.commitment hn.token
  refine handleSetup1_eq_ok_iff.mpr ⟨_, p.sk, hdecode, ?_, rfl, rfl⟩
  cases required with
  | none => rfl
  | some expected =>
      simp only [tokenOk, hget] at htoken ⊢
      exact htoken

variable [NeZero q]

include hn in
/-- The server accepts the SETUP_3. -/
theorem Pairing.NonDegenerate.checks :
    setup3Check S (setupPending S p.sk p.sid 0 (p.setup1 S) p.server) (p.serverPub S)
      ((p.setup3 S).encode S) = .ok () :=
  setup3Check_eq_ok_iff.mpr ⟨p.setup3 S, Setup3.decode_eq_ok_iff.mpr ⟨rfl, hn.clientNonce⟩,
    SchnorrStatement.verify_prove S p.client.proof (t := .setupClient (p.binding S)) rfl⟩

include hn in
/-- The client accepts the SETUP_2. -/
theorem Pairing.NonDegenerate.confirms {pinned : Option G}
    (hpinned : ∀ K, pinned = some K → K = p.serverPub S) :
    acceptSetup2 S pinned (p.deviceId S) (p.devicePub S) p.client.nonce ((p.setup2 S).encode S)
      = .ok (p.setup2 S) :=
  acceptSetup2_eq_ok_iff.mpr ⟨Setup2.decode_eq_ok_iff.mpr ⟨rfl, hn.serverPub, hn.serverNonce⟩,
    hpinned, SchnorrStatement.verify_prove S p.server.proof (t := .setupServer (p.binding S)) rfl⟩

omit [DecidableEq G] [NeZero q] in
include hn in
/-- The SETUP_1 fits a packet. -/
theorem Pairing.NonDegenerate.setup1_fits :
    ((p.setup1 S).wire S).bytes.length ≤ maxPayload := by
  have htoken := hn.token
  simp [Setup1.wire, C.Setup1.bytes, Pairing.setup1, maxPayload, maxDatagram, headerLen]
  omega

omit [DecidableEq G] [NeZero q] in
/-- Every SETUP_3 fits a packet. -/
theorem Setup3.encode_fits (s3 : Setup3 q G) : (s3.encode S).length ≤ maxPayload := by
  simp [Setup3.encode, maxPayload, maxDatagram, headerLen]

/-- The packets of an enrollment. -/
def setupFlow : Flow S st₀ peer p.sid fun log st op =>
    SetupNetwork S p peer log st op ∧ st.serverPub = p.serverPub S where
  request := p.request S
  answer := p.answer S
  Pending := fun st => st.setupSessions.lookup p.sid
    = some (setupPending S p.sk p.sid 0 (p.setup1 S) p.server)
  Effect := fun k st st' =>
    k = 1 → st'.registry = st.registry.insert (p.deviceId S) (p.record S)
  request_parses := by
    intro k hk
    obtain rfl | rfl := Nat.le_one_iff_eq_zero_or_eq_one.mp (Nat.le_of_lt_succ hk)
    · exact ⟨_, _, parsePacket_frame pktSetup1 p.sid 0 _, rfl⟩
    · exact ⟨_, _, parsePacket_frame pktSetup3 p.sid 1 _, rfl⟩
  answer_labelled := by
    intro k hk
    obtain rfl | rfl := Nat.le_one_iff_eq_zero_or_eq_one.mp (Nat.le_of_lt_succ hk)
    · exact ⟨pktSetup2, _, rfl⟩
    · exact ⟨pktSetupAck, _, rfl⟩
  conveys := fun _ _ _ hok => hok.1.conveys
  pending_same := fun _ _ hsame hp => hsame.setup.trans hp
  labelled := hlabelled
  unused := hunused
  first := by
    rintro log st pk ⟨hok, -⟩ hbytes hpeer hnone
    have hp : parsePacket pk.bytes
        = .ok (Header.fresh pktSetup1 p.sid 0, ((p.setup1 S).wire S).bytes) := by
      rw [hbytes]
      exact parsePacket_frame pktSetup1 p.sid 0 _
    have hc := hnone _ _ hp
    obtain ⟨hsk, hdraws, htoken⟩ := hok.accepts pk _ _ rfl hp rfl rfl hc
    have hacc := hn.accepts htoken
    rw [← hsk, ← hdraws] at hacc
    obtain ⟨hreply, hl⟩ := dispatchPacket_setup1 hp rfl (hpeer ▸ hc) hacc
    refine ⟨hreply.trans ?_, hl.trans ?_, fun hz => absurd hz (by decide)⟩
    · rw [hdraws]
      rfl
    · rw [hdraws]
  second := by
    rintro log st pk ⟨hok, hpub⟩ hbytes hpeer hnone hl
    have hp : parsePacket pk.bytes
        = .ok (Header.fresh pktSetup3 p.sid 1, (p.setup3 S).encode S) := by
      rw [hbytes]
      exact parsePacket_frame pktSetup3 p.sid 1 _
    have hc := hnone _ _ hp
    have hcheck := hn.checks
    rw [← hpub] at hcheck
    obtain ⟨hreply, hreg⟩ := dispatchPacket_enrolls hp rfl (hpeer ▸ hc) hl hcheck
      (hok.flushes pk _ _ rfl hp rfl rfl hc)
    exact ⟨hreply, fun _ => hreg⟩

/-- The client of an enrollment, after it has prepared its request. -/
def setupCaller {pinned : Option G} (hpinned : ∀ K, pinned = some K → K = p.serverPub S)
    (maxRetries : ℕ) : (setupFlow hn peer hlabelled hunused).Caller (Setup2 q G) Unit where
  maxRetries := maxRetries
  type := fun k => if k = 0 then pktSetup1 else pktSetup3
  expected := fun k => if k = 0 then pktSetup2 else pktSetupAck
  payload := ((p.setup1 S).wire S).bytes
  accept := acceptSetup2 S pinned (p.deviceId S) (p.devicePub S) p.client.nonce
  next := fun s2 => Setup3.encode S ⟨proveSetupClient S p.client.proof (p.x S)
    ⟨p.deviceId S, p.devicePub S, s2.serverPub, p.client.nonce, s2.serverNonce,
      s2.setupChallenge⟩⟩
  finish := fun s2 resp => do
    attempt (orStop (decodeAck resp))
    saveServerPub s2.serverPub
  resp := fun k => if k = 0 then (p.setup2 S).encode S else [ackByte]
  accepted := p.setup2 S
  request_zero := rfl
  request_one := rfl
  answer := by
    intro k hk
    obtain rfl | rfl := Nat.le_one_iff_eq_zero_or_eq_one.mp (Nat.le_of_lt_succ hk)
    · rfl
    · rfl
  expects := by
    intro k hk
    obtain rfl | rfl := Nat.le_one_iff_eq_zero_or_eq_one.mp (Nat.le_of_lt_succ hk)
    · decide
    · decide
  fits := ⟨hn.setup1_fits, Setup3.encode_fits _⟩
  accepts := hn.confirms hpinned
  silent := by
    intro s2 resp w
    have hends : Routine.Ends (attempt (orStop (decodeAck resp)) >>= fun _ =>
        saveServerPub s2.serverPub) w fun _ w' => ∃ more, w'.log = more ++ w.log ∧
          ∀ bytes, .sent bytes ∉ more := by
      refine (attempt_ends _ w).bind ?_ ?_
      · rintro - _ ⟨rfl, -⟩
        refine (saveServerPub_ends s2.serverPub w).mono ?_
        rintro r w' ⟨hlog, -⟩
        refine ⟨[.savedServerPub s2.serverPub], hlog, fun bytes hb => ?_⟩
        cases List.mem_singleton.mp hb
      · rintro e _ ⟨rfl, -⟩
        exact ⟨[], rfl, fun _ => List.not_mem_nil⟩
    exact hends

/-! ## The device -/

omit [DecidableEq G] in
/-- The store has or creates the device of `p`, a key that is pinned is that of the server, and
all its operations work. -/
structure Enrollable (S : Suite q G) (p : Pairing q G) (store : CredentialStore q G) : Prop where
  root : store.deviceRoot.getD store.newRoot = p.root
  role : store.roleCredential.getD ⟨1, scalarOf p.client.roleBlind,
    makeRoleCommitment S 1 (scalarOf p.client.roleBlind)⟩ = p.role
  pinned : ∀ K, store.serverPub = some K → K = p.serverPub S
  loads : store.loadRootFails = none ∧ store.loadServerPubFails = none ∧ store.loadRoleFails = none
  saves : store.saveRoleFails = none ∧ store.saveServerPubFails = none

/-- The store with the device of `p`. -/
def CredentialStore.prepared (store : CredentialStore q G) (p : Pairing q G) :
    CredentialStore q G :=
  { store with deviceRoot := some p.root, roleCredential := some p.role }

/-- The store with the device of `p` and the key of the server. -/
def CredentialStore.paired (S : Suite q G) (store : CredentialStore q G) (p : Pairing q G) :
    CredentialStore q G :=
  { store.prepared p with serverPub := some (p.serverPub S) }

variable {w : World q G}

omit [Module (ZMod q) G] [AddCommGroup G] [DecidableEq G] [NeZero q] in
theorem exec_loadRoot {root : Bytes 32} (hroot : w.store.deviceRoot.getD w.store.newRoot = root)
    (hl : w.store.loadRootFails = none) :
    (loadOrCreateDeviceRoot true).exec w
      = (.ok root, { w with store := { w.store with deviceRoot := some root } }) := by
  subst hroot
  obtain ⟨transport, ⟨stored, serverPub, role, newRoot, fails, _, _, _, _⟩, log⟩ := w
  obtain rfl : fails = none := hl
  cases stored with
  | none => rfl
  | some root => rfl

omit [DecidableEq G] [NeZero q] in
theorem exec_ensureRole {role : RoleCredential q G} {roleBlind : Bytes 64}
    (hrole : w.store.roleCredential.getD ⟨1, scalarOf roleBlind,
      makeRoleCommitment S 1 (scalarOf roleBlind)⟩ = role)
    (hl : w.store.loadRoleFails = none) (hs : w.store.saveRoleFails = none) :
    (ensureRoleCredential S roleBlind).exec w
      = (.ok role, { w with store := { w.store with roleCredential := some role } }) := by
  subst hrole
  obtain ⟨transport, ⟨root, serverPub, stored, newRoot, _, _, fails, saveFails, _⟩, log⟩ := w
  obtain rfl : fails = none := hl
  obtain rfl : saveFails = none := hs
  cases stored with
  | none => rfl
  | some role => rfl

/-- The client pins the key of the server. -/
theorem setupCaller_finish {pinned : Option G}
    (hpinned : ∀ K, pinned = some K → K = p.serverPub S) (maxRetries : ℕ)
    (hs : w.store.saveServerPubFails = none) :
    let C := setupCaller hn peer hlabelled hunused hpinned maxRetries
    (C.finish C.accepted (C.resp 1)).exec w = (.ok (), { w with
      store := { w.store with serverPub := some (p.serverPub S) }
      log := .savedServerPub (p.serverPub S) :: w.log }) := by
  refine (Routine.exec_bind_ok (exec_attempt_ok rfl w) _).trans ?_
  simp only [saveServerPub, Routine.exec_op, hs]
  rfl

/-- A client whose store is ready runs the flow. -/
theorem Enrollable.exec_eq (hw : Enrollable S p w.store) {allowTofu : Bool}
    (htofu : (w.store.serverPub.isSome || allowTofu) = true) (maxRetries : ℕ) :
    (runSetupClient S maxRetries p.token allowTofu p.client).exec w
      = (setupCaller hn peer hlabelled hunused hw.pinned maxRetries).run.exec
          { w with store := w.store.prepared p } := by
  obtain ⟨hl₁, hl₂, hl₃⟩ := hw.loads
  have hdevice : orStop (rejectIdentity (deriveDeviceScalar S p.root • S.base) "device_pub")
      = .ok () := congrArg orStop (ensure_pos hn.devicePub)
  have hpinned : ∀ w' : World q G, w'.store.loadServerPubFails = none →
      loadServerPub.exec w' = (.ok w'.store.serverPub, w') := by
    intro w' hl
    simp only [loadServerPub, Routine.exec_op, hl]
  have hencode : Setup1.encode S (p.setup1 S) = .ok ((p.setup1 S).wire S).bytes :=
    Setup1.encode_eq S hn.token
  refine (Routine.exec_bind_ok (exec_loadRoot hw.root hl₁) _).trans ?_
  refine (Routine.exec_bind_ok (exec_attempt_ok hdevice _) _).trans ?_
  refine (Routine.exec_bind_ok (exec_ensureRole
    (w := { w with store := { w.store with deviceRoot := some p.root } })
    hw.role hl₃ hw.saves.1) _).trans ?_
  refine (Routine.exec_bind_ok (hpinned { w with store := w.store.prepared p } hl₂) _).trans ?_
  refine (Routine.exec_bind_ok (exec_attempt_ok (ensure_pos htofu) _) _).trans ?_
  exact (Routine.exec_bind_ok (exec_attempt_ok hencode _) _).trans rfl

end

/-- The key of the server stays. -/
theorem run_serverPub {st₀ st : ServerState Addr G} {K : G} (h₀ : st₀.serverPub = K)
    {hist : List (Entry Addr q G)} (r : (server S st₀).Run Machine.anyInput hist st) :
    st.serverPub = K := by
  apply r.invariant (P := fun _ s => s.serverPub = K)
  · rintro s rfl
    exact h₀
  · intro _ s op _ _ hs
    exact (serverStep_serverPub op).trans hs

/-- A device enrolls over the network, and no collection takes what the server holds for the
session.  Let `s` be the packets of its secrets and the random bytes
of both sides.  The server computes the SETUP_2 of `s`, then the acknowledgement, or a front of
these, each once, and registers the device with the acknowledgement.  The client sends copies of
the SETUP_1 and then of the SETUP_3.  It pins the key of the server when it has the
acknowledgement, and the device is registered then.  Otherwise it has pinned nothing and has
stopped with an error of its transport, or has not returned. -/
theorem lossy_setup [NeZero q] (S : Suite q G) (p : Pairing q G) (hn : p.NonDegenerate S)
    {profile : Profile} {registry : Registry G} {replay : MemoryReplayCache}
    {required : Option (List UInt8)} {now : ℕ} {past : List (Entry Addr q G)}
    {st₀ : ServerState Addr G}
    (hpast : (server S (.start profile (p.serverPub S) registry replay required now)).Run
      Machine.anyInput past st₀)
    (peer : Addr) (hunused : ∀ seq, st₀.responseCache.lookup (p.sid, seq) = none)
    (w : World q G) (hw : Enrollable S p w.store) (hlog : w.log = []) {allowTofu : Bool}
    (htofu : (w.store.serverPub.isSome || allowTofu) = true) (maxRetries : ℕ)
    {r : Except Halt Unit} {w' : World q G}
    (hrun : (runSetupClient S maxRetries p.token allowTofu p.client).exec w = (r, w'))
    {hist : List (Entry Addr q G)} {st : ServerState Addr G}
    (j : (server S st₀).Joint (Delivers peer) (SetupNetwork S p peer) w'.log hist st) :
    ∃ n ≤ 2,
      hist.filterMap (freshIn p.sid) = ([p.answer S 0, p.answer S 1].take n).reverse ∧
      (n = 2 → ∃ e ∈ hist, freshIn p.sid e = some (p.answer S 1) ∧
        e.2.after.registry = e.2.before.registry.insert (p.deviceId S) (p.record S)) ∧
      (∃ k₁ ≤ maxRetries + 1, ∃ k₃ ≤ maxRetries + 1, w'.log.filterMap sentOf
        = List.replicate k₃ (p.request S 1) ++ List.replicate k₁ (p.request S 0)) ∧
      ((.received (p.answer S 1) ∈ w'.log ∧ n = 2 ∧ r = .ok () ∧
          w'.store = w.store.paired S p) ∨
        (.received (p.answer S 1) ∉ w'.log ∧ Unanswered w r ∧ w'.store = w.store.prepared p)) := by
  have hlabelled : CacheLabelled st₀ := (run_labelled cacheLabelled_start hpast).1
  have hpub₀ : st₀.serverPub = p.serverPub S := run_serverPub rfl hpast
  have hends := (setupCaller hn peer hlabelled hunused hw.pinned maxRetries).run_ends
    (w := { w with store := w.store.prepared p }) hlog
  rw [Routine.Ends, ← hw.exec_eq hn peer hlabelled hunused htofu maxRetries, hrun] at hends
  obtain ⟨n, h2, hfresh, heffect, w₁, hstore, ⟨k₁, hk₁, k₃, hk₃, hsent⟩, hresult⟩ :=
    hends hist st (j.along fun _ _ r => run_serverPub hpub₀ r)
  have hanswers : ((List.range n).map (p.answer S)).reverse
      = ([p.answer S 0, p.answer S 1].take n).reverse := by
    obtain rfl | rfl | rfl : n = 0 ∨ n = 1 ∨ n = 2 := by omega
    · rfl
    · rfl
    · rfl
  have hregistered : n = 2 → ∃ e ∈ hist, freshIn p.sid e = some (p.answer S 1) ∧
      e.2.after.registry = e.2.before.registry.insert (p.deviceId S) (p.record S) := by
    rintro rfl
    obtain ⟨e, he, hf, hreg⟩ := heffect 1 (by decide)
    exact ⟨e, he, hf, hreg rfl⟩
  obtain ⟨hno, hun, rfl⟩ | ⟨hin, htwo, hfinish⟩ := hresult
  · exact ⟨n, h2, hfresh.trans hanswers, hregistered, ⟨k₁, hk₁, k₃, hk₃, hsent⟩,
      .inr ⟨hno, hun, hstore⟩⟩
  · have hsave : w₁.store.saveServerPubFails = none := by
      rw [hstore]
      exact hw.saves.2
    cases hfinish.symm.trans
      (setupCaller_finish hn peer hlabelled hunused hw.pinned maxRetries hsave)
    refine ⟨n, h2, hfresh.trans hanswers, hregistered, ⟨k₁, hk₁, k₃, hk₃, hsent⟩,
      .inl ⟨List.mem_cons_of_mem _ hin, htwo, rfl, ?_⟩⟩
    show { w₁.store with serverPub := some (p.serverPub S) } = _
    rw [hstore]
    rfl

/-! ## A repeated SETUP_1 -/

/-- A new device with a pairing token. -/
def demoPairing : Pairing 11 (ZMod 11) where
  root := byteString 31 1
  role := ⟨1, scalarOf (byteString 63 4),
    makeRoleCommitment smallSuite 1 (scalarOf (byteString 63 4))⟩
  token := some [7, 7]
  sk := demoServerKey
  client := ⟨byteString 63 4, byteString 31 7, byteString 31 9, byteString 63 3⟩
  server := ⟨byteString 31 8, byteString 31 6, byteString 63 2⟩

theorem demoPairing_nonDegenerate : demoPairing.NonDegenerate smallSuite where
  devicePub := by decide +kernel
  commitment := by decide +kernel
  serverPub := by decide +kernel
  clientNonce := by decide +kernel
  serverNonce := by decide +kernel
  token := by decide

/-- A client that has nothing yet, over a transport that delivers the answers. -/
def demoNewWorld : World 11 (ZMod 11) where
  transport := ⟨false, fun _ => .ok (), 0,
    [.ok (demoPairing.answer smallSuite 0), .ok (demoPairing.answer smallSuite 1)]⟩
  store := ⟨none, none, none, byteString 31 1, none, none, none, none, none⟩
  log := []

theorem demoNewWorld_enrollable : Enrollable smallSuite demoPairing demoNewWorld.store where
  root := rfl
  role := rfl
  pinned := fun K hK => by cases hK
  loads := ⟨rfl, rfl, rfl⟩
  saves := ⟨rfl, rfl⟩

/-- A server that wants the token and has just started. -/
def demoSetupServer : ServerState Bool (ZMod 11) :=
  .start ⟨15 * 10 ^ 9, 1024, 2048⟩ (demoPairing.serverPub smallSuite) ∅ (MemoryReplayCache.new 4)
    (some [7, 7]) 0

/-- A packet of the device. -/
def demoSetupPacket (bytes : List UInt8) : Packet Bool 11 (ZMod 11) :=
  ⟨true, bytes, 0, .ok demoPairing.sk, .ok (), id, .refl, demoPairing.server,
    ⟨byteString 31 8, byteString 63 4, byteString 63 2⟩⟩

/-- The packets of the device arrive when they were sent. -/
theorem demoSetup_network {log : List (ClientEvent (ZMod 11))} {st : ServerState Bool (ZMod 11)}
    {ty : UInt8} {seq : UInt32} {payload : List UInt8}
    (hsent : .sent (frame ty demoPairing.sid seq payload) ∈ log)
    (htoken : ty = pktSetup1 → cachedFor st (Header.fresh ty demoPairing.sid seq) true = none →
      tokenOk st.requirePairingToken (demoPairing.setup1 smallSuite) = true) :
    SetupNetwork smallSuite demoPairing true log st
      (.packet (demoSetupPacket (frame ty demoPairing.sid seq payload))) := by
  refine ⟨fun _ _ _ _ => ⟨rfl, hsent⟩, ?_, ?_⟩
  · rintro pk hdr p hop hp - hty hc
    cases hop
    rw [demoSetupPacket, parsePacket_frame] at hp
    cases hp
    exact ⟨rfl, rfl, htoken hty hc⟩
  · rintro pk hdr p ⟨⟩ - - - -
    rfl

/-- The SETUP_1 arrives twice. -/
theorem lossy_setup_repeated :
    ∃ (hist : List (Entry Bool 11 (ZMod 11))) (w' : World 11 (ZMod 11)),
      hist.length = 3 ∧
      hist.filterMap (freshIn demoPairing.sid)
        = [demoPairing.answer smallSuite 1, demoPairing.answer smallSuite 0] ∧
      (runSetupClient smallSuite 3 demoPairing.token true demoPairing.client).exec demoNewWorld
        = (.ok (), w') ∧
      w'.store.serverPub = some (demoPairing.serverPub smallSuite) := by
  have hunused : ∀ seq, demoSetupServer.responseCache.lookup (demoPairing.sid, seq) = none :=
    fun _ => rfl
  let F : Flow smallSuite demoSetupServer true demoPairing.sid _ :=
    setupFlow demoPairing_nonDegenerate true cacheLabelled_start hunused
  have hrun := ((demoNewWorld_enrollable.exec_eq demoPairing_nonDegenerate true
    cacheLabelled_start hunused (rfl : (demoNewWorld.store.serverPub.isSome || true) = true) 3).trans
      (Flow.Caller.run_answered (fun _ => rfl) rfl)).trans
        (setupCaller_finish _ _ _ _ _ _ rfl)
  have hcopy : ∀ st, F.Stage 1 st → SetupNetwork smallSuite demoPairing true
      [.received (F.answer 0), .sent (F.request 0)] st
      (.packet (demoSetupPacket (demoPairing.request smallSuite 0))) := by
    intro st hstage
    refine demoSetup_network (List.mem_cons_of_mem _ List.mem_cons_self) fun _ hnone => ?_
    rw [cachedFor_eq_some_iff.mpr (hstage.cached 0 Nat.zero_lt_one)] at hnone
    cases hnone
  obtain ⟨hist, st, hlen, j⟩ := F.joint_repeated
    (rfl : (demoSetupPacket (demoPairing.request smallSuite 0)).bytes = _) rfl
    (rfl : (demoSetupPacket (demoPairing.request smallSuite 1)).bytes = _) rfl
    ⟨demoSetup_network List.mem_cons_self fun _ _ => rfl, rfl⟩
    (fun st hstage hpub => ⟨hcopy st hstage, hpub⟩)
    (fun st _ hpub => ⟨demoSetup_network List.mem_cons_self fun hty => absurd hty (by decide), hpub⟩)
  have jpinned := (j.mono fun _ _ _ hok => hok.1).client
    (.savedServerPub (demoPairing.serverPub smallSuite)) (fun _ he => by cases he)
  obtain ⟨n, -, hfresh, -, -, hresult⟩ := lossy_setup smallSuite demoPairing
    demoPairing_nonDegenerate (.init rfl) true hunused demoNewWorld demoNewWorld_enrollable rfl
    (rfl : (demoNewWorld.store.serverPub.isSome || true) = true) 3 hrun jpinned
  obtain ⟨-, rfl, -⟩ | ⟨hno, -⟩ := hresult
  · exact ⟨hist, _, hlen, hfresh, hrun, rfl⟩
  · exact absurd (List.mem_cons_of_mem _ List.mem_cons_self) hno

end ZkArche.Rust
