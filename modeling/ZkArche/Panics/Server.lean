import ZkArche.Panics.RoleProof
import ZkArche.Panics.Stores
import ZkArche.Server.DispatchRust

/-!
# The Rust server with its panics

The handlers of `setup.rs` and `auth.rs` and `dispatch_packet` of `server/src/main.rs`, over the
decoders, the cryptography and the key store that can panic.  The key is loaded from its file at
every SETUP_1 and AUTH_1, and the registry file is written at every accepted SETUP_3.

`dispatch_packet` ends as the dispatcher without panics does (`dispatchPacket_eq`).  So whatever is
known about that one holds here, and a panic can only come from a response that does not fit a
packet.
-/

namespace ZkArche.Rust

/-- A received packet, and what handling it depends on besides the state. -/
structure Arrival (Addr : Type) (G : Type) where
  peer : Addr
  bytes : List UInt8
  now : ℕ
  /-- The file of the server secret, the outcome of writing it, and the bytes of a new secret. -/
  skFile : FileRead
  skWrite : Except String Unit
  skDraw : Bytes 64
  /-- The outcome of writing the registry file. -/
  registryWrite : Except String Unit
  /-- The order in which the registry is iterated. -/
  iterate : List (Bytes 32 × DeviceRecord G) → List (Bytes 32 × DeviceRecord G)
  iterate_perm : ∀ records, (iterate records).Perm records
  setup : Setup2Draws
  auth : Auth2Draws

/-- The packet, with the results of the stores. -/
def Arrival.packet {Addr G : Type} (q : ℕ) (a : Arrival Addr G) : Packet Addr q G where
  peer := a.peer
  bytes := a.bytes
  now := a.now
  serverSk := Checked.resultOf (Checked.loadOrCreateServerSk q a.skFile a.skWrite a.skDraw)
  flush := Checked.resultOf (Checked.writePrivateFile a.registryWrite)
  iterate := a.iterate
  iterate_perm := a.iterate_perm
  setup := a.setup
  auth := a.auth

namespace Checked

variable {q : ℕ} {G : Type} [AddCommGroup G] [Module (ZMod q) G] (S : Suite q G) (K : Crates S)
  [DecidableEq G]

/-! ## SETUP -/

/-- `handle_setup_1`. -/
def handleSetup1 (serverSk : Except Stop (ZMod q)) (sid : SessionId) (seq : UInt32)
    (payload : List UInt8) (required : Option (List UInt8)) (draws : Setup2Draws) :
    Except Stop (PendingSetup G) := do
  let s1 ← Setup1.decode S payload
  ensure (tokenOk required s1) (.wire .pairingTokenInvalid "pairing token mismatch")
  let sk ← serverSk
  let serverPub := sk • S.base
  let front ← orPanic (SliceOp.range draws.challenge.val 0 16)
  let challenge ← orPanic (SliceOp.fillArray 16 front)
  let proof ← proveSetupServer S draws.proof sk
    ⟨s1.deviceId, s1.devicePub, serverPub, s1.clientNonce, draws.nonce, challenge⟩
  let s2 : Setup2 q G := ⟨draws.nonce, challenge, serverPub, proof⟩
  let pkt ← buildPacket pktSetup2 sid seq (s2.encode S)
  return ⟨sid, s1.deviceId, s1.devicePub, s1.clientNonce, draws.nonce, challenge,
    s1.roleCommitment, pkt⟩

/-- `handle_setup_3`, up to the registration. -/
def setup3Check (pending : PendingSetup G) (serverPub : G) (payload : List UInt8) :
    Except Stop Unit := do
  let s3 : Setup3 q G ← Setup3.decode S payload
  let ok ← verifySetupClient S (pending.binding serverPub) s3.clientProof
  ensure (ok = true) (.wire .proofVerifyFailed "client setup proof failed verification")

/-- `handle_setup_3`. -/
def handleSetup3 (pending : PendingSetup G) (serverPub : G) (sid : SessionId) (seq : UInt32)
    (payload : List UInt8) (registryWrite : Except String Unit) :
    Option (Bytes 32 × DeviceRecord G) × Except Stop (List UInt8) :=
  match setup3Check S pending serverPub payload with
  | .error e => (none, .error e)
  | .ok () =>
      (some (pending.deviceId, pending.record), do
        writePrivateFile registryWrite
        buildPacket pktSetupAck sid seq encodeAck)

/-! ## AUTH -/

/-- The loop over the records that looks for the pseudonym. -/
def findDevice (serverPub : G) (a1 : Auth1 q G) : List (Bytes 32 × DeviceRecord G) →
    Except Stop (Option (Bytes 32 × DeviceRecord G))
  | [] => .ok none
  | r :: records => do
      let pid ← computePid S r.2.pubkey a1.nonceC a1.ephC serverPub
      if pid = a1.pid then return some r else findDevice serverPub a1 records

/-- What the server keeps and sends for a verified AUTH_1. -/
def auth1Pending (sk : ZMod q) (deviceId : Bytes 32) (sid : SessionId) (seq : UInt32)
    (a1 : Auth1 q G) (draws : Auth2Draws) : Except Stop PendingAuth := do
  let serverPub := sk • S.base
  let ephSSk : ZMod q := scalarOf draws.eph
  let ephS := ephSSk • S.base
  let serverProof ← proveAuthServer S draws.proof sk draws.nonce ephS
  let sessionKey ← deriveSessionKey S K ephSSk a1.ephC a1.nonceC draws.nonce a1.pid a1.ephC ephS
  let th ← kcTranscriptHash S ⟨a1.pid, a1.clientProof.a, a1.clientProof.s, a1.nonceC, a1.ephC,
    serverPub, serverProof.a, serverProof.s, draws.nonce, ephS⟩
  let keys ← deriveKcKeys S K sessionKey th
  let tagS ← hmacTag S K keys.1 (ascii "server finished") th
  let expectedTagC ← hmacTag S K keys.2 (ascii "client finished") th
  let a2 : Auth2 q G := ⟨serverPub, serverProof, draws.nonce, ephS, tagS⟩
  let pkt ← buildPacket pktAuth2 sid seq (a2.encode S)
  return ⟨sid, a1.pid, deviceId, expectedTagC, pkt⟩

/-- `handle_auth_1`, up to the insertion into the replay cache. -/
def auth1Accept (serverSk : Except Stop (ZMod q)) (records : List (Bytes 32 × DeviceRecord G))
    (replay : MemoryReplayCache) (allowedRoles : List UInt64) (sid : SessionId) (seq : UInt32)
    (payload : List UInt8) (draws : Auth2Draws) : Except Stop (ReplayKey × PendingAuth) := do
  let a1 : Auth1 q G ← Auth1.decode S payload
  let rkey ← replayKey S a1.pid a1.nonceC a1.ephC
  ensure (replay.contains rkey = false) (.wire .replayDetected "AUTH_1 replay")
  let sk ← serverSk
  let found ← findDevice S (sk • S.base) a1 records
  match found with
  | none => .error (.wire .unknownDevice "no enrolled device matches pid")
  | some (deviceId, rec) => do
      let clientOk ← verifyAuthClient S rec.pubkey a1.pid a1.nonceC a1.ephC a1.clientProof
      ensure (clientOk = true) (.wire .proofVerifyFailed "client auth proof invalid")
      let rerandOk ← verifyRerandomization S rec.roleCommitment a1.cPrime a1.pid a1.nonceC a1.ephC
        a1.rerandProof
      ensure (rerandOk = true) (.wire .proofVerifyFailed "rerand proof invalid")
      let roleOk ← verifyRoleSetMembership S ⟨allowedRoles, a1.cPrime, a1.pid, a1.nonceC, a1.ephC⟩
        a1.branches
      ensure (roleOk = true) (.wire .roleNotPermitted "role set proof invalid")
      let pending ← auth1Pending S K sk deviceId sid seq a1 draws
      return (rkey, pending)

/-- `handle_auth_1`. -/
def handleAuth1 (serverSk : Except Stop (ZMod q)) (records : List (Bytes 32 × DeviceRecord G))
    (replay : MemoryReplayCache) (allowedRoles : List UInt64) (sid : SessionId) (seq : UInt32)
    (payload : List UInt8) (draws : Auth2Draws) : MemoryReplayCache × Except Stop PendingAuth :=
  match auth1Accept S K serverSk records replay allowedRoles sid seq payload draws with
  | .error e => (replay, .error e)
  | .ok (rkey, pending) => ((replay.insert rkey).1, .ok pending)

omit [AddCommGroup G] [Module (ZMod q) G] [DecidableEq G] in
/-- `handle_auth_3`. -/
def handleAuth3 (pending : PendingAuth) (sid : SessionId) (seq : UInt32) (payload : List UInt8) :
    Except Stop (List UInt8) := do
  let a3 ← Auth3.decode payload
  ensure (a3.tagC = pending.expectedTagC)
    (.wire .keyConfirmFailed "client finished tag mismatch")
  buildPacket pktAuthAck sid seq encodeAck

/-! ## Packets -/

section

variable {Addr : Type}

/-- The SETUP_1 branch of `dispatch_packet`. -/
def dispatchSetup1 (st : ServerState Addr G) (hdr : Header) (payload : List UInt8)
    (a : Arrival Addr G) : ServerState Addr G × Except Stop (List UInt8) :=
  match handleSetup1 S (loadOrCreateServerSk q a.skFile a.skWrite a.skDraw) hdr.sessionId hdr.seq
      payload st.requirePairingToken a.setup with
  | .error e => (st, .error e)
  | .ok p =>
      ({ st with setupSessions := st.setupSessions.insert hdr.sessionId p }, .ok p.responsePacket)

/-- The SETUP_3 branch of `dispatch_packet`. -/
def dispatchSetup3 (st : ServerState Addr G) (hdr : Header) (payload : List UInt8)
    (a : Arrival Addr G) : ServerState Addr G × Except Stop (List UInt8) :=
  match st.setupSessions.lookup hdr.sessionId with
  | none => (st, .error (.wire .unknownSession "no setup session for SETUP_3"))
  | some pending =>
      let r := handleSetup3 S pending st.serverPub hdr.sessionId hdr.seq payload a.registryWrite
      let st := { st with registry := saveRecord st.registry r.1 }
      match r.2 with
      | .ok pkt => ({ st with setupSessions := st.setupSessions.erase hdr.sessionId }, .ok pkt)
      | .error e => (st, .error e)

/-- The AUTH_1 branch of `dispatch_packet`. -/
def dispatchAuth1 (st : ServerState Addr G) (hdr : Header) (payload : List UInt8)
    (a : Arrival Addr G) : ServerState Addr G × Except Stop (List UInt8) :=
  let r := handleAuth1 S K (loadOrCreateServerSk q a.skFile a.skWrite a.skDraw)
    (a.iterate st.registry.records) st.replay defaultAllowedRoles hdr.sessionId hdr.seq payload
    a.auth
  let st := { st with replay := r.1 }
  match r.2 with
  | .error e => (st, .error e)
  | .ok p =>
      ({ st with authSessions := st.authSessions.insert hdr.sessionId p }, .ok p.responsePacket)

omit [AddCommGroup G] [Module (ZMod q) G] [DecidableEq G] in
/-- The AUTH_3 branch of `dispatch_packet`. -/
def dispatchAuth3 (st : ServerState Addr G) (hdr : Header) (payload : List UInt8) :
    ServerState Addr G × Except Stop (List UInt8) :=
  match st.authSessions.lookup hdr.sessionId with
  | none => (st, .error (.wire .unknownSession "no auth session for AUTH_3"))
  | some pending =>
      match handleAuth3 pending hdr.sessionId hdr.seq payload with
      | .ok pkt => ({ st with authSessions := st.authSessions.erase hdr.sessionId }, .ok pkt)
      | .error e => (st, .error e)

/-- The `match` of `dispatch_packet`. -/
def respond (st : ServerState Addr G) (hdr : Header) (payload : List UInt8)
    (a : Arrival Addr G) : ServerState Addr G × Except Stop (List UInt8) :=
  if hdr.pktType = pktSetup1 then dispatchSetup1 S st hdr payload a
  else if hdr.pktType = pktSetup3 then dispatchSetup3 S st hdr payload a
  else if hdr.pktType = pktAuth1 then dispatchAuth1 S K st hdr payload a
  else if hdr.pktType = pktAuth3 then dispatchAuth3 st hdr payload
  else (st, .error (.wire .unknownPacketType
    ("server does not handle packet type 0x" ++ hexByte hdr.pktType)))

/-- `dispatch_packet`. -/
def dispatchPacket [DecidableEq Addr] (st : ServerState Addr G) (a : Arrival Addr G) :
    ServerState Addr G × Reply :=
  match parsePacket a.bytes with
  | .error (.err _) => (st, .dropped)
  | .error (.panic m) => (st, .panicked (.panic m))
  | .ok (hdr, payload) =>
      match cachedFor st hdr a.peer with
      | some pkt => (st, .cached pkt)
      | none =>
          let r := respond S K st hdr payload a
          conclude r.1 hdr (a.packet q) r.2

end

/-! ## The dispatcher without panics -/

theorem handleSetup1_eq (serverSk : Except ProtoError (ZMod q)) (sid : SessionId) (seq : UInt32)
    (payload : List UInt8) (required : Option (List UInt8)) (draws : Setup2Draws) :
    handleSetup1 S (orStop serverSk) sid seq payload required draws =
      Rust.handleSetup1 S serverSk sid seq payload required draws := by
  have hfront : SliceOp.range draws.challenge.val 0 16 =
      .ok (draws.challenge.cut 0 16 half_fits).val := SliceOp.range_of_le (by decide) (by simp)
  simp only [handleSetup1, Rust.handleSetup1, Setup1.decode_eq, hfront, SliceOp.fillArray_val,
    orPanic_ok, Except.ok_bind', proveSetupServer_eq]

theorem setup3Check_eq (pending : PendingSetup G) (serverPub : G) (payload : List UInt8) :
    setup3Check S pending serverPub payload = Rust.setup3Check S pending serverPub payload := by
  simp only [setup3Check, Rust.setup3Check, Setup3.decode_eq, verifySetupClient_eq,
    Except.ok_bind']

theorem handleSetup3_eq (pending : PendingSetup G) (serverPub : G) (sid : SessionId)
    (seq : UInt32) (payload : List UInt8) (registryWrite : Except String Unit) :
    handleSetup3 S pending serverPub sid seq payload registryWrite =
      Rust.handleSetup3 S pending serverPub sid seq payload
        (resultOf (writePrivateFile registryWrite)) := by
  rewrite [handleSetup3, Rust.handleSetup3, setup3Check_eq,
    orStop_resultOf (writePrivateFile_noPanic registryWrite)]
  rfl

omit [DecidableEq G] in
theorem findDevice_eq (serverPub : G) (a1 : Auth1 q G)
    (records : List (Bytes 32 × DeviceRecord G)) :
    findDevice S serverPub a1 records = .ok (Rust.findDevice S records serverPub a1) := by
  unfold Rust.findDevice
  induction records with
  | nil => rfl
  | cons r records ih =>
      rw [findDevice, computePid_eq, Except.ok_bind', List.find?_cons]
      by_cases h : Rust.computePid S r.2.pubkey a1.nonceC a1.ephC serverPub = a1.pid
      · rw [if_pos h, decide_eq_true h]
        rfl
      · rw [if_neg h, decide_eq_false h, ih]

omit [DecidableEq G] in
theorem auth1Pending_eq (sk : ZMod q) (deviceId : Bytes 32) (sid : SessionId) (seq : UInt32)
    (a1 : Auth1 q G) (draws : Auth2Draws) :
    auth1Pending S K sk deviceId sid seq a1 draws =
      Rust.auth1Pending S sk deviceId sid seq a1 draws := by
  simp only [auth1Pending, Rust.auth1Pending, proveAuthServer_eq, deriveSessionKey_eq,
    kcTranscriptHash_eq, deriveKcKeys_eq, hmacTag_eq, Except.ok_bind']

theorem handleAuth1_eq (serverSk : Except ProtoError (ZMod q))
    (records : List (Bytes 32 × DeviceRecord G)) (replay : MemoryReplayCache)
    (sid : SessionId) (seq : UInt32) (payload : List UInt8) (draws : Auth2Draws) :
    handleAuth1 S K (orStop serverSk) records replay defaultAllowedRoles sid seq payload draws =
      Rust.handleAuth1 S serverSk records replay defaultAllowedRoles sid seq payload draws := by
  have hroles : ∀ (a1 : Auth1 q G), verifyRoleSetMembership S
      ⟨defaultAllowedRoles, a1.cPrime, a1.pid, a1.nonceC, a1.ephC⟩ a1.branches =
      .ok (Rust.verifyRoleSetMembership S
        ⟨defaultAllowedRoles, a1.cPrime, a1.pid, a1.nonceC, a1.ephC⟩ a1.branches) :=
    fun a1 => verifyRoleSetMembership_eq S (show defaultAllowedRoles.length ≤ _ by decide) _
  have haccept : auth1Accept S K (orStop serverSk) records replay defaultAllowedRoles sid seq
      payload draws = Rust.auth1Accept S serverSk records replay defaultAllowedRoles sid seq
        payload draws := by
    simp only [auth1Accept, Auth1.decode_eq, replayKey_eq, findDevice_eq,
      verifyAuthClient_eq, verifyRerandomization_eq, hroles, auth1Pending_eq, Except.ok_bind']
    rfl
  rw [handleAuth1, haccept]
  rfl

omit [AddCommGroup G] [Module (ZMod q) G] [DecidableEq G] in
theorem handleAuth3_eq (pending : PendingAuth) (sid : SessionId) (seq : UInt32)
    (payload : List UInt8) :
    handleAuth3 pending sid seq payload = Rust.handleAuth3 pending sid seq payload := by
  simp only [handleAuth3, Rust.handleAuth3, Auth3.decode_eq]

variable {Addr : Type}

/-- The branches of `dispatch_packet` do what those without panics do. -/
theorem respond_eq (st : ServerState Addr G) (hdr : Header) (payload : List UInt8)
    (a : Arrival Addr G) :
    respond S K st hdr payload a = Rust.respond S st hdr payload (a.packet q) := by
  have hsk : loadOrCreateServerSk q a.skFile a.skWrite a.skDraw = orStop (a.packet q).serverSk :=
    (orStop_resultOf (loadOrCreateServerSk_noPanic a.skFile a.skWrite a.skDraw)).symm
  simp only [respond, Rust.respond, dispatchSetup1, Rust.dispatchSetup1, dispatchSetup3,
    Rust.dispatchSetup3, dispatchAuth1, Rust.dispatchAuth1, dispatchAuth3, Rust.dispatchAuth3, hsk,
    handleSetup1_eq, handleSetup3_eq, handleAuth1_eq, handleAuth3_eq]
  rfl

/-- `dispatch_packet` ends as the dispatcher without panics does. -/
theorem dispatchPacket_eq [DecidableEq Addr] (st : ServerState Addr G) (a : Arrival Addr G) :
    dispatchPacket S K st a = Rust.dispatchPacket S st (a.packet q) := by
  have hbytes : (a.packet q).bytes = a.bytes := rfl
  have hpeer : (a.packet q).peer = a.peer := rfl
  unfold dispatchPacket Rust.dispatchPacket
  rw [parsePacket_eq, hbytes, hpeer]
  cases Rust.parsePacket a.bytes with
  | error e => rfl
  | ok r =>
      cases hc : cachedFor st r.1 a.peer with
      | some pkt => simp only [orStop_ok, hc]
      | none => simp only [orStop_ok, hc, respond_eq]

end Checked

end ZkArche.Rust
