import ZkArche.Crypto.KeySchedule
import ZkArche.Store.Replay
import ZkArche.Wire.PayloadsRust

/-!
# The handlers of the Rust server

`handle_setup_1` and `handle_setup_3` of `setup.rs`, `handle_auth_1` and `handle_auth_3` of
`auth.rs`.  A handler stops with an error or, where `build_packet` would, with a panic.

What a handler takes from its surroundings is an argument: the server secret as the key
store yields it, the records in the order the registry iterates them, the outcome of
writing the registry file, and the random bytes.

`handle_auth_1` touches the replay cache in its last step only.  Everything before that is
`auth1Accept`, and what it derives once the device is verified is `auth1Pending`.
-/

namespace ZkArche.Rust

/-- `PendingSetup`. -/
structure PendingSetup (G : Type) where
  sessionId : SessionId
  deviceId : Bytes 32
  devicePub : G
  clientNonce : Bytes 32
  serverNonce : Bytes 32
  setupChallenge : Bytes 16
  roleCommitment : G
  responsePacket : List UInt8

/-- `PendingAuth`. -/
structure PendingAuth where
  sessionId : SessionId
  pid : Bytes 32
  deviceId : Bytes 32
  expectedTagC : Bytes 32
  responsePacket : List UInt8

/-- `DeviceRecord`. -/
structure DeviceRecord (G : Type) where
  pubkey : G
  roleCommitment : G

/-- The random bytes of `handle_setup_1`. -/
structure Setup2Draws where
  nonce : Bytes 32
  challenge : Bytes 32
  proof : Bytes 64

/-- The random bytes of `handle_auth_1`. -/
structure Auth2Draws where
  nonce : Bytes 32
  eph : Bytes 64
  proof : Bytes 64

/-- A byte as `{:02x}` prints it. -/
def hexByte (b : UInt8) : String :=
  let digit (n : ℕ) : Char := "0123456789abcdef".toList.getD n '0'
  String.ofList [digit (b.toNat / 16), digit (b.toNat % 16)]

/-- The `?` operator: an error stops the function. -/
def orStop {α : Type} : Except ProtoError α → Except Stop α
  | .ok a => .ok a
  | .error e => .error (.err e)

theorem orStop_eq_ok_iff {α : Type} {x : Except ProtoError α} {a : α} :
    orStop x = .ok a ↔ x = .ok a := by
  cases x <;> simp [orStop]

variable {q : ℕ} {G : Type} [AddCommGroup G] [Module (ZMod q) G] (S : Suite q G)
  [DecidableEq G]

/-! ## SETUP -/

omit [AddCommGroup G] [DecidableEq G] in
/-- The pairing token of a SETUP_1 is the required one. -/
def tokenOk (required : Option (List UInt8)) (s1 : Setup1 G) : Bool :=
  match required with
  | none => true
  | some expected => decide (s1.pairingToken.getD [] = expected)

/-- A challenge is the first half of a nonce. -/
theorem half_fits : 0 + 16 ≤ 32 := by decide

/-- `handle_setup_1`. -/
def handleSetup1 (serverSk : Except ProtoError (ZMod q)) (sid : SessionId) (seq : UInt32)
    (payload : List UInt8) (required : Option (List UInt8)) (draws : Setup2Draws) :
    Except Stop (PendingSetup G) := do
  let s1 ← orStop (Setup1.decode S payload)
  ensure (tokenOk required s1) (.wire .pairingTokenInvalid "pairing token mismatch")
  let sk ← orStop serverSk
  let serverPub := sk • S.base
  let challenge : Bytes 16 := draws.challenge.cut 0 16 half_fits
  let proof := proveSetupServer S draws.proof sk
    ⟨s1.deviceId, s1.devicePub, serverPub, s1.clientNonce, draws.nonce, challenge⟩
  let s2 : Setup2 q G := ⟨draws.nonce, challenge, serverPub, proof⟩
  let pkt ← buildPacket pktSetup2 sid seq (s2.encode S)
  return ⟨sid, s1.deviceId, s1.devicePub, s1.clientNonce, draws.nonce, challenge,
    s1.roleCommitment, pkt⟩

omit [AddCommGroup G] [DecidableEq G] in
/-- What a SETUP_3 must prove for a pending enrollment. -/
def PendingSetup.binding (p : PendingSetup G) (serverPub : G) : SetupBinding G :=
  ⟨p.deviceId, p.devicePub, serverPub, p.clientNonce, p.serverNonce, p.setupChallenge⟩

omit [AddCommGroup G] [DecidableEq G] in
/-- The record a pending enrollment registers. -/
def PendingSetup.record (p : PendingSetup G) : DeviceRecord G := ⟨p.devicePub, p.roleCommitment⟩

/-- `handle_setup_3`, up to the registration: the proof must verify. -/
def setup3Check (pending : PendingSetup G) (serverPub : G) (payload : List UInt8) :
    Except Stop Unit := do
  let s3 : Setup3 q G ← orStop (Setup3.decode S payload)
  ensure (verifySetupClient S (pending.binding serverPub) s3.clientProof)
    (.wire .proofVerifyFailed "client setup proof failed verification")

/-- `handle_setup_3`.  The first component is the record that is saved, if one is.  Saving
puts the record into memory before it writes the file. -/
def handleSetup3 (pending : PendingSetup G) (serverPub : G) (sid : SessionId) (seq : UInt32)
    (payload : List UInt8) (flush : Except ProtoError Unit) :
    Option (Bytes 32 × DeviceRecord G) × Except Stop (List UInt8) :=
  match setup3Check S pending serverPub payload with
  | .error e => (none, .error e)
  | .ok () =>
      (some (pending.deviceId, pending.record), do
        orStop flush
        buildPacket pktSetupAck sid seq encodeAck)

/-! ## AUTH -/

/-- The device of an AUTH_1: the first record with the pseudonym. -/
def findDevice (records : List (Bytes 32 × DeviceRecord G)) (serverPub : G) (a1 : Auth1 q G) :
    Option (Bytes 32 × DeviceRecord G) :=
  records.find? fun r => decide (computePid S r.2.pubkey a1.nonceC a1.ephC serverPub = a1.pid)

/-- What the server keeps and sends for a verified AUTH_1. -/
def auth1Pending (sk : ZMod q) (deviceId : Bytes 32) (sid : SessionId) (seq : UInt32)
    (a1 : Auth1 q G) (draws : Auth2Draws) : Except Stop PendingAuth := do
  let serverPub := sk • S.base
  let ephSSk : ZMod q := scalarOf draws.eph
  let ephS := ephSSk • S.base
  let serverProof := proveAuthServer S draws.proof sk draws.nonce ephS
  let sessionKey := deriveSessionKey S ephSSk a1.ephC a1.nonceC draws.nonce a1.pid a1.ephC ephS
  let th := kcTranscriptHash S ⟨a1.pid, a1.clientProof.a, a1.clientProof.s, a1.nonceC, a1.ephC,
    serverPub, serverProof.a, serverProof.s, draws.nonce, ephS⟩
  let keys := deriveKcKeys S sessionKey th
  let tagS := hmacTag S keys.1 (ascii "server finished") th
  let expectedTagC := hmacTag S keys.2 (ascii "client finished") th
  let a2 : Auth2 q G := ⟨serverPub, serverProof, draws.nonce, ephS, tagS⟩
  let pkt ← buildPacket pktAuth2 sid seq (a2.encode S)
  return ⟨sid, a1.pid, deviceId, expectedTagC, pkt⟩

/-- `handle_auth_1`, up to the insertion into the replay cache. -/
def auth1Accept (serverSk : Except ProtoError (ZMod q))
    (records : List (Bytes 32 × DeviceRecord G)) (replay : MemoryReplayCache)
    (allowedRoles : List UInt64) (sid : SessionId) (seq : UInt32) (payload : List UInt8)
    (draws : Auth2Draws) : Except Stop (ReplayKey × PendingAuth) := do
  let a1 ← orStop (Auth1.decode S payload)
  let rkey := replayKey S a1.pid a1.nonceC a1.ephC
  ensure (replay.contains rkey = false) (.wire .replayDetected "AUTH_1 replay")
  let sk ← orStop serverSk
  match findDevice S records (sk • S.base) a1 with
  | none => .error (.wire .unknownDevice "no enrolled device matches pid")
  | some (deviceId, rec) => do
      ensure (verifyAuthClient S rec.pubkey a1.pid a1.nonceC a1.ephC a1.clientProof)
        (.wire .proofVerifyFailed "client auth proof invalid")
      ensure (verifyRerandomization S rec.roleCommitment a1.cPrime a1.pid a1.nonceC a1.ephC
        a1.rerandProof) (.wire .proofVerifyFailed "rerand proof invalid")
      ensure (verifyRoleSetMembership S ⟨allowedRoles, a1.cPrime, a1.pid, a1.nonceC, a1.ephC⟩
        a1.branches) (.wire .roleNotPermitted "role set proof invalid")
      let pending ← auth1Pending S sk deviceId sid seq a1 draws
      return (rkey, pending)

/-- `handle_auth_1`: the replay cache it leaves, and its result. -/
def handleAuth1 (serverSk : Except ProtoError (ZMod q))
    (records : List (Bytes 32 × DeviceRecord G)) (replay : MemoryReplayCache)
    (allowedRoles : List UInt64) (sid : SessionId) (seq : UInt32) (payload : List UInt8)
    (draws : Auth2Draws) : MemoryReplayCache × Except Stop PendingAuth :=
  match auth1Accept S serverSk records replay allowedRoles sid seq payload draws with
  | .error e => (replay, .error e)
  | .ok (rkey, pending) => ((replay.insert rkey).1, .ok pending)

/-- `handle_auth_3`. -/
def handleAuth3 (pending : PendingAuth) (sid : SessionId) (seq : UInt32) (payload : List UInt8) :
    Except Stop (List UInt8) := do
  let a3 ← orStop (Auth3.decode payload)
  ensure (a3.tagC = pending.expectedTagC)
    (.wire .keyConfirmFailed "client finished tag mismatch")
  buildPacket pktAuthAck sid seq encodeAck

end ZkArche.Rust
