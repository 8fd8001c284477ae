import ZkArche.Crypto.KeySchedule
import ZkArche.Crypto.ProofsC
import ZkArche.Store.Replay

/-!
# The handlers of the C server

The server functions of `proto.c` and `replay_guard.c`.  A handler takes a payload and what
the server knows, and returns a packet, for the first message of an exchange together with
the record to keep until the second.

`auth_server_handle_auth1` verifies a candidate device and then answers.  The answer is a
function of its own (`auth1Respond`), since nothing in it depends on the proofs.

The pending records leave out the cached response packet, which no function reads.
-/

namespace ZkArche.C

/-- `auth_pending_setup_t`. -/
structure PendingSetup where
  sessionId : SessionId
  deviceId : Bytes 32
  devicePub : Bytes 32
  roleCommitment : Bytes 32
  clientNonce : Bytes 32
  serverNonce : Bytes 32
  setupChallenge : Bytes 16
  serverPub : Bytes 32
deriving DecidableEq

/-- `auth_pending_auth_t`. -/
structure PendingAuth where
  sessionId : SessionId
  devicePub : Bytes 32
  pid : Bytes 32
  nonceC : Bytes 32
  nonceS : Bytes 32
  ephC : Bytes 32
  ephS : Bytes 32
  sessionKey : Bytes 32
  kcTh : Bytes 32
  kcKS2c : Bytes 32
  kcKC2s : Bytes 32
deriving DecidableEq

/-- The random bytes of `auth_server_handle_setup1`. -/
structure Setup2Draws where
  nonce : Bytes 32
  challenge : Bytes 16
  proof : Bytes 64

/-- The random bytes of `auth_server_handle_auth1`. -/
structure Auth2Draws where
  eph : Bytes 64
  nonce : Bytes 32
  proof : Bytes 64

/-- What a server is configured with: its key pair and its policy. -/
structure ServerConfig where
  serverSk : Bytes 32
  serverPub : Bytes 32
  requirePairingToken : Option (List UInt8)
  allowedRoles : List UInt64

variable {q : ℕ} {G : Type} [AddCommGroup G] [Module (ZMod q) G] (S : Suite q G)

/-- A point that may be the identity but must decode. -/
def checkPointOrIdentity (p : Bytes 32) : Except AuthErr Unit :=
  match authCheckPoint S p with
  | .error .identityPoint => .ok ()
  | r => r

/-! ## SETUP -/

/-- The pairing token of a SETUP_1 is the required one. -/
def tokenOk (cfg : ServerConfig) (token : List UInt8) : Bool :=
  match cfg.requirePairingToken with
  | none => true
  | some required => decide (token = required)

/-- `auth_server_handle_setup1`. -/
def authServerHandleSetup1 (cfg : ServerConfig) (sid : SessionId) (seq : UInt32)
    (payload : List UInt8) (draws : Setup2Draws) (outCap : ℕ) :
    Except AuthErr (PendingSetup × List UInt8) := do
  let s1 ← authSetup1Decode payload
  ensure (tokenOk cfg s1.pairingToken) .pairingTokenBad
  authCheckPoint S s1.devicePub
  checkPointOrIdentity S s1.roleCommitment
  let pending : PendingSetup :=
    ⟨sid, s1.deviceId, s1.devicePub, s1.roleCommitment, s1.clientNonce, draws.nonce,
      draws.challenge, cfg.serverPub⟩
  let proof ← authProveSetupServer S draws.proof cfg.serverSk s1.deviceId s1.devicePub
    cfg.serverPub s1.clientNonce pending.serverNonce pending.setupChallenge
  let payload ← authSetup2Encode
    ⟨pending.serverNonce, pending.setupChallenge, cfg.serverPub, proof⟩ maxPayload
  let pkt ← authPacketBuild pktSetup2 sid seq payload outCap
  return (pending, pkt)

/-- The tail of both final handlers: acknowledge. -/
def buildAck (pktType : UInt8) (sid : SessionId) (seq : UInt32) (outCap : ℕ) :
    Except AuthErr (List UInt8) := do
  let ack ← authAckEncode 1
  authPacketBuild pktType sid seq ack outCap

/-- The proof of a SETUP_3 verifies against the pending record. -/
def PendingSetup.proves (pending : PendingSetup) (proof : SchnorrProof) : Bool :=
  authVerifySetupClient S proof pending.deviceId pending.devicePub pending.serverPub
    pending.clientNonce pending.serverNonce pending.setupChallenge

/-- `auth_server_handle_setup3`. -/
def authServerHandleSetup3 (pending : PendingSetup) (sid : SessionId) (seq : UInt32)
    (payload : List UInt8) (outCap : ℕ) : Except AuthErr (List UInt8) := do
  ensure (sid = pending.sessionId) .unknownSession
  let s3 ← authSetup3Decode payload
  ensure (pending.proves S s3.clientProof) .proofVerify
  buildAck pktSetupAck sid seq outCap

/-! ## AUTH -/

/-- `auth_server_handle_auth1`, once the device is verified. -/
def auth1Respond (cfg : ServerConfig) (sid : SessionId) (seq : UInt32) (devicePub : Bytes 32)
    (a1 : Auth1) (draws : Auth2Draws) (outCap : ℕ) :
    Except AuthErr (PendingAuth × List UInt8) := do
  let ephSSecret := authScalarFromWide q draws.eph
  let ephS ← authScalarmultBase S ephSSecret
  let nonceS := draws.nonce
  let proof ← authProveAuthServer S draws.proof cfg.serverSk nonceS ephS
  let sessionKey ← authDeriveSessionKey S ephSSecret a1.ephC a1.nonceC nonceS a1.pid a1.ephC ephS
  let th ← authKcTranscriptHash S a1.pid a1.clientProof a1.nonceC a1.ephC cfg.serverPub proof
    nonceS ephS
  let keys := authDeriveKcKeys S sessionKey th
  let tagS := authHmacTag S keys.1 (ascii "server finished") th
  let payload ← authAuth2Encode ⟨cfg.serverPub, proof, nonceS, ephS, tagS⟩ maxPayload
  let pkt ← authPacketBuild pktAuth2 sid seq payload outCap
  return (⟨sid, devicePub, a1.pid, a1.nonceC, nonceS, a1.ephC, ephS, sessionKey, th, keys.1,
    keys.2⟩, pkt)

/-- `auth_server_handle_auth1`.  The lookup callback is the candidate it returns. -/
def authServerHandleAuth1 (cfg : ServerConfig) (sid : SessionId) (seq : UInt32)
    (payload : List UInt8) (lookup : Except AuthErr (Bytes 32 × Bytes 32))
    (draws : Auth2Draws) (outCap : ℕ) : Except AuthErr (PendingAuth × List UInt8) := do
  let a1 ← authAuth1Decode payload
  authCheckPoint S a1.ephC
  checkPointOrIdentity S a1.cPrime
  let (devicePub, storedC) ← lookup
  ensure (authVerifyAuthClient S a1.clientProof devicePub a1.pid a1.nonceC a1.ephC) .proofVerify
  ensure (authComputePid S devicePub a1.nonceC a1.ephC cfg.serverPub = a1.pid) .proofVerify
  ensure (authVerifyRerandomization S a1.rerandProof storedC a1.cPrime a1.pid a1.nonceC a1.ephC)
    .proofVerify
  ensure (authVerifyRoleSetMembership S a1.branches cfg.allowedRoles a1.cPrime a1.pid a1.nonceC
    a1.ephC) .roleNotPermitted
  auth1Respond S cfg sid seq devicePub a1 draws outCap

/-- The tag a pending authentication expects. -/
def PendingAuth.tagC (pending : PendingAuth) : Bytes 32 :=
  authHmacTag S pending.kcKC2s (ascii "client finished") pending.kcTh

/-- `auth_server_handle_auth3`. -/
def authServerHandleAuth3 (pending : PendingAuth) (sid : SessionId) (seq : UInt32)
    (payload : List UInt8) (outCap : ℕ) : Except AuthErr (List UInt8) := do
  ensure (sid = pending.sessionId) .unknownSession
  let a3 ← authAuth3Decode payload
  ensure (pending.tagC S = a3.tagC) .keyConfirm
  buildAck pktAuthAck sid seq outCap

/-! ## The replay guard -/

/-- `auth_server_handle_auth1_guarded`: the cache it leaves, and its result. -/
def authServerHandleAuth1Guarded (cap : ℕ) (cache : ReplayCache) (cfg : ServerConfig)
    (sid : SessionId) (seq : UInt32) (payload : List UInt8)
    (lookup : Except AuthErr (Bytes 32 × Bytes 32)) (draws : Auth2Draws) (outCap : ℕ) :
    ReplayCache × Except AuthErr (PendingAuth × List UInt8) :=
  match authAuth1Decode payload with
  | .error e => (cache, .error e)
  | .ok a1 =>
      let key := authReplayKey S a1.pid a1.nonceC a1.ephC
      if authReplayCacheContains cache key then (cache, .error .replayDetected)
      else
        match authServerHandleAuth1 S cfg sid seq payload lookup draws outCap with
        | .error e => (cache, .error e)
        | .ok r =>
            match authReplayCacheInsert cap cache key with
            | (cache, false) => (cache, .error .replayDetected)
            | (cache, true) => (cache, .ok r)

end ZkArche.C
