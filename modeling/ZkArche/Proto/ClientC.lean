import ZkArche.Crypto.KeySchedule
import ZkArche.Crypto.ProofsC

/-!
# The C client

The client functions of `proto.c`.  A client keeps one mutable context.  Each function
takes the context and its input, and returns the context it leaves together with its
result, since several of them write into the context before they can fail.

The four handlers start alike: decode the header, turn an ERROR packet into the error it
carries, and check the packet type (`expectPacket`).  What each does before its first
write is a separate function (`setup2Checks`, `auth2Checks`), so that the writes stand
out.

Random bytes are arguments.  `clientStep` collects all functions into one step, which is
what a caller can do with a context.
-/

namespace ZkArche.C

/-- `auth_client_ctx_t`.  The device root is left out: no client function reads it. -/
structure ClientCtx where
  deviceId : Bytes 32
  deviceSk : Bytes 32
  devicePub : Bytes 32
  serverPubPinned : Bytes 32
  hasPinnedServer : Bool
  roleCommitment : Bytes 32
  roleBlind : Bytes 32
  roleCode : UInt64
  hasRole : Bool
  sessionId : SessionId
  seq : UInt32
  clientNonce : Bytes 32
  ephSecret : Bytes 32
  ephC : Bytes 32
  pendingClientProof : SchnorrProof
  pendingServerPub : Bytes 32
  pendingServerNonce : Bytes 32
  pendingSetupChallenge : Bytes 16
  sessionKey : Bytes 32
  kcTh : Bytes 32
  kcKS2c : Bytes 32
  kcKC2s : Bytes 32
  authComplete : Bool

/-- The result of a client function: the context it leaves, and what it returns. -/
abbrev ClientResult (α : Type) := ClientCtx × Except AuthErr α

/-- The random bytes of `auth_client_build_setup1`. -/
structure Setup1Draws where
  nonce : Bytes 32
  blind : Bytes 64

/-- The random bytes of `auth_client_build_auth1`, in the order drawn. -/
structure Auth1Draws where
  nonce : Bytes 32
  eph : Bytes 64
  delta : Bytes 64
  proof : Bytes 64
  rerand : Bytes 64
  role : ℕ → Bytes 64

variable {q : ℕ} {G : Type} [AddCommGroup G] [Module (ZMod q) G] (S : Suite q G)

/-- `auth_client_ctx_init`. -/
def authClientCtxInit (ctx : ClientCtx) (sessionId : SessionId) : ClientCtx :=
  { ctx with
    sessionId := sessionId
    seq := 0
    hasPinnedServer := false
    hasRole := false
    authComplete := false }

/-- The tail of every builder: encode, count the packet, frame it. -/
def sendPacket (ctx : ClientCtx) (pktType : UInt8) (payload : Except AuthErr (List UInt8))
    (outCap : ℕ) : ClientResult (List UInt8) :=
  match payload with
  | .error e => (ctx, .error e)
  | .ok payload =>
      let ctx := { ctx with seq := ctx.seq + 1 }
      (ctx, authPacketBuild pktType ctx.sessionId ctx.seq payload outCap)

/-- The head of every handler. -/
def expectPacket (pktType : UInt8) (input : List UInt8) :
    Except AuthErr (Header × List UInt8) := do
  let (hdr, payload) ← authHeaderDecode input
  if hdr.pktType = pktError then .error (authPacketParseError payload)
  else if hdr.pktType ≠ pktType then .error .unknownPktType
  else return (hdr, payload)

/-! ## SETUP -/

/-- The role a context without one takes: "member", unless the caller chose a code. -/
def ClientCtx.chooseRole (ctx : ClientCtx) (blind : Bytes 32) : ClientCtx :=
  { ctx with
    roleCode := if ctx.roleCode = 0 then 1 else ctx.roleCode
    roleBlind := blind }

/-- The role of a context that has none yet: sample a blind and commit. -/
def sampleRole (ctx : ClientCtx) (blind : Bytes 64) : ClientResult Unit :=
  if ctx.hasRole then (ctx, .ok ())
  else
    let ctx := ctx.chooseRole (authScalarFromWide q blind)
    match authMakeRoleCommitment S ctx.roleCode ctx.roleBlind with
    | .error e => (ctx, .error e)
    | .ok c => ({ ctx with roleCommitment := c, hasRole := true }, .ok ())

/-- `auth_client_build_setup1`. -/
def authClientBuildSetup1 (ctx : ClientCtx) (pairingToken : List UInt8) (draws : Setup1Draws)
    (outCap : ℕ) : ClientResult (List UInt8) :=
  if pairingToken.length > maxPairingToken then (ctx, .error .invalidArgument)
  else
    match sampleRole S { ctx with clientNonce := draws.nonce } draws.blind with
    | (ctx, .error e) => (ctx, .error e)
    | (ctx, .ok ()) =>
        let s1 : Setup1 :=
          ⟨pairingToken, ctx.deviceId, ctx.devicePub, ctx.clientNonce, ctx.roleCommitment⟩
        sendPacket ctx pktSetup1 (authSetup1Encode s1 maxPayload) outCap

/-- `auth_client_handle_setup2`, up to the pinning check. -/
def setup2Checks (ctx : ClientCtx) (input : List UInt8) : Except AuthErr Setup2 := do
  let (hdr, payload) ← expectPacket pktSetup2 input
  ensure (hdr.sessionId = ctx.sessionId) .unknownSession
  let s2 ← authSetup2Decode payload
  authCheckPoint S s2.serverPub
  return s2

/-- `auth_client_handle_setup2`, after the pinning check. -/
def setup2Verify (ctx : ClientCtx) (s2 : Setup2) : ClientResult Unit :=
  if authVerifySetupServer S s2.serverProof s2.serverPub ctx.deviceId ctx.devicePub
      ctx.clientNonce s2.serverNonce s2.setupChallenge then
    ({ ctx with
      pendingServerPub := s2.serverPub
      pendingServerNonce := s2.serverNonce
      pendingSetupChallenge := s2.setupChallenge }, .ok ())
  else (ctx, .error .proofVerify)

/-- `auth_client_handle_setup2`.  Trust on first use pins the key before the proof is
verified. -/
def authClientHandleSetup2 (ctx : ClientCtx) (input : List UInt8) (allowTofu : Bool) :
    ClientResult Unit :=
  match setup2Checks S ctx input with
  | .error e => (ctx, .error e)
  | .ok s2 =>
      if ctx.hasPinnedServer then
        if ctx.serverPubPinned ≠ s2.serverPub then (ctx, .error .peerKeyMismatch)
        else setup2Verify S ctx s2
      else if ¬ allowTofu then (ctx, .error .peerKeyMismatch)
      else
        setup2Verify S { ctx with serverPubPinned := s2.serverPub, hasPinnedServer := true } s2

/-- `auth_client_build_setup3`. -/
def authClientBuildSetup3 (ctx : ClientCtx) (wide : Bytes 64) (outCap : ℕ) :
    ClientResult (List UInt8) :=
  let proof := authProveSetupClient S wide ctx.deviceSk ctx.deviceId ctx.devicePub
    ctx.pendingServerPub ctx.clientNonce ctx.pendingServerNonce ctx.pendingSetupChallenge
  match proof with
  | .error e => (ctx, .error e)
  | .ok proof => sendPacket ctx pktSetup3 (authSetup3Encode ⟨proof⟩ maxPayload) outCap

/-- `auth_client_handle_setup_ack`. -/
def authClientHandleSetupAck (ctx : ClientCtx) (input : List UInt8) : ClientResult Unit :=
  match expectPacket pktSetupAck input with
  | .error e => (ctx, .error e)
  | .ok (_, payload) => (ctx, authAckDecode payload)

/-! ## AUTH -/

/-- The proofs of `auth_client_build_auth1` that follow the client proof. -/
def auth1Message (ctx : ClientCtx) (allowedRoles : List UInt64) (draws : Auth1Draws)
    (pid cPrime blindPrime : Bytes 32) (proof : SchnorrProof) : Except AuthErr Auth1 := do
  let rerand ← authProveRerandomization S draws.rerand ctx.roleCommitment cPrime
    (authScalarFromWide q draws.delta) pid ctx.clientNonce ctx.ephC
  let branches ← authProveRoleSetMembership S draws.role allowedRoles cPrime ctx.roleCode
    blindPrime pid ctx.clientNonce ctx.ephC
  return ⟨pid, proof, ctx.clientNonce, ctx.ephC, cPrime, rerand, branches⟩

/-- `auth_client_build_auth1`.  A failed base multiplication leaves the identity in
`eph_c`. -/
def authClientBuildAuth1 (ctx : ClientCtx) (allowedRoles : List UInt64) (draws : Auth1Draws)
    (outCap : ℕ) : ClientResult (List UInt8) :=
  if ¬ ctx.hasPinnedServer then (ctx, .error .deviceNotEnrolled)
  else if ¬ ctx.hasRole then (ctx, .error .roleNotPermitted)
  else if allowedRoles.length = 0 ∨ allowedRoles.length > maxRoles then
    (ctx, .error .invalidArgument)
  else
    let ctx := { ctx with
      clientNonce := draws.nonce
      ephSecret := authScalarFromWide q draws.eph }
    match authScalarmultBase S ctx.ephSecret with
    | .error e => ({ ctx with ephC := Bytes.zero 32 }, .error e)
    | .ok ephC =>
        let ctx := { ctx with ephC := ephC }
        let pid := authComputePid S ctx.devicePub ctx.clientNonce ctx.ephC ctx.serverPubPinned
        let rerandomized := authRerandomizeCommitment S ctx.roleCommitment ctx.roleBlind
          (authScalarFromWide q draws.delta)
        match rerandomized with
        | .error e => (ctx, .error e)
        | .ok (cPrime, blindPrime) =>
            match authProveAuthClient S draws.proof ctx.deviceSk pid ctx.clientNonce ctx.ephC with
            | .error e => (ctx, .error e)
            | .ok proof =>
                let ctx := { ctx with pendingClientProof := proof }
                match auth1Message S ctx allowedRoles draws pid cPrime blindPrime proof with
                | .error e => (ctx, .error e)
                | .ok a1 => sendPacket ctx pktAuth1 (authAuth1Encode a1 maxPayload) outCap

/-- `auth_client_handle_auth2`, up to the first write. -/
def auth2Checks (ctx : ClientCtx) (input : List UInt8) : Except AuthErr Auth2 := do
  let (hdr, payload) ← expectPacket pktAuth2 input
  ensure (hdr.sessionId = ctx.sessionId) .unknownSession
  let a2 ← authAuth2Decode payload
  authCheckPoint S a2.serverPub
  authCheckPoint S a2.ephS
  ensure (a2.serverPub = ctx.serverPubPinned) .peerKeyMismatch
  ensure (authVerifyAuthServer S a2.serverProof a2.serverPub a2.nonceS a2.ephS) .proofVerify
  return a2

/-- `auth_client_handle_auth2`.  The session key, the transcript hash and the MAC keys are
written as they are derived, before the tag is compared. -/
def authClientHandleAuth2 (ctx : ClientCtx) (input : List UInt8) : ClientResult Unit :=
  match auth2Checks S ctx input with
  | .error e => (ctx, .error e)
  | .ok a2 =>
      let pid := authComputePid S ctx.devicePub ctx.clientNonce ctx.ephC ctx.serverPubPinned
      let key := authDeriveSessionKey S ctx.ephSecret a2.ephS ctx.clientNonce a2.nonceS pid
        ctx.ephC a2.ephS
      match key with
      | .error e => (ctx, .error e)
      | .ok sessionKey =>
          let ctx := { ctx with sessionKey := sessionKey }
          let hash := authKcTranscriptHash S pid ctx.pendingClientProof ctx.clientNonce ctx.ephC
            a2.serverPub a2.serverProof a2.nonceS a2.ephS
          match hash with
          | .error e => (ctx, .error e)
          | .ok th =>
              let keys := authDeriveKcKeys S ctx.sessionKey th
              let ctx := { ctx with kcTh := th, kcKS2c := keys.1, kcKC2s := keys.2 }
              let expectTag := authHmacTag S ctx.kcKS2c (ascii "server finished") ctx.kcTh
              if expectTag = a2.tagS then (ctx, .ok ()) else (ctx, .error .keyConfirm)

/-- `auth_client_build_auth3`. -/
def authClientBuildAuth3 (ctx : ClientCtx) (outCap : ℕ) : ClientResult (List UInt8) :=
  let tagC := authHmacTag S ctx.kcKC2s (ascii "client finished") ctx.kcTh
  sendPacket ctx pktAuth3 (authAuth3Encode ⟨tagC⟩ maxPayload) outCap

/-- `auth_client_handle_auth_ack`. -/
def authClientHandleAuthAck (ctx : ClientCtx) (input : List UInt8) : ClientResult Unit :=
  match expectPacket pktAuthAck input with
  | .error e => (ctx, .error e)
  | .ok (_, payload) =>
      match authAckDecode payload with
      | .error e => (ctx, .error e)
      | .ok () => ({ ctx with authComplete := true }, .ok ())

/-! ## One call -/

/-- A call of the client API, with its inputs and random bytes. -/
inductive ClientOp where
  | ctxInit (sessionId : SessionId)
  | buildSetup1 (pairingToken : List UInt8) (draws : Setup1Draws) (outCap : ℕ)
  | handleSetup2 (input : List UInt8) (allowTofu : Bool)
  | buildSetup3 (wide : Bytes 64) (outCap : ℕ)
  | handleSetupAck (input : List UInt8)
  | buildAuth1 (allowedRoles : List UInt64) (draws : Auth1Draws) (outCap : ℕ)
  | handleAuth2 (input : List UInt8)
  | buildAuth3 (outCap : ℕ)
  | handleAuthAck (input : List UInt8)

/-- A handler returns no packet. -/
def noPacket (r : ClientResult Unit) : ClientResult (List UInt8) :=
  (r.1, match r.2 with
    | .ok () => .ok []
    | .error e => .error e)

/-- What a call does to the context and what it returns. -/
def clientStep (ctx : ClientCtx) : ClientOp → ClientResult (List UInt8)
  | .ctxInit sid => (authClientCtxInit ctx sid, .ok [])
  | .buildSetup1 token draws cap => authClientBuildSetup1 S ctx token draws cap
  | .handleSetup2 input tofu => noPacket (authClientHandleSetup2 S ctx input tofu)
  | .buildSetup3 wide cap => authClientBuildSetup3 S ctx wide cap
  | .handleSetupAck input => noPacket (authClientHandleSetupAck ctx input)
  | .buildAuth1 roles draws cap => authClientBuildAuth1 S ctx roles draws cap
  | .handleAuth2 input => noPacket (authClientHandleAuth2 S ctx input)
  | .buildAuth3 cap => authClientBuildAuth3 S ctx cap
  | .handleAuthAck input => noPacket (authClientHandleAuthAck ctx input)

/-- The context after a sequence of calls. -/
def clientRun (ctx : ClientCtx) (ops : List ClientOp) : ClientCtx :=
  ops.foldl (fun c op => (clientStep S c op).1) ctx

end ZkArche.C
