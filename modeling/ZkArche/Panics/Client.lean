import ZkArche.Panics.RoleProof
import ZkArche.Panics.Stores
import ZkArche.Proto.ClientSpecRust

/-!
# The Rust client with its panics

`send_expect` of `common.rs`, `run_setup_client` of `setup.rs` and `run_auth_client` of `auth.rs`,
over the decoders, the cryptography and the credential files that can panic.  The transport is that
of a world.  The files are an argument, since no file is read twice in a run.

The parts end as the parts without panics do.  The role proof does so up to 18 roles
(`authStart_eq`), and for more roles either it panics or the AUTH_1 does not fit a packet
(`authStart_cases`).
-/

namespace ZkArche.Rust

/-- The files of `FsCredentialStore`, and what becomes of writing them. -/
structure DeviceFiles where
  root : FileRead
  rootWrite : Except String Unit
  /-- The bytes of a new root. -/
  rootDraw : Bytes 32
  roleCred : FileRead
  roleWrite : Except String Unit
  serverPub : FileRead
  serverPubWrite : Except String Unit

namespace Checked

/-! ## Requests -/

/-- `handle_response_header`. -/
def handleResponseHeader (hdr : Header) (resp : List UInt8) (expected : UInt8) :
    Except Stop (List UInt8) :=
  if hdr.pktType = pktError then do
    let e ← fromWirePayload resp
    .error (.err e)
  else if hdr.pktType ≠ expected then
    .error (.wire .unknownPacketType
      ("expected 0x" ++ hexByte expected ++ ", got 0x" ++ hexByte hdr.pktType))
  else .ok resp

theorem handleResponseHeader_eq (hdr : Header) (resp : List UInt8) (expected : UInt8) :
    handleResponseHeader hdr resp expected =
      orStop (Rust.handleResponseHeader hdr resp expected) := by
  unfold handleResponseHeader Rust.handleResponseHeader
  rw [fromWirePayload_eq, Except.ok_bind']
  split
  next => rfl
  next =>
    split
    next => rfl
    next => rfl

/-- `1u32 << shift`. -/
def shiftLeft32 (shift : ℕ) : Except Stop ℕ :=
  if shift < 32 then .ok (2 ^ shift)
  else .error (.panic "attempt to shift left with overflow")

/-- `DEFAULT_MAX_BACKOFF_SHIFT`, which is the limit of every profile. -/
def defaultMaxBackoffShift : ℕ := 3

theorem backoff_eq (i : ℕ) :
    shiftLeft32 (min i defaultMaxBackoffShift) = .ok (2 ^ min i defaultMaxBackoffShift) :=
  if_pos (Nat.lt_of_le_of_lt (Nat.min_le_right ..) (by decide))

variable {q : ℕ} {G : Type}

/-- The loop of `send_expect` over a reliable transport. -/
def awaitResponse (sid : SessionId) (seq : UInt32) (expected : UInt8) :
    ℕ → Client q G (List UInt8)
  | 0 => throw .waiting
  | n + 1 => do
      let r ← recv
      let bytes ← attempt (orStop r)
      let (hdr, resp) ← attempt (parsePacket bytes)
      if stray hdr sid seq then awaitResponse sid seq expected n
      else attempt (handleResponseHeader hdr resp expected)

theorem awaitResponse_eq (sid : SessionId) (seq : UInt32) (expected : UInt8) (n : ℕ) :
    (awaitResponse sid seq expected n : Client q G (List UInt8)) =
      Rust.awaitResponse sid seq expected n := by
  induction n with
  | zero => rfl
  | succ n ih =>
      simp only [awaitResponse, Rust.awaitResponse, parsePacket_eq, handleResponseHeader_eq, ih]

/-- The loop of `send_expect` over an unreliable transport.  The attempts that are left are
counted down, and `i` counts those made. -/
def retryLoop (packet : List UInt8) (sid : SessionId) (seq : UInt32) (expected : UInt8) :
    ℕ → ℕ → Option ProtoError → Client q G (List UInt8)
  | 0, _, lastErr => attempt (.error (.err (lastErr.getD (.transport "retries exhausted"))))
  | n + 1, i, lastErr => do
      -- the factor of the timeout, which is given to `recv`
      let _ ← attempt (shiftLeft32 (min i defaultMaxBackoffShift))
      send packet
      let r ← recv
      match r with
      | .error e => retryLoop packet sid seq expected n (i + 1) (some e)
      | .ok bytes =>
          match parsePacket bytes with
          | .error (.err e) => retryLoop packet sid seq expected n (i + 1) (some e)
          | .error (.panic m) => attempt (.error (.panic m))
          | .ok (hdr, resp) =>
              if stray hdr sid seq then retryLoop packet sid seq expected n (i + 1) lastErr
              else attempt (handleResponseHeader hdr resp expected)

theorem retryLoop_eq (packet : List UInt8) (sid : SessionId) (seq : UInt32) (expected : UInt8)
    (n i : ℕ) (lastErr : Option ProtoError) :
    (retryLoop packet sid seq expected n i lastErr : Client q G (List UInt8)) =
      Rust.retryLoop packet sid seq expected n lastErr := by
  induction n generalizing i lastErr with
  | zero => rfl
  | succ n ih =>
      have hback : ∀ {β : Type} (x : Client q G β),
          (attempt (shiftLeft32 (min i defaultMaxBackoffShift)) >>= fun _ => x) = x := by
        intro β x
        rw [backoff_eq]
        rfl
      rw [retryLoop, Rust.retryLoop, hback]
      refine congrArg _ (funext fun _ => congrArg _ (funext fun r => ?_))
      cases r with
      | error e => exact ih (i + 1) (some e)
      | ok bytes =>
          simp only [parsePacket_eq]
          cases Rust.parsePacket bytes with
          | error e => exact ih (i + 1) (some e)
          | ok v =>
              simp only [orStop_ok, handleResponseHeader_eq, ih]

/-- `send_expect`. -/
def sendExpect (maxRetries : ℕ) (pktType : UInt8) (sid : SessionId) (seq : UInt32)
    (payload : List UInt8) (expected : UInt8) : Client q G (List UInt8) := do
  let packet ← attempt (buildPacket pktType sid seq payload)
  let w ← Routine.op fun w => (.ok w, w)
  if w.transport.isReliable then
    send packet
    awaitResponse sid seq expected (w.transport.inbox.length + 1)
  else retryLoop packet sid seq expected (maxRetries + 1) 0 none

theorem sendExpect_eq (maxRetries : ℕ) (ty : UInt8) (sid : SessionId) (seq : UInt32)
    (payload : List UInt8) (expected : UInt8) :
    (sendExpect maxRetries ty sid seq payload expected : Client q G (List UInt8)) =
      Rust.sendExpect maxRetries ty sid seq payload expected := by
  simp only [sendExpect, Rust.sendExpect, awaitResponse_eq, retryLoop_eq]

/-- `rand_session_id`. -/
def randSessionId (b : Bytes 32) : Except Stop SessionId := do
  let front ← orPanic (SliceOp.range b.val 0 16)
  orPanic (SliceOp.fillArray 16 front)

theorem randSessionId_eq (b : Bytes 32) : randSessionId b = .ok (Rust.randSessionId b) := by
  have hfront : SliceOp.range b.val 0 16 = .ok (b.cut 0 16 half_fits).val :=
    SliceOp.range_of_le (by decide) (by simp)
  simp only [randSessionId, hfront, SliceOp.fillArray_val, orPanic_ok, Except.ok_bind']
  rfl

/-! ## SETUP -/

section

variable [AddCommGroup G] [Module (ZMod q) G] (S : Suite q G) (K : Crates S)

/-- What `run_setup_client` loads before it talks. -/
structure SetupStart (q : ℕ) (G : Type) where
  deviceId : Bytes 32
  x : ZMod q
  roleCommitment : G
  pinned : Option G

variable [DecidableEq G]

/-- The role credential, which is created on first use. -/
def ensureRoleCredential (files : DeviceFiles) (roleBlind : Bytes 64) :
    Except Stop (RoleCredential q G) := do
  let stored ← loadRoleCredential S files.roleCred
  match stored with
  | some c => return c
  | none =>
      let blind : ZMod q := scalarOf roleBlind
      let commitment ← makeRoleCommitment S 1 blind
      writePrivateFile files.roleWrite
      return ⟨1, blind, commitment⟩

/-- `run_setup_client`, up to the pin policy. -/
def setupStart (files : DeviceFiles) (allowTofu : Bool) (roleBlind : Bytes 64) :
    Except Stop (SetupStart q G) := do
  let root ← loadOrCreateDeviceRoot files.root files.rootWrite files.rootDraw true
  let deviceId ← deriveDeviceId S K root
  let x ← deriveDeviceScalar S root
  orStop (rejectIdentity (x • S.base) "device_pub")
  let roleCred ← ensureRoleCredential S files roleBlind
  let pinned ← loadServerPub S files.serverPub
  ensure (pinned.isSome || allowTofu) (.wire .credentialMissing
    "no pinned server key; pin OOB or pass --allow-tofu-setup (lab-only)")
  return ⟨deviceId, x, roleCred.commitment, pinned⟩

/-- What `run_setup_client` does with a SETUP_2. -/
def acceptSetup2 (pinned : Option G) (deviceId : Bytes 32) (devicePub : G)
    (clientNonce : Bytes 32) (payload : List UInt8) : Except Stop (Setup2 q G) := do
  let s2 ← Setup2.decode S payload
  match pinned with
  | some p =>
      ensure (S.encPoint p = S.encPoint s2.serverPub)
        (.wire .peerKeyMismatch "server key does not match pinned value")
  | none => pure ()
  let ok ← verifySetupServer S ⟨deviceId, devicePub, s2.serverPub, clientNonce, s2.serverNonce,
    s2.setupChallenge⟩ s2.serverProof
  ensure (ok = true) (.wire .proofVerifyFailed "server setup proof failed verification")
  return s2

theorem acceptSetup2_eq (pinned : Option G) (deviceId : Bytes 32) (devicePub : G)
    (clientNonce : Bytes 32) (payload : List UInt8) :
    acceptSetup2 S pinned deviceId devicePub clientNonce payload =
      Rust.acceptSetup2 S pinned deviceId devicePub clientNonce payload := by
  cases pinned with
  | none => simp only [acceptSetup2, Rust.acceptSetup2, Setup2.decode_eq, verifySetupServer_eq,
      Except.ok_bind']
  | some p => simp only [acceptSetup2, Rust.acceptSetup2, Setup2.decode_eq, verifySetupServer_eq,
      Except.ok_bind']

/-- `run_setup_client`. -/
def runSetupClient (files : DeviceFiles) (maxRetries : ℕ) (pairingToken : Option (List UInt8))
    (allowTofu : Bool) (draws : SetupClientDraws) : Client q G Unit := do
  let st ← attempt (setupStart S K files allowTofu draws.roleBlind)
  let devicePub := st.x • S.base
  let sid ← attempt (randSessionId draws.sessionId)
  let s1 : Setup1 G := ⟨pairingToken, st.deviceId, devicePub, draws.nonce, st.roleCommitment⟩
  let payload ← attempt (s1.encode S)
  let s2Bytes ← sendExpect maxRetries pktSetup1 sid 0 payload pktSetup2
  let s2 ← attempt (acceptSetup2 S st.pinned st.deviceId devicePub draws.nonce s2Bytes)
  let clientProof ← attempt (proveSetupClient S draws.proof st.x
    ⟨st.deviceId, devicePub, s2.serverPub, draws.nonce, s2.serverNonce, s2.setupChallenge⟩)
  let ackBytes ← sendExpect maxRetries pktSetup3 sid 1 (Setup3.encode S ⟨clientProof⟩) pktSetupAck
  attempt (decodeAck ackBytes)
  attempt (writePrivateFile files.serverPubWrite)

/-! ## AUTH -/

omit [AddCommGroup G] [Module (ZMod q) G] [DecidableEq G] in
/-- `ok_or_else`. -/
def okOrElse {α : Type} (o : Option α) (e : Stop) : Except Stop α :=
  match o with
  | some a => .ok a
  | none => .error e

theorem okOrElse_eq_ok_iff {α : Type} {o : Option α} {e : Stop} {a : α} :
    okOrElse o e = .ok a ↔ o = some a := by
  cases o <;> simp [okOrElse]

theorem okOrElse_failsWith {α : Type} {P : Stop → Prop} (o : Option α) {e : Stop} (h : P e) :
    FailsWith P (okOrElse o e) := by
  cases o with
  | none => exact .error h
  | some a => exact .ok a

/-- What `run_auth_client` loads: the device scalar, the pinned key and the role. -/
def authCredentials (files : DeviceFiles) : Except Stop (ZMod q × G × RoleCredential q G) := do
  let root ← loadOrCreateDeviceRoot files.root files.rootWrite files.rootDraw false
  let _ ← deriveDeviceId S K root
  let x ← deriveDeviceScalar S root
  orStop (rejectIdentity (x • S.base) "device_pub")
  let pinned ← loadServerPub S files.serverPub
  let serverPub ← okOrElse pinned
    (.wire .credentialMissing "no pinned server key; run --setup first")
  let stored ← loadRoleCredential S files.roleCred
  let role ← okOrElse stored (.wire .credentialMissing "role credential missing")
  return (x, serverPub, role)

omit [DecidableEq G] in
/-- The AUTH_1 of `run_auth_client`. -/
def authStart (x : ZMod q) (serverPub : G) (role : RoleCredential q G)
    (allowedRoles : List UInt64) (draws : AuthClientDraws) : Except Stop (AuthStart q G) := do
  let ephSecret : ZMod q := scalarOf draws.eph
  let ephC := ephSecret • S.base
  let pid ← computePid S (x • S.base) draws.nonce ephC serverPub
  let clientProof ← proveAuthClient S draws.proof x pid draws.nonce ephC
  let (cPrime, blindPrime, delta) ← rerandomizeCommitment S draws.delta role.commitment role.blind
  let rerandProof ← proveRerandomization S draws.rerand role.commitment cPrime delta pid
    draws.nonce ephC
  let branches ← proveRoleSetMembership S draws.branches
    ⟨allowedRoles, cPrime, pid, draws.nonce, ephC⟩ role.roleCode blindPrime
  return ⟨serverPub, ephSecret, ⟨pid, clientProof, draws.nonce, ephC, cPrime, rerandProof, branches⟩⟩

/-- What `run_auth_client` does with an AUTH_2. -/
def acceptAuth2 (st : AuthStart q G) (payload : List UInt8) : Except Stop Confirmed := do
  let a2 : Auth2 q G ← Auth2.decode S payload
  ensure (S.encPoint a2.serverPub = S.encPoint st.serverPub)
    (.wire .peerKeyMismatch "server pubkey mismatch")
  let ok ← verifyAuthServer S a2.serverPub a2.nonceS a2.ephS a2.serverProof
  ensure (ok = true) (.wire .proofVerifyFailed "server auth proof invalid")
  let sessionKey ← deriveSessionKey S K st.ephSecret a2.ephS st.a1.nonceC a2.nonceS st.a1.pid
    st.a1.ephC a2.ephS
  let th ← kcTranscriptHash S ⟨st.a1.pid, st.a1.clientProof.a, st.a1.clientProof.s, st.a1.nonceC,
    st.a1.ephC, a2.serverPub, a2.serverProof.a, a2.serverProof.s, a2.nonceS, a2.ephS⟩
  let keys ← deriveKcKeys S K sessionKey th
  let expectedTagS ← hmacTag S K keys.1 (ascii "server finished") th
  ensure (expectedTagS = a2.tagS) (.wire .keyConfirmFailed "server finished tag mismatch")
  return ⟨sessionKey, th, keys.1, keys.2⟩

/-- `run_auth_client`. -/
def runAuthClient (files : DeviceFiles) (maxRetries : ℕ) (allowedRoles : List UInt64)
    (draws : AuthClientDraws) : Client q G (Bytes 32) := do
  let (x, serverPub, role) ← attempt (authCredentials S K files)
  let st ← attempt (authStart S x serverPub role allowedRoles draws)
  let sid ← attempt (randSessionId draws.sessionId)
  let a2Bytes ← sendExpect maxRetries pktAuth1 sid 0 (st.a1.encode S) pktAuth2
  let c ← attempt (acceptAuth2 S K st a2Bytes)
  let tagC ← attempt (hmacTag S K c.kC2s (ascii "client finished") c.th)
  let ackBytes ← sendExpect maxRetries pktAuth3 sid 1 (Auth3.encode ⟨tagC⟩) pktAuthAck
  attempt (decodeAck ackBytes)
  return c.sessionKey

theorem acceptAuth2_eq (st : AuthStart q G) (payload : List UInt8) :
    acceptAuth2 S K st payload = Rust.acceptAuth2 S st payload := by
  simp only [acceptAuth2, Rust.acceptAuth2, Auth2.decode_eq, verifyAuthServer_eq,
    deriveSessionKey_eq, kcTranscriptHash_eq, deriveKcKeys_eq, hmacTag_eq, Except.ok_bind']

omit [DecidableEq G] in
theorem authStart_eq (x : ZMod q) (serverPub : G) (role : RoleCredential q G)
    {allowedRoles : List UInt64} (hr : allowedRoles.length ≤ maxProvableRoles)
    (draws : AuthClientDraws) : authStart S x serverPub role allowedRoles draws =
      Rust.authStart S x serverPub role allowedRoles draws := by
  simp only [authStart, Rust.authStart, computePid_eq, proveAuthClient_eq,
    rerandomizeCommitment_eq, proveRerandomization_eq, Except.ok_bind']
  rw [proveRoleSetMembership_eq S hr]

omit [DecidableEq G] in
/-- There is no AUTH_1 for a role outside the list. -/
theorem authStart_of_not_mem (x : ZMod q) (serverPub : G) {role : RoleCredential q G}
    {allowedRoles : List UInt64} (h : role.roleCode ∉ allowedRoles) (draws : AuthClientDraws) :
    authStart S x serverPub role allowedRoles draws =
      .error (.panic "role not in allowed_roles") := by
  simp only [authStart, computePid_eq, proveAuthClient_eq, rerandomizeCommitment_eq,
    proveRerandomization_eq, Except.ok_bind']
  rw [proveRoleSetMembership_of_not_mem S (List.idxOf?_eq_none_iff.mpr h)]
  rfl

omit [DecidableEq G] in
/-- Building the AUTH_1 panics, or there is one branch per role. -/
theorem authStart_cases (x : ZMod q) (serverPub : G) (role : RoleCredential q G)
    (allowedRoles : List UInt64) (draws : AuthClientDraws) :
    (∃ m, authStart S x serverPub role allowedRoles draws = .error (.panic m)) ∨
    role.roleCode ∈ allowedRoles ∧ ∃ st, authStart S x serverPub role allowedRoles draws = .ok st ∧
      st.a1.branches.length = allowedRoles.length := by
  simp only [authStart, computePid_eq, proveAuthClient_eq, rerandomizeCommitment_eq,
    proveRerandomization_eq, Except.ok_bind']
  obtain ⟨m, hm⟩ | ⟨hmem, bs, hbs, hlen⟩ := proveRoleSetMembership_cases S draws.branches
    ⟨allowedRoles, _, _, draws.nonce, _⟩ role.roleCode _
  · rw [hm]
    exact .inl ⟨m, rfl⟩
  · rw [hbs]
    exact .inr ⟨hmem, _, rfl, hlen⟩

end

end Checked

end ZkArche.Rust
