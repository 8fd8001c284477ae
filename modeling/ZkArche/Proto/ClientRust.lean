import ZkArche.Lib.Routine
import ZkArche.Proto.ServerRust

/-!
# The Rust client

`send_expect` of `common.rs`, `run_setup_client` of `setup.rs` and `run_auth_client` of
`auth.rs`, over any transport and credential store.

A *world* holds what the client talks to.  Its transport is a script: what the `n`-th `send`
returns, and what the calls of `recv` return, one after the other.  A client that calls
`recv` more often than the script says has not returned yet (`Halt.waiting`).  The timeouts
that a call of `recv` is given are left out, since any result may come of any call.  Its
credential store holds what was saved and says which of its operations fail.  A save that
fails may have written all the same.

The log records what was sent, what was received, and which server key was saved.

The random bytes are an argument, in the order the client draws them.
-/

namespace ZkArche.Rust

/-! ## Transports and stores -/

/-- `RoleCredential`. -/
structure RoleCredential (q : ℕ) (G : Type) where
  roleCode : UInt64
  blind : ZMod q
  commitment : G

/-- A `ClientTransport`. -/
structure ClientTransport where
  isReliable : Bool
  /-- What the `n`-th call of `send` returns. -/
  sendResult : ℕ → Except ProtoError Unit
  /-- The calls of `send` made so far. -/
  sends : ℕ
  /-- What the coming calls of `recv` return. -/
  inbox : List (Except ProtoError (List UInt8))

/-- A `CredentialStore`: what it holds, and which operations fail. -/
structure CredentialStore (q : ℕ) (G : Type) where
  deviceRoot : Option (Bytes 32)
  serverPub : Option G
  roleCredential : Option (RoleCredential q G)
  /-- The root that is created when there is none. -/
  newRoot : Bytes 32
  loadRootFails : Option ProtoError
  loadServerPubFails : Option ProtoError
  loadRoleFails : Option ProtoError
  /-- The error of a save, and whether it has written nevertheless. -/
  saveRoleFails : Option (ProtoError × Bool)
  saveServerPubFails : Option (ProtoError × Bool)

/-- What the client did. -/
inductive ClientEvent (G : Type) where
  | sent (packet : List UInt8)
  | received (packet : List UInt8)
  | savedServerPub (pubkey : G)

/-- What the client talks to, and the log, newest event first. -/
structure World (q : ℕ) (G : Type) where
  transport : ClientTransport
  store : CredentialStore q G
  log : List (ClientEvent G)

/-- How a client that does not return its result ends. -/
inductive Halt where
  /-- With an error or a panic. -/
  | stopped (s : Stop)
  /-- In a call of `recv` beyond the script. -/
  | waiting

/-- The code of a client. -/
abbrev Client (q : ℕ) (G : Type) := Routine Halt (World q G)

variable {q : ℕ} {G : Type}

/-- The `?` operator, on a result that may be a panic. -/
def orHalt {α : Type} : Except Stop α → Except Halt α
  | .ok a => .ok a
  | .error s => .error (.stopped s)

/-- The `?` operator. -/
def attempt {α : Type} (r : Except Stop α) : Client q G α := Routine.lift (orHalt r)

/-- `ClientTransport::send`. -/
def send (packet : List UInt8) : Client q G Unit := Routine.op fun w =>
  (orHalt (orStop (w.transport.sendResult w.transport.sends)),
    { w with
      transport := { w.transport with sends := w.transport.sends + 1 }
      log := .sent packet :: w.log })

/-- `ClientTransport::recv`. -/
def recv : Client q G (Except ProtoError (List UInt8)) := Routine.op fun w =>
  match w.transport.inbox with
  | [] => (.error .waiting, w)
  | .error e :: rest =>
      (.ok (.error e), { w with transport := { w.transport with inbox := rest } })
  | .ok bytes :: rest =>
      (.ok (.ok bytes), { w with
        transport := { w.transport with inbox := rest }
        log := .received bytes :: w.log })

/-- `CredentialStore::load_or_create_device_root`. -/
def loadOrCreateDeviceRoot (createIfMissing : Bool) : Client q G (Bytes 32) := Routine.op fun w =>
  match w.store.loadRootFails, w.store.deviceRoot with
  | some e, _ => (.error (.stopped (.err e)), w)
  | none, some root => (.ok root, w)
  | none, none =>
      if createIfMissing then
        (.ok w.store.newRoot, { w with
          store := { w.store with deviceRoot := some w.store.newRoot } })
      else (.error (.stopped (.wire .credentialMissing "device root missing; run --setup first")), w)

/-- `CredentialStore::load_server_pub`. -/
def loadServerPub : Client q G (Option G) := Routine.op fun w =>
  match w.store.loadServerPubFails with
  | some e => (.error (.stopped (.err e)), w)
  | none => (.ok w.store.serverPub, w)

/-- `CredentialStore::load_role_credential`. -/
def loadRoleCredential : Client q G (Option (RoleCredential q G)) := Routine.op fun w =>
  match w.store.loadRoleFails with
  | some e => (.error (.stopped (.err e)), w)
  | none => (.ok w.store.roleCredential, w)

/-- `CredentialStore::save_role_credential`. -/
def saveRoleCredential (cred : RoleCredential q G) : Client q G Unit := Routine.op fun w =>
  match w.store.saveRoleFails with
  | some (e, written) =>
      (.error (.stopped (.err e)), { w with
        store := { w.store with
          roleCredential := if written then some cred else w.store.roleCredential } })
  | none => (.ok (), { w with store := { w.store with roleCredential := some cred } })

/-- `CredentialStore::save_server_pub`. -/
def saveServerPub (pubkey : G) : Client q G Unit := Routine.op fun w =>
  match w.store.saveServerPubFails with
  | some (e, written) =>
      (.error (.stopped (.err e)), { w with
        store := { w.store with
          serverPub := if written then some pubkey else w.store.serverPub }
        log := .savedServerPub pubkey :: w.log })
  | none =>
      (.ok (), { w with
        store := { w.store with serverPub := some pubkey }
        log := .savedServerPub pubkey :: w.log })

/-! ## Requests -/

/-- `handle_response_header`. -/
def handleResponseHeader (hdr : Header) (resp : List UInt8) (expected : UInt8) :
    Except ProtoError (List UInt8) :=
  if hdr.pktType = pktError then .error (ProtoError.fromWirePayload resp)
  else if hdr.pktType ≠ expected then
    .error (.wire .unknownPacketType
      ("expected 0x" ++ hexByte expected ++ ", got 0x" ++ hexByte hdr.pktType))
  else .ok resp

/-- A response that belongs to another request. -/
def stray (hdr : Header) (sid : SessionId) (seq : UInt32) : Prop :=
  hdr.sessionId ≠ sid ∨ hdr.seq ≠ seq

instance (hdr : Header) (sid : SessionId) (seq : UInt32) : Decidable (stray hdr sid seq) :=
  inferInstanceAs (Decidable (_ ∨ _))

/-- The loop of `send_expect` over a reliable transport, with the number of calls of `recv`
it may still make. -/
def awaitResponse (sid : SessionId) (seq : UInt32) (expected : UInt8) :
    ℕ → Client q G (List UInt8)
  | 0 => throw .waiting
  | n + 1 => do
      let r ← recv
      let bytes ← attempt (orStop r)
      let (hdr, resp) ← attempt (orStop (parsePacket bytes))
      if stray hdr sid seq then awaitResponse sid seq expected n
      else attempt (orStop (handleResponseHeader hdr resp expected))

/-- The loop of `send_expect` over an unreliable transport, with the attempts that are left
and the last error. -/
def retryLoop (packet : List UInt8) (sid : SessionId) (seq : UInt32) (expected : UInt8) :
    ℕ → Option ProtoError → Client q G (List UInt8)
  | 0, lastErr => attempt (.error (.err (lastErr.getD (.transport "retries exhausted"))))
  | n + 1, lastErr => do
      send packet
      let r ← recv
      match r with
      | .error e => retryLoop packet sid seq expected n (some e)
      | .ok bytes =>
          match parsePacket bytes with
          | .error e => retryLoop packet sid seq expected n (some e)
          | .ok (hdr, resp) =>
              if stray hdr sid seq then retryLoop packet sid seq expected n lastErr
              else attempt (orStop (handleResponseHeader hdr resp expected))

/-- `send_expect`.  Over a reliable transport the loop can make one call of `recv` more than
the script answers. -/
def sendExpect (maxRetries : ℕ) (pktType : UInt8) (sid : SessionId) (seq : UInt32)
    (payload : List UInt8) (expected : UInt8) : Client q G (List UInt8) := do
  let packet ← attempt (buildPacket pktType sid seq payload)
  let w ← Routine.op fun w => (.ok w, w)
  if w.transport.isReliable then
    send packet
    awaitResponse sid seq expected (w.transport.inbox.length + 1)
  else retryLoop packet sid seq expected (maxRetries + 1) none

/-! ## Credentials -/

section

variable [AddCommGroup G] [Module (ZMod q) G] (S : Suite q G)

/-- `derive_device_id`. -/
def deriveDeviceId (root : Bytes 32) : Bytes 32 := S.blake2b256 (ascii "device-id" ++ root.val)

/-- `derive_device_scalar`. -/
def deriveDeviceScalar (root : Bytes 32) : ZMod q :=
  scalarOf (S.blake2b512 (ascii "device-auth-v1" ++ root.val))

/-- `rand_session_id`: the first half of 32 random bytes. -/
def randSessionId (b : Bytes 32) : SessionId := b.cut 0 16 half_fits

/-! ## SETUP -/

/-- The random bytes of `run_setup_client`. -/
structure SetupClientDraws where
  roleBlind : Bytes 64
  sessionId : Bytes 32
  nonce : Bytes 32
  proof : Bytes 64

/-- The role credential, which is created on first use. -/
def ensureRoleCredential (roleBlind : Bytes 64) : Client q G (RoleCredential q G) := do
  let stored ← loadRoleCredential
  match stored with
  | some c => return c
  | none =>
      let blind : ZMod q := scalarOf roleBlind
      let c : RoleCredential q G := ⟨1, blind, makeRoleCommitment S 1 blind⟩
      saveRoleCredential c
      return c

variable [DecidableEq G]

/-- What `run_setup_client` does with a SETUP_2: the key must be the pinned one, if there is
one, and the proof must verify. -/
def acceptSetup2 (pinned : Option G) (deviceId : Bytes 32) (devicePub : G)
    (clientNonce : Bytes 32) (payload : List UInt8) : Except Stop (Setup2 q G) := do
  let s2 ← orStop (Setup2.decode S payload)
  match pinned with
  | some p =>
      ensure (S.encPoint p = S.encPoint s2.serverPub)
        (.wire .peerKeyMismatch "server key does not match pinned value")
  | none => pure ()
  ensure (verifySetupServer S ⟨deviceId, devicePub, s2.serverPub, clientNonce, s2.serverNonce,
    s2.setupChallenge⟩ s2.serverProof)
    (.wire .proofVerifyFailed "server setup proof failed verification")
  return s2

/-- `run_setup_client`. -/
def runSetupClient (maxRetries : ℕ) (pairingToken : Option (List UInt8)) (allowTofu : Bool)
    (draws : SetupClientDraws) : Client q G Unit := do
  let root ← loadOrCreateDeviceRoot true
  let deviceId := deriveDeviceId S root
  let x := deriveDeviceScalar S root
  let devicePub := x • S.base
  attempt (orStop (rejectIdentity devicePub "device_pub"))
  let roleCred ← ensureRoleCredential S draws.roleBlind
  let pinned ← loadServerPub
  attempt (ensure (pinned.isSome || allowTofu) (.wire .credentialMissing
    "no pinned server key; pin OOB or pass --allow-tofu-setup (lab-only)"))
  let sid := randSessionId draws.sessionId
  let s1 : Setup1 G := ⟨pairingToken, deviceId, devicePub, draws.nonce, roleCred.commitment⟩
  let payload ← attempt (s1.encode S)
  let s2Bytes ← sendExpect maxRetries pktSetup1 sid 0 payload pktSetup2
  let s2 ← attempt (acceptSetup2 S pinned deviceId devicePub draws.nonce s2Bytes)
  let clientProof := proveSetupClient S draws.proof x
    ⟨deviceId, devicePub, s2.serverPub, draws.nonce, s2.serverNonce, s2.setupChallenge⟩
  let ackBytes ← sendExpect maxRetries pktSetup3 sid 1 (Setup3.encode S ⟨clientProof⟩) pktSetupAck
  attempt (orStop (decodeAck ackBytes))
  saveServerPub s2.serverPub

/-! ## AUTH -/

/-- The random bytes of `run_auth_client`. -/
structure AuthClientDraws where
  nonce : Bytes 32
  eph : Bytes 64
  proof : Bytes 64
  delta : Bytes 64
  rerand : Bytes 64
  branches : ℕ → Bytes 64
  sessionId : Bytes 32

/-- What the client keeps while it waits for an AUTH_2: the pinned key, its ephemeral secret,
and the AUTH_1 it sent. -/
structure AuthStart (q : ℕ) (G : Type) where
  serverPub : G
  ephSecret : ZMod q
  a1 : Auth1 q G

omit [DecidableEq G] in
/-- The AUTH_1 of `run_auth_client`. -/
def authStart (x : ZMod q) (serverPub : G) (role : RoleCredential q G)
    (allowedRoles : List UInt64) (draws : AuthClientDraws) : Except Stop (AuthStart q G) := do
  let ephSecret : ZMod q := scalarOf draws.eph
  let ephC := ephSecret • S.base
  let pid := computePid S (x • S.base) draws.nonce ephC serverPub
  let clientProof := proveAuthClient S draws.proof x pid draws.nonce ephC
  let (cPrime, blindPrime, delta) := rerandomizeCommitment S draws.delta role.commitment role.blind
  let rerandProof := proveRerandomization S draws.rerand role.commitment cPrime delta pid
    draws.nonce ephC
  let branches ← proveRoleSetMembership S draws.branches
    ⟨allowedRoles, cPrime, pid, draws.nonce, ephC⟩ role.roleCode blindPrime
  return ⟨serverPub, ephSecret, ⟨pid, clientProof, draws.nonce, ephC, cPrime, rerandProof, branches⟩⟩

/-- What the client derives when it accepts an AUTH_2. -/
structure Confirmed where
  sessionKey : Bytes 32
  th : Bytes 32
  kS2c : Bytes 32
  kC2s : Bytes 32

/-- What `run_auth_client` does with an AUTH_2. -/
def acceptAuth2 (st : AuthStart q G) (payload : List UInt8) : Except Stop Confirmed := do
  let a2 ← orStop (Auth2.decode S payload)
  ensure (S.encPoint a2.serverPub = S.encPoint st.serverPub)
    (.wire .peerKeyMismatch "server pubkey mismatch")
  ensure (verifyAuthServer S a2.serverPub a2.nonceS a2.ephS a2.serverProof)
    (.wire .proofVerifyFailed "server auth proof invalid")
  let sessionKey := deriveSessionKey S st.ephSecret a2.ephS st.a1.nonceC a2.nonceS st.a1.pid
    st.a1.ephC a2.ephS
  let th := kcTranscriptHash S ⟨st.a1.pid, st.a1.clientProof.a, st.a1.clientProof.s, st.a1.nonceC,
    st.a1.ephC, a2.serverPub, a2.serverProof.a, a2.serverProof.s, a2.nonceS, a2.ephS⟩
  let keys := deriveKcKeys S sessionKey th
  let expectedTagS := hmacTag S keys.1 (ascii "server finished") th
  ensure (expectedTagS = a2.tagS) (.wire .keyConfirmFailed "server finished tag mismatch")
  return ⟨sessionKey, th, keys.1, keys.2⟩

omit [DecidableEq G] in
/-- The tag the client answers with. -/
def Confirmed.tagC (c : Confirmed) : Bytes 32 :=
  hmacTag S c.kC2s (ascii "client finished") c.th

/-- What `run_auth_client` loads: the device scalar, the pinned key and the role. -/
def loadAuthCredentials : Client q G (ZMod q × G × RoleCredential q G) := do
  let root ← loadOrCreateDeviceRoot false
  let x : ZMod q := deriveDeviceScalar S root
  attempt (orStop (rejectIdentity (x • S.base) "device_pub"))
  let pinned ← loadServerPub
  let serverPub ← attempt (match pinned with
    | some p => .ok p
    | none => .error (.wire .credentialMissing "no pinned server key; run --setup first"))
  let stored ← loadRoleCredential
  let role ← attempt (match stored with
    | some c => .ok c
    | none => .error (.wire .credentialMissing "role credential missing"))
  return (x, serverPub, role)

/-- `run_auth_client`. -/
def runAuthClient (maxRetries : ℕ) (allowedRoles : List UInt64) (draws : AuthClientDraws) :
    Client q G (Bytes 32) := do
  let (x, serverPub, role) ← loadAuthCredentials S
  let st ← attempt (authStart S x serverPub role allowedRoles draws)
  let sid := randSessionId draws.sessionId
  let a2Bytes ← sendExpect maxRetries pktAuth1 sid 0 (st.a1.encode S) pktAuth2
  let c ← attempt (acceptAuth2 S st a2Bytes)
  let ackBytes ← sendExpect maxRetries pktAuth3 sid 1 (Auth3.encode ⟨c.tagC S⟩) pktAuthAck
  attempt (orStop (decodeAck ackBytes))
  return c.sessionKey

end

end ZkArche.Rust
