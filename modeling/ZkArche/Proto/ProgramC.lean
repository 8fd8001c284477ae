import ZkArche.Proto.ClientSpecC
import ZkArche.Store.DiskC

/-!
# The C client program

`auth_client` (`bin/client.c`) from its arguments to its exit.  It loads the credentials, exchanges
two requests with the server and, after an enrollment, saves the credentials.  What it meets is an
argument: the results of its calls to the system, and the random bytes.

The files are those of a disk (`Store.DiskC`), and the client library is that of `Proto.ClientC`.  A
program may be killed in each of its calls to the system.
-/

namespace ZkArche.C

open Disk

/-! ## Arguments -/

inductive TransportKind where
  | udp
  | tcp
deriving DecidableEq

/-- `args_t`.  The default of the state directory is filled in where it is used. -/
structure Args where
  server : Option String
  transport : TransportKind
  stateDir : Option String
  doSetup : Bool
  allowTofu : Bool
  role : UInt64
  allowed : List UInt64
  pairingToken : Option String

/-- The arguments before the first one is read. -/
def Args.initial : Args where
  server := none
  transport := .udp
  stateDir := none
  doSetup := false
  allowTofu := false
  role := 2
  allowed := [1, 2]
  pairingToken := none

/-- `isspace`. -/
def isSpace (c : Char) : Bool := c.toNat = 32 || (9 ≤ c.toNat && c.toNat ≤ 13)

/-- The number that digits denote. -/
def decimal (digits : List Char) : ℕ := digits.foldl (fun n c => 10 * n + (c.toNat - 48)) 0

/-- `strtoull` in base 10: the value, and what follows it.  Without digits nothing is read. -/
def strtoull (s : List Char) : UInt64 × List Char :=
  let t := s.dropWhile isSpace
  let (negative, t) := match t with
    | '-' :: rest => (true, rest)
    | '+' :: rest => (false, rest)
    | _ => (false, t)
  let (digits, rest) := t.span Char.isDigit
  if digits = [] then (0, s)
  else if 2 ^ 64 ≤ decimal digits then (UInt64.ofNat (2 ^ 64 - 1), rest)
  else if negative then (0 - UInt64.ofNat (decimal digits), rest)
  else (UInt64.ofNat (decimal digits), rest)

/-- `parse_role_list`.  What comes after `cap` roles is not looked at. -/
def parseRoleList : (cap : ℕ) → List Char → Option (List UInt64)
  | 0, _ => some []
  | _ + 1, [] => some []
  | cap + 1, p =>
      let (v, rest) := strtoull p
      if rest.length = p.length then none
      else match rest with
        | [] => some [v]
        | ',' :: rest => (parseRoleList cap rest).map (v :: ·)
        | _ => none

/-- What the arguments say. -/
inductive Parsed where
  | run (args : Args)
  | help
  | invalid

/-- The loop of `parse_args`, and the check of the server after it. -/
def parseArgs (a : Args) : List String → Parsed
  | [] => if a.server.isSome then .run a else .invalid
  | "--server" :: v :: rest => parseArgs { a with server := some v } rest
  | "--transport" :: "udp" :: rest => parseArgs { a with transport := .udp } rest
  | "--transport" :: "tcp" :: rest => parseArgs { a with transport := .tcp } rest
  | "--state-dir" :: v :: rest => parseArgs { a with stateDir := some v } rest
  | "--setup" :: rest => parseArgs { a with doSetup := true } rest
  | "--allow-tofu-setup" :: rest => parseArgs { a with allowTofu := true } rest
  | "--role" :: v :: rest => parseArgs { a with role := (strtoull v.toList).1 } rest
  | "--allowed-roles" :: v :: rest =>
      match parseRoleList maxRoles v.toList with
      | none => .invalid
      | some roles => parseArgs { a with allowed := roles } rest
  | "--pairing-token" :: v :: rest => parseArgs { a with pairingToken := some v } rest
  | "-h" :: _ => .help
  | "--help" :: _ => .help
  | _ => .invalid

/-- The characters at the front that fit a buffer. -/
def fitting : (room : ℕ) → List Char → List Char
  | _, [] => []
  | room, c :: rest => if c.utf8Size ≤ room then c :: fitting (room - c.utf8Size) rest else []

/-- `path_join`.  A path that does not fit is cut. -/
def pathJoin (cap : ℕ) (dir file : String) : String :=
  let joined := dir ++ "/" ++ file
  if joined.utf8ByteSize < cap then joined else .ofList (fitting (cap - 1) joined.toList)

/-- The file of the credentials. -/
def Args.credPath (a : Args) : String :=
  pathJoin 512 (a.stateDir.getD "./client-state") "credentials.bin"

/-! ## What the program meets -/

/-- What the client gave to `send`, or got from `recv`. -/
inductive Traffic where
  | sent (packet : List UInt8)
  | received (packet : List UInt8)

/-- The files, the results of the calls of `send` and `recv` to come, and the packets so far, newest
first.  A program that makes more calls than are listed has not come further. -/
structure ProgramState where
  disk : Disk String
  sends : List (Except AuthErr Unit)
  recvs : List (Except AuthErr (List UInt8))
  log : List Traffic

/-- What the program prints when it fails.  It returns 1 then. -/
inductive Complaint where
  | plain (msg : String)
  /-- A step, with the text of its error. -/
  | failed (step : String) (e : AuthErr)

/-- What the program prints when it succeeds. -/
inductive Printed where
  | enrolled (kind : TransportKind)
  /-- The front of the session key. -/
  | authenticated (kind : TransportKind) (key : List UInt8)

/-- The code of the program. -/
abbrev Program (ε α : Type) := Routine (Interrupt ε) ProgramState α

/-- What a run meets, besides the files. -/
structure Meets where
  init : Except AuthErr Unit
  mkdir : Bool
  connect : Except AuthErr Unit
  sends : List (Except AuthErr Unit)
  recvs : List (Except AuthErr (List UInt8))
  reads : ReadCalls
  writes : WriteCalls
  newRoot : Bytes 32
  sessionId : SessionId
  setup1 : Setup1Draws
  setup3 : Bytes 64
  auth1 : Auth1Draws

variable {α : Type}

/-- An error that ends the program, with the step that it is printed with. -/
def failedAt (step : String) : Interrupt AuthErr → Interrupt Complaint
  | .stopped e => .stopped (.failed step e)
  | .killed => .killed

/-- A step of the program. -/
def atStep (step : String) (x : Program AuthErr α) : Program Complaint α := Routine.op fun w =>
  ((x.exec w).1.mapError (failedAt step), (x.exec w).2)

/-- A step that depends on nothing but what it is given. -/
def check (step : String) (r : Except AuthErr α) : Program Complaint α :=
  atStep step (Routine.lift (r.mapError .stopped))

/-- A call of the client library, with the context that it leaves. -/
def call (step : String) (r : ClientResult α) : Program Complaint (ClientCtx × α) :=
  check step (r.2.map fun a => (r.1, a))

/-- A routine over the files. -/
def onDisk (x : OnDisk α) : Program AuthErr α := Routine.op fun w =>
  ((x.exec w.disk).1, { w with disk := (x.exec w.disk).2 })

/-- Stop with a text. -/
def complain (msg : String) : Program Complaint α := throw (.stopped (.plain msg))

/-! ## The exchange -/

/-- `auth_udp_send` or `auth_tcp_send`. -/
def transportSend (packet : List UInt8) : Program AuthErr (Except AuthErr Unit) :=
  Routine.op fun w =>
  match w.sends with
  | [] => (.error .killed, w)
  | r :: rest => (.ok r, { w with sends := rest, log := .sent packet :: w.log })

/-- `auth_udp_recv` or `auth_tcp_recv`. -/
def transportRecv : Program AuthErr (Except AuthErr (List UInt8)) := Routine.op fun w =>
  match w.recvs with
  | [] => (.error .killed, w)
  | .error e :: rest => (.ok (.error e), { w with recvs := rest })
  | .ok input :: rest =>
      (.ok (.ok input), { w with recvs := rest, log := .received input :: w.log })

/-- `N_ATTEMPTS`. -/
def TransportKind.attempts : TransportKind → ℕ
  | .udp => 2
  | .tcp => 1

/-- The loop of `send_then_recv`, with the attempts that are left. -/
def sendThenRecv (out : List UInt8) : ℕ → Program AuthErr (List UInt8)
  | 0 => throw (.stopped .timeout)
  | attempts + 1 => do
      match ← transportSend out with
      | .error e => throw (.stopped e)
      | .ok () =>
          match ← transportRecv with
          | .ok input => return input
          | .error e =>
              if e = .timeout then sendThenRecv out attempts else throw (.stopped e)

/-! ## The commands -/

/-- `auth_creds_init_fresh`. -/
def authCredsInitFresh (root : Bytes 32) : AuthCredentials :=
  ⟨root, false, .zero 32, false, .zero 32, .zero 32, 0⟩

/-- `auth_creds_load`, from the files. -/
def loadCreds (c : ReadCalls) (path : String) :
    Program Complaint (Except AuthErr AuthCredentials) :=
  Routine.op fun w => (.ok (authCredsLoad (fileReads c path w.disk)), w)

/-- `auth_creds_save`, to the files. -/
def saveCreds (c : WriteCalls) (path : String) (creds : AuthCredentials) : OnDisk Unit :=
  atomicWriteFile c path (credentialsBytes creds)

variable {q : ℕ} {G : Type} [AddCommGroup G] [Module (ZMod q) G] (S : Suite q G)

/-- `auth_derive_device_id`. -/
def authDeriveDeviceId (root : Bytes 32) : Bytes 32 := S.blake2b256 (ascii "device-id" ++ root.val)

/-- `auth_derive_device_scalar`. -/
def authDeriveDeviceScalar (root : Bytes 32) : Bytes 32 :=
  authScalarFromWide q (S.blake2b512 (ascii "device-auth-v1" ++ root.val))

/-- `auth_client_ctx_t ctx = {0}`. -/
def ClientCtx.blank : ClientCtx where
  deviceId := .zero 32
  deviceSk := .zero 32
  devicePub := .zero 32
  serverPubPinned := .zero 32
  hasPinnedServer := false
  roleCommitment := .zero 32
  roleBlind := .zero 32
  roleCode := 0
  hasRole := false
  sessionId := .zero 16
  seq := 0
  clientNonce := .zero 32
  ephSecret := .zero 32
  ephC := .zero 32
  pendingClientProof := ⟨.zero 32, .zero 32⟩
  pendingServerPub := .zero 32
  pendingServerNonce := .zero 32
  pendingSetupChallenge := .zero 16
  sessionKey := .zero 32
  kcTh := .zero 32
  kcKS2c := .zero 32
  kcKC2s := .zero 32
  authComplete := false

/-- The context of a device, after `auth_client_ctx_init`. -/
def deviceContext (root : Bytes 32) (devicePub : Bytes 32) (sessionId : SessionId) : ClientCtx :=
  authClientCtxInit
    { ClientCtx.blank with
      deviceId := authDeriveDeviceId S root
      deviceSk := authDeriveDeviceScalar S root
      devicePub := devicePub }
    sessionId

/-- The public key of a device, without which a command does not start. -/
def derivePub (root : Bytes 32) : Program Complaint (Bytes 32) :=
  match authScalarmultBase S (authDeriveDeviceScalar S root) with
  | .error _ => complain "device pub derivation failed"
  | .ok devicePub => return devicePub

/-- What `do_setup` and `do_auth` copy from the credentials into the context. -/
def ClientCtx.withCreds (ctx : ClientCtx) (creds : AuthCredentials) (pinned role : Bool)
    (code : UInt64) : ClientCtx :=
  { ctx with
    hasPinnedServer := pinned
    serverPubPinned := creds.serverPubPinned
    hasRole := role
    roleCommitment := creds.roleCommitment
    roleBlind := creds.roleBlind
    roleCode := code }

/-- The credentials that `do_setup` saves. -/
def AuthCredentials.enrolled (creds : AuthCredentials) (ctx : ClientCtx) : AuthCredentials :=
  { creds with
    hasPinnedServer := true
    serverPubPinned := ctx.serverPubPinned
    hasRole := true
    roleCommitment := ctx.roleCommitment
    roleBlind := ctx.roleBlind
    roleCode := ctx.roleCode }

/-- The bytes of the token. -/
def Args.tokenBytes (a : Args) : List UInt8 := (a.pairingToken.map fun t => t.toUTF8.toList).getD []

/-- The context in which an enrollment starts. -/
def setupContext (a : Args) (m : Meets) (creds : AuthCredentials) (devicePub : Bytes 32) :
    ClientCtx :=
  (deviceContext S creds.deviceRoot devicePub m.sessionId).withCreds creds creds.hasPinnedServer
    creds.hasRole (if creds.hasRole then creds.roleCode else a.role)

/-- The credentials that `do_setup` starts from. -/
def loadOrFresh (a : Args) (m : Meets) : Program Complaint AuthCredentials := do
  match ← loadCreds m.reads a.credPath with
  | .ok creds => return creds
  | .error e =>
      if e = .credentialMissing then return authCredsInitFresh m.newRoot
      else throw (.stopped (.failed "Load creds failed" e))

/-- `do_setup`. -/
def doSetup (a : Args) (m : Meets) : Program Complaint Printed := do
  let creds ← loadOrFresh a m
  let devicePub ← derivePub S creds.deviceRoot
  let (ctx, out) ← call "build_setup1" (authClientBuildSetup1 S (setupContext S a m creds devicePub)
    a.tokenBytes m.setup1 maxDatagram)
  let input ← atStep "SETUP_1 roundtrip" (sendThenRecv out a.transport.attempts)
  let (ctx, ()) ← call "handle_setup2" (authClientHandleSetup2 S ctx input a.allowTofu)
  let (ctx, out) ← call "build_setup3" (authClientBuildSetup3 S ctx m.setup3 maxDatagram)
  let input ← atStep "SETUP_3 roundtrip" (sendThenRecv out a.transport.attempts)
  let (ctx, ()) ← call "handle_setup_ack" (authClientHandleSetupAck ctx input)
  atStep "save creds" (onDisk (saveCreds m.writes a.credPath (creds.enrolled ctx)))
  return .enrolled a.transport

/-- The context in which an authentication starts. -/
def authContext (m : Meets) (creds : AuthCredentials) (devicePub : Bytes 32) : ClientCtx :=
  (deviceContext S creds.deviceRoot devicePub m.sessionId).withCreds creds true true creds.roleCode

/-- `do_auth`. -/
def doAuth (a : Args) (m : Meets) : Program Complaint Printed := do
  let creds ← check "Load creds failed" (← loadCreds m.reads a.credPath)
  if ¬ creds.hasPinnedServer ∨ ¬ creds.hasRole then
    complain "Credentials incomplete; run --setup first"
  let devicePub ← derivePub S creds.deviceRoot
  let (ctx, out) ← call "build_auth1" (authClientBuildAuth1 S (authContext S m creds devicePub)
    a.allowed m.auth1 maxDatagram)
  let input ← atStep "AUTH_1 roundtrip" (sendThenRecv out a.transport.attempts)
  let (ctx, ()) ← call "handle_auth2" (authClientHandleAuth2 S ctx input)
  let (ctx, out) ← call "build_auth3" (authClientBuildAuth3 S ctx maxDatagram)
  let input ← atStep "AUTH_3 roundtrip" (sendThenRecv out a.transport.attempts)
  let (ctx, ()) ← call "handle_auth_ack" (authClientHandleAuthAck ctx input)
  return .authenticated a.transport (ctx.sessionKey.val.take 8)

/-- `main`, after the arguments. -/
def clientMain (a : Args) (m : Meets) : Program Complaint Printed := do
  if m.init.toBool = false then complain "sodium init failed"
  if m.mkdir = false then complain ("mkdir " ++ a.stateDir.getD "./client-state")
  check ("connect to " ++ a.server.getD "") m.connect
  if a.doSetup then doSetup S a m else doAuth S a m

end ZkArche.C
