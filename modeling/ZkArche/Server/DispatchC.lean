import ZkArche.Lib.Sections
import ZkArche.Store.RegistryC
import ZkArche.Store.SessionTable

/-!
# The C server

`dispatch` of `bin/server.c`.  The workers of the UDP and TCP drivers call it concurrently.
They share the registry, the session table and the replay cache, which they touch only
while they hold `mu` or `replay_mu`.  `Req` lists these critical sections, one constructor
for each, and `serverSections` says what each does.

`dispatch` is the code between the sections.  Everything it does without a lock, the
verification of proofs above all, is computed from what the sections returned.

The random bytes and the outcome of writing the registry file come with the job.
-/

namespace ZkArche.C

/-! ## Critical sections -/

/-- The shared state of the server. -/
structure ServerState where
  registry : Registry
  sessions : SessionTable
  replayCache : ReplayCache

/-- A critical section of `server.c`. -/
inductive Req where
  /-- `auth_session_table_reserve`. -/
  | reserve
  /-- `activate_setup`, and the release when it fails. -/
  | activateSetup (slot : ℕ) (pending : PendingSetup)
  /-- `activate_auth`, and the release when it fails. -/
  | activateAuth (slot : ℕ) (pending : PendingAuth)
  /-- `auth_session_table_release`. -/
  | release (slot : ℕ)
  /-- `find_setup` and the copy of the record. -/
  | findSetup (sid : SessionId)
  /-- `find_auth` and the copy of the record. -/
  | findAuth (sid : SessionId)
  /-- `auth_registry_put`, `auth_registry_save` and the release, with the outcome of the
  write to disk. -/
  | enroll (slot : ℕ) (pending : PendingSetup) (save : Except AuthErr Unit)
  /-- Read `registry.n`. -/
  | registryCount
  /-- Copy a registry entry. -/
  | registryEntry (i : ℕ)
  /-- `auth_server_handle_auth1_guarded`, under `replay_mu`. -/
  | guardedAuth1 (sid : SessionId) (seq : UInt32) (payload : List UInt8)
      (candidate : Bytes 32 × Bytes 32) (draws : Auth2Draws)

/-- What a section returns. -/
def Ans : Req → Type
  | .reserve => Option ℕ
  | .activateSetup .. => Except AuthErr Unit
  | .activateAuth .. => Except AuthErr Unit
  | .release _ => Unit
  | .findSetup _ => Option (ℕ × PendingSetup)
  | .findAuth _ => Option (ℕ × PendingAuth)
  | .enroll .. => Except AuthErr Unit
  | .registryCount => ℕ
  | .registryEntry _ => RegistryEntry
  | .guardedAuth1 .. => Except AuthErr (PendingAuth × List UInt8)

/-- Activate a slot, and release it when that fails. -/
def activateOrRelease (s : ServerState) (i : ℕ) (slot : Slot) :
    ServerState × Except AuthErr Unit :=
  match activate s.sessions i slot with
  | (t, .ok ()) => ({ s with sessions := t }, .ok ())
  | (t, .error e) => ({ s with sessions := authSessionTableRelease t i }, .error e)

/-- The record `dispatch` enrolls. -/
def PendingSetup.entry (p : PendingSetup) : RegistryEntry :=
  ⟨p.deviceId, p.devicePub, p.roleCommitment⟩

/-- Put, save, release.  A failed save leaves the record in memory. -/
def enroll (s : ServerState) (i : ℕ) (p : PendingSetup) (save : Except AuthErr Unit) :
    ServerState × Except AuthErr Unit :=
  let sessions := authSessionTableRelease s.sessions i
  match authRegistryPut s.registry p.entry with
  | .error e => ({ s with sessions := sessions }, .error e)
  | .ok reg => ({ s with registry := reg, sessions := sessions }, save)

variable {q : ℕ} {G : Type} [AddCommGroup G] [Module (ZMod q) G] (S : Suite q G)

/-- What the sections do. -/
def execReq (cap : ℕ) (cfg : ServerConfig) (s : ServerState) : (r : Req) → ServerState × Ans r
  | .reserve =>
      let r := authSessionTableReserve s.sessions
      ({ s with sessions := r.1 }, r.2)
  | .activateSetup i p => activateOrRelease s i (.setup p)
  | .activateAuth i p => activateOrRelease s i (.auth p)
  | .release i => ({ s with sessions := authSessionTableRelease s.sessions i }, ())
  | .findSetup sid => (s, lookupSetup s.sessions sid)
  | .findAuth sid => (s, lookupAuth s.sessions sid)
  | .enroll i p save => enroll s i p save
  | .registryCount => (s, s.registry.length)
  | .registryEntry i => (s, s.registry.getD i default)
  | .guardedAuth1 sid seq payload cand draws =>
      let r := authServerHandleAuth1Guarded S cap s.replayCache cfg sid seq payload (.ok cand)
        draws maxDatagram
      ({ s with replayCache := r.1 }, r.2)

/-- The shared state of the server and its critical sections. -/
abbrev serverSections (cap : ℕ) (cfg : ServerConfig) : Sections where
  State := ServerState
  Req := Req
  Ans := Ans
  exec := execReq S cap cfg

/-! ## The code of a worker -/

/-- What a call of `dispatch` depends on: the packet, the random bytes it will draw, and
what happens when it writes the registry file. -/
structure Job where
  input : List UInt8
  setup : Setup2Draws
  auth : ℕ → Auth2Draws
  save : Except AuthErr Unit

/-- `error_reply`. -/
def errorReply (hdr : Header) (err : AuthErr) : List UInt8 :=
  match authPacketBuildError hdr.sessionId hdr.seq err (authStrerror err) maxDatagram with
  | .ok pkt => pkt
  | .error _ => []

/-- What `dispatch` leaves in the output buffer. -/
def replyOf (hdr : Header) : Except AuthErr (List UInt8) → List UInt8
  | .ok pkt => pkt
  | .error e => errorReply hdr e

section

variable (cap : ℕ) (cfg : ServerConfig)

/-- A call of a critical section. -/
def locked (r : Req) : Prog (serverSections S cap cfg) (Ans r) :=
  Prog.call (I := serverSections S cap cfg) r

/-- The candidate loop of `try_handle_auth1`.  `n` entries are left from index `i` on, and
`last` is the error of the previous candidate. -/
def scanCandidates (slot : ℕ) (hdr : Header) (payload : List UInt8) (draws : ℕ → Auth2Draws) :
    ℕ → ℕ → AuthErr → Prog (serverSections S cap cfg) (Except AuthErr (List UInt8))
  | 0, _, last => do
      locked S cap cfg (.release slot)
      return .error last
  | n + 1, i, _ => do
      let entry ← locked S cap cfg (.registryEntry i)
      let res ← locked S cap cfg (.guardedAuth1 hdr.sessionId hdr.seq payload
        (entry.devicePub, entry.roleCommitment) (draws i))
      match res with
      | .ok (pending, pkt) => do
          let activated ← locked S cap cfg (.activateAuth slot pending)
          match activated with
          | .ok () => return .ok pkt
          | .error e => return .error e
      | .error e =>
          if e ≠ .proofVerify ∧ e ≠ .roleNotPermitted then do
            locked S cap cfg (.release slot)
            return .error e
          else scanCandidates slot hdr payload draws n (i + 1) e

/-- `try_handle_auth1`. -/
def tryHandleAuth1 (job : Job) (hdr : Header) (payload : List UInt8) :
    Prog (serverSections S cap cfg) (Except AuthErr (List UInt8)) := do
  let slot ← locked S cap cfg .reserve
  match slot with
  | none => return .error .tooManyActive
  | some slot => do
      let n ← locked S cap cfg .registryCount
      scanCandidates S cap cfg slot hdr payload job.auth n 0 .unknownDevice

/-- The SETUP_1 branch of `dispatch`. -/
def dispatchSetup1 (job : Job) (hdr : Header) (payload : List UInt8) :
    Prog (serverSections S cap cfg) (Except AuthErr (List UInt8)) := do
  let slot ← locked S cap cfg .reserve
  match slot with
  | none => return .error .tooManyActive
  | some slot =>
      match authServerHandleSetup1 S cfg hdr.sessionId hdr.seq payload job.setup maxDatagram with
      | .error e => do
          locked S cap cfg (.release slot)
          return .error e
      | .ok (pending, pkt) => do
          let activated ← locked S cap cfg (.activateSetup slot pending)
          match activated with
          | .ok () => return .ok pkt
          | .error e => return .error e

/-- The SETUP_3 branch of `dispatch`. -/
def dispatchSetup3 (job : Job) (hdr : Header) (payload : List UInt8) :
    Prog (serverSections S cap cfg) (Except AuthErr (List UInt8)) := do
  let found ← locked S cap cfg (.findSetup hdr.sessionId)
  match found with
  | none => return .error .unknownSession
  | some (slot, pending) =>
      match authServerHandleSetup3 S pending hdr.sessionId hdr.seq payload maxDatagram with
      | .error e => return .error e
      | .ok pkt => do
          let saved ← locked S cap cfg (.enroll slot pending job.save)
          match saved with
          | .ok () => return .ok pkt
          | .error e => return .error e

/-- The AUTH_3 branch of `dispatch`. -/
def dispatchAuth3 (hdr : Header) (payload : List UInt8) :
    Prog (serverSections S cap cfg) (Except AuthErr (List UInt8)) := do
  let found ← locked S cap cfg (.findAuth hdr.sessionId)
  match found with
  | none => return .error .unknownSession
  | some (slot, pending) => do
      let res := authServerHandleAuth3 S pending hdr.sessionId hdr.seq payload maxDatagram
      locked S cap cfg (.release slot)
      return res

/-- The `switch` of `dispatch`. -/
def dispatchBody (job : Job) (hdr : Header) (payload : List UInt8) :
    Prog (serverSections S cap cfg) (Except AuthErr (List UInt8)) :=
  if hdr.pktType = pktSetup1 then dispatchSetup1 S cap cfg job hdr payload
  else if hdr.pktType = pktSetup3 then dispatchSetup3 S cap cfg job hdr payload
  else if hdr.pktType = pktAuth1 then tryHandleAuth1 S cap cfg job hdr payload
  else if hdr.pktType = pktAuth3 then dispatchAuth3 S cap cfg hdr payload
  else return .error .unknownPktType

/-- `dispatch`: the packet it writes, or nothing. -/
def dispatch (job : Job) : Prog (serverSections S cap cfg) (List UInt8) :=
  match authHeaderDecode job.input with
  | .error _ => return []
  | .ok (hdr, payload) => do
      let res ← dispatchBody S cap cfg job hdr payload
      return replyOf hdr res

/-! ## Pools of workers -/

/-- The workers of the server. -/
abbrev ServerPool := Pool (serverSections S cap cfg) ℕ Job (List UInt8)

/-- A server that has just started: any registry and replay cache, no session, nobody at
work. -/
def serverStart (registry : Registry) (capacity : ℕ) (cache : ReplayCache) :
    ServerPool S cap cfg :=
  Pool.fresh (I := serverSections S cap cfg) ⟨registry, authSessionTableInit capacity, cache⟩

/-- The server after a schedule. -/
def serverRun (P : ServerPool S cap cfg) (as : List (Turn ℕ Job)) : ServerPool S cap cfg :=
  Pool.run (dispatch S cap cfg) P as

end

end ZkArche.C
