import Mathlib.Data.List.AList
import ZkArche.Lib.Machine
import ZkArche.Proto.ServerSpecRust

/-!
# The Rust server

`dispatch_packet` and `gc_if_due` of `server/src/main.rs`.  One mutex guards the whole
state, so a run of the server is a sequence of such calls.

The hash maps are association lists.  What the code does not control is an argument: the
order in which a map is iterated, the clock, the random bytes, and the outcome of file
operations.

`dispatch_packet` returns the bytes to send.  The model also says where they come from
(`Reply`), since a reply out of the response cache is no new answer.  A panic poisons the
mutex, and the server handles nothing after it.
-/

namespace ZkArche.Rust

/-- A hash map. -/
abbrev Map (α β : Type) := AList fun _ : α => β

/-- The registered devices. -/
abbrev Registry (G : Type) := Map (Bytes 32) (DeviceRecord G)

/-- The records of the registry, in the order of the list. -/
def Registry.records {G : Type} (r : Registry G) : List (Bytes 32 × DeviceRecord G) :=
  r.entries.map fun e => (e.1, e.2)

/-- `DEFAULT_ALLOWED_ROLES`. -/
def defaultAllowedRoles : List UInt64 := [1, 2]

/-- `CachedResponse`. -/
structure CachedResponse (Addr : Type) where
  peer : Addr
  packet : List UInt8
  createdAt : ℕ

/-- The limits of a `Profile` for the server.  Times are in nanoseconds. -/
structure Profile where
  sessionTtl : ℕ
  maxActiveSessions : ℕ
  maxCachedResponses : ℕ

/-- `ServerState`.  The key store is what it yields at each call. -/
structure ServerState (Addr G : Type) where
  profile : Profile
  serverPub : G
  registry : Registry G
  setupSessions : Map SessionId (PendingSetup G)
  authSessions : Map SessionId PendingAuth
  responseCache : Map (SessionId × UInt32) (CachedResponse Addr)
  replay : MemoryReplayCache
  requirePairingToken : Option (List UInt8)
  lastGc : ℕ

/-- A received packet, and what handling it depends on besides the state. -/
structure Packet (Addr : Type) (q : ℕ) (G : Type) where
  peer : Addr
  bytes : List UInt8
  now : ℕ
  serverSk : Except ProtoError (ZMod q)
  flush : Except ProtoError Unit
  /-- The order in which the registry is iterated. -/
  iterate : List (Bytes 32 × DeviceRecord G) → List (Bytes 32 × DeviceRecord G)
  iterate_perm : ∀ records, (iterate records).Perm records
  setup : Setup2Draws
  auth : Auth2Draws

/-- A small registry may be iterated in the order of its records. -/
theorem demoOrder : ∀ records : List (Bytes 32 × DeviceRecord (ZMod 11)),
    (id records).Perm records := List.Perm.refl

/-- What a call of `dispatch_packet` ends with. -/
inductive Reply where
  /-- The packet has no valid header. -/
  | dropped
  /-- A response out of the cache. -/
  | cached (packet : List UInt8)
  /-- A response computed now. -/
  | fresh (packet : List UInt8)
  /-- Building the response panicked. -/
  | panicked (stop : Stop)
deriving DecidableEq

/-- The bytes to send. -/
def Reply.sent : Reply → Option (List UInt8)
  | .cached pkt => some pkt
  | .fresh pkt => some pkt
  | _ => none

variable {Addr : Type} [DecidableEq Addr] {q : ℕ} {G : Type} [AddCommGroup G]
  [Module (ZMod q) G] (S : Suite q G) [DecidableEq G]

/-! ## Packets -/

/-- The SETUP_1 branch of `dispatch_packet`. -/
def dispatchSetup1 (st : ServerState Addr G) (hdr : Header) (payload : List UInt8)
    (pk : Packet Addr q G) : ServerState Addr G × Except Stop (List UInt8) :=
  match handleSetup1 S pk.serverSk hdr.sessionId hdr.seq payload st.requirePairingToken
      pk.setup with
  | .error e => (st, .error e)
  | .ok p =>
      ({ st with setupSessions := st.setupSessions.insert hdr.sessionId p }, .ok p.responsePacket)

/-- The registry after `handle_setup_3`. -/
def saveRecord (r : Registry G) : Option (Bytes 32 × DeviceRecord G) → Registry G
  | some (id, rec) => r.insert id rec
  | none => r

/-- The SETUP_3 branch of `dispatch_packet`. -/
def dispatchSetup3 (st : ServerState Addr G) (hdr : Header) (payload : List UInt8)
    (pk : Packet Addr q G) : ServerState Addr G × Except Stop (List UInt8) :=
  match st.setupSessions.lookup hdr.sessionId with
  | none => (st, .error (.wire .unknownSession "no setup session for SETUP_3"))
  | some pending =>
      let r := handleSetup3 S pending st.serverPub hdr.sessionId hdr.seq payload pk.flush
      let st := { st with registry := saveRecord st.registry r.1 }
      match r.2 with
      | .ok pkt => ({ st with setupSessions := st.setupSessions.erase hdr.sessionId }, .ok pkt)
      | .error e => (st, .error e)

/-- The AUTH_1 branch of `dispatch_packet`. -/
def dispatchAuth1 (st : ServerState Addr G) (hdr : Header) (payload : List UInt8)
    (pk : Packet Addr q G) : ServerState Addr G × Except Stop (List UInt8) :=
  let r := handleAuth1 S pk.serverSk (pk.iterate st.registry.records) st.replay
    defaultAllowedRoles hdr.sessionId hdr.seq payload pk.auth
  let st := { st with replay := r.1 }
  match r.2 with
  | .error e => (st, .error e)
  | .ok p =>
      ({ st with authSessions := st.authSessions.insert hdr.sessionId p }, .ok p.responsePacket)

/-- The AUTH_3 branch of `dispatch_packet`. -/
def dispatchAuth3 (st : ServerState Addr G) (hdr : Header) (payload : List UInt8) :
    ServerState Addr G × Except Stop (List UInt8) :=
  match st.authSessions.lookup hdr.sessionId with
  | none => (st, .error (.wire .unknownSession "no auth session for AUTH_3"))
  | some pending =>
      match handleAuth3 pending hdr.sessionId hdr.seq payload with
      | .ok pkt => ({ st with authSessions := st.authSessions.erase hdr.sessionId }, .ok pkt)
      | .error e => (st, .error e)

/-- The `match` of `dispatch_packet`. -/
def respond (st : ServerState Addr G) (hdr : Header) (payload : List UInt8)
    (pk : Packet Addr q G) : ServerState Addr G × Except Stop (List UInt8) :=
  if hdr.pktType = pktSetup1 then dispatchSetup1 S st hdr payload pk
  else if hdr.pktType = pktSetup3 then dispatchSetup3 S st hdr payload pk
  else if hdr.pktType = pktAuth1 then dispatchAuth1 S st hdr payload pk
  else if hdr.pktType = pktAuth3 then dispatchAuth3 st hdr payload
  else (st, .error (.wire .unknownPacketType
    ("server does not handle packet type 0x" ++ hexByte hdr.pktType)))

/-- The packet an answer becomes: an error is sent as an ERROR packet. -/
def responseOf (hdr : Header) : Except Stop (List UInt8) → Except Stop (List UInt8)
  | .ok pkt => .ok pkt
  | .error (.err e) =>
      buildError hdr.sessionId hdr.seq (wireCodeAndMsg e).1 (wireCodeAndMsg e).2
  | .error (.panic m) => .error (.panic m)

/-- The cached response for a header, when it was sent to the same peer. -/
def cachedFor (st : ServerState Addr G) (hdr : Header) (peer : Addr) : Option (List UInt8) :=
  match st.responseCache.lookup (hdr.sessionId, hdr.seq) with
  | some c => if c.peer = peer then some c.packet else none
  | none => none

/-- The tail of `dispatch_packet`: remember the response for retransmissions. -/
def conclude (st : ServerState Addr G) (hdr : Header) (pk : Packet Addr q G)
    (r : Except Stop (List UInt8)) : ServerState Addr G × Reply :=
  match responseOf hdr r with
  | .ok pkt =>
      let entry : CachedResponse Addr := ⟨pk.peer, pkt, pk.now⟩
      ({ st with responseCache := st.responseCache.insert (hdr.sessionId, hdr.seq) entry },
        .fresh pkt)
  | .error stop => (st, .panicked stop)

/-- `dispatch_packet`. -/
def dispatchPacket (st : ServerState Addr G) (pk : Packet Addr q G) :
    ServerState Addr G × Reply :=
  match parsePacket pk.bytes with
  | .error _ => (st, .dropped)
  | .ok (hdr, payload) =>
      match cachedFor st hdr pk.peer with
      | some pkt => (st, .cached pkt)
      | none =>
          let r := respond S st hdr payload pk
          conclude r.1 hdr pk r.2

/-! ## Collection -/

/-- The number of entries. -/
def len {α β : Type} (m : Map α β) : ℕ := m.entries.length

/-- Remove `n` entries, whichever come first in the iteration. -/
def evict {α β : Type} [DecidableEq α] (pick : ℕ → ℕ) : ℕ → Map α β → Map α β
  | 0, m => m
  | n + 1, m =>
      match m.keys[pick (len m) % len m]? with
      | some k => evict pick n (m.erase k)
      | none => m

/-- `retain` on the values. -/
def retain {α β : Type} (keep : β → Bool) (m : Map α β) : Map α β :=
  ⟨m.entries.filter fun e => keep e.2, m.nodupKeys.sublist List.filter_sublist⟩

/-- `gc_if_due`. -/
def gcIfDue (st : ServerState Addr G) (now : ℕ) (pickSetup pickAuth : ℕ → ℕ) :
    ServerState Addr G :=
  if now - st.lastGc < 5 * 10 ^ 9 then st
  else
    let cap := st.profile.maxActiveSessions
    { st with
      lastGc := now
      responseCache := retain (fun c => decide (now - c.createdAt ≤ st.profile.sessionTtl))
        st.responseCache
      setupSessions := evict pickSetup (len st.setupSessions - cap) st.setupSessions
      authSessions := evict pickAuth (len st.authSessions - cap) st.authSessions }

end ZkArche.Rust
