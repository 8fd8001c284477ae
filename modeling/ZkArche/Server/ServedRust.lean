import ZkArche.Server.DispatchRust

/-!
# What a call of the Rust server can do

`Served` lists what `dispatch_packet` can do to the registry and the sessions, with the
reply that goes with it.  Everything about runs of the server is derived from this list
and from `gc_if_due` only forgetting sessions (`lookup_evict`).

A run answers operations one by one.  Its history keeps the states around each operation,
so that it shows what was stored for a packet.
-/

namespace ZkArche.Rust

variable {Addr : Type} [DecidableEq Addr] {q : ℕ} {G : Type} [AddCommGroup G]
  [Module (ZMod q) G] [DecidableEq G]

/-! ## Packets -/

omit [DecidableEq Addr] [AddCommGroup G] [DecidableEq G] in
/-- The registry and the sessions are the same. -/
structure Unchanged (st st' : ServerState Addr G) : Prop where
  registry : st'.registry = st.registry
  setup : st'.setupSessions = st.setupSessions
  auth : st'.authSessions = st.authSessions

/-- What a call of `dispatch_packet` can do. -/
inductive Served (S : Suite q G) (st : ServerState Addr G) (pk : Packet Addr q G) :
    ServerState Addr G → Reply → Prop where
  /-- Nothing, and the reply is no fresh answer, or an ERROR packet. -/
  | other {st' : ServerState Addr G} {reply : Reply} : Unchanged st st' →
      (∀ pkt, reply = .fresh pkt → pktTypeOf pkt = pktError) → Served S st pk st' reply
  /-- A SETUP_1 is accepted. -/
  | setup1 {st' : ServerState Addr G} {hdr : Header} {payload : List UInt8} {s1 : Setup1 G}
      {sk : ZMod q} : parsePacket pk.bytes = .ok (hdr, payload) → hdr.pktType = pktSetup1 →
      Setup1.decode S payload = .ok s1 → tokenOk st.requirePairingToken s1 = true →
      st'.registry = st.registry → st'.authSessions = st.authSessions →
      st'.setupSessions = st.setupSessions.insert hdr.sessionId
        (setupPending S sk hdr.sessionId hdr.seq s1 pk.setup) →
      Served S st pk st'
        (.fresh (setupPending S sk hdr.sessionId hdr.seq s1 pk.setup).responsePacket)
  /-- A SETUP_3 is accepted, and its record is saved. -/
  | setup3 {st' : ServerState Addr G} {hdr : Header} {payload : List UInt8}
      {p : PendingSetup G} : parsePacket pk.bytes = .ok (hdr, payload) →
      hdr.pktType = pktSetup3 → st.setupSessions.lookup hdr.sessionId = some p →
      setup3Check S p st.serverPub payload = .ok () →
      st'.registry = st.registry.insert p.deviceId p.record →
      st'.authSessions = st.authSessions →
      st'.setupSessions = st.setupSessions.erase hdr.sessionId →
      Served S st pk st' (.fresh (frame pktSetupAck hdr.sessionId hdr.seq [ackByte]))
  /-- A SETUP_3 is accepted, but the registry file cannot be written. -/
  | setup3Unsaved {st' : ServerState Addr G} {reply : Reply} {hdr : Header}
      {payload : List UInt8} {p : PendingSetup G} : parsePacket pk.bytes = .ok (hdr, payload) →
      hdr.pktType = pktSetup3 → st.setupSessions.lookup hdr.sessionId = some p →
      setup3Check S p st.serverPub payload = .ok () →
      st'.registry = st.registry.insert p.deviceId p.record →
      st'.authSessions = st.authSessions → st'.setupSessions = st.setupSessions →
      (∀ pkt, reply = .fresh pkt → pktTypeOf pkt = pktError) → Served S st pk st' reply
  /-- An AUTH_1 is accepted. -/
  | auth1 {st' : ServerState Addr G} {hdr : Header} {payload : List UInt8} {p : PendingAuth} :
      parsePacket pk.bytes = .ok (hdr, payload) → hdr.pktType = pktAuth1 →
      pktTypeOf p.responsePacket = pktAuth2 → st'.registry = st.registry →
      st'.setupSessions = st.setupSessions →
      st'.authSessions = st.authSessions.insert hdr.sessionId p →
      Served S st pk st' (.fresh p.responsePacket)
  /-- An AUTH_3 is accepted. -/
  | auth3 {st' : ServerState Addr G} {hdr : Header} {payload : List UInt8} {p : PendingAuth} :
      parsePacket pk.bytes = .ok (hdr, payload) → hdr.pktType = pktAuth3 →
      st.authSessions.lookup hdr.sessionId = some p → payload = p.expectedTagC.val →
      st'.registry = st.registry → st'.setupSessions = st.setupSessions →
      st'.authSessions = st.authSessions.erase hdr.sessionId →
      Served S st pk st' (.fresh (frame pktAuthAck hdr.sessionId hdr.seq [ackByte]))

variable {S : Suite q G}

omit [DecidableEq Addr] [AddCommGroup G] [Module (ZMod q) G] [DecidableEq G] in
theorem conclude_registry (st : ServerState Addr G) (hdr : Header) (pk : Packet Addr q G)
    (r : Except Stop (List UInt8)) : (conclude st hdr pk r).1.registry = st.registry := by
  unfold conclude
  split <;> rfl

omit [DecidableEq Addr] [AddCommGroup G] [Module (ZMod q) G] [DecidableEq G] in
/-- An answer that is an error becomes an ERROR packet, or a panic. -/
theorem conclude_error (st : ServerState Addr G) (hdr : Header) (pk : Packet Addr q G)
    (e : Stop) : Unchanged st (conclude st hdr pk (.error e)).1 ∧
      ∀ pkt, (conclude st hdr pk (.error e)).2 = .fresh pkt → pktTypeOf pkt = pktError := by
  cases e with
  | panic m => exact ⟨⟨rfl, rfl, rfl⟩, nofun⟩
  | err e =>
      unfold conclude responseOf
      cases hb : buildError hdr.sessionId hdr.seq (wireCodeAndMsg e).1 (wireCodeAndMsg e).2 with
      | error stop =>
          simp only [hb]
          exact ⟨⟨rfl, rfl, rfl⟩, nofun⟩
      | ok pkt =>
          simp only [hb]
          refine ⟨⟨rfl, rfl, rfl⟩, ?_⟩
          intro pkt' h
          cases h
          obtain ⟨-, rfl⟩ := buildError_eq_ok_iff.mp hb
          rfl

omit [DecidableEq Addr] in
theorem respond_served (st : ServerState Addr G) (pk : Packet Addr q G) {hdr : Header}
    {payload : List UInt8} (hp : parsePacket pk.bytes = .ok (hdr, payload)) :
    Served S st pk
      (conclude (respond S st hdr payload pk).1 hdr pk (respond S st hdr payload pk).2).1
      (conclude (respond S st hdr payload pk).1 hdr pk (respond S st hdr payload pk).2).2 := by
  -- whatever fails without touching the sessions
  have herr : ∀ st₁ : ServerState Addr G, Unchanged st st₁ → ∀ e,
      Served S st pk (conclude st₁ hdr pk (.error e)).1 (conclude st₁ hdr pk (.error e)).2 := by
    intro st₁ h e
    obtain ⟨hu, hty⟩ := conclude_error st₁ hdr pk e
    exact .other ⟨hu.registry.trans h.registry, hu.setup.trans h.setup, hu.auth.trans h.auth⟩ hty
  have hsame : Unchanged st st := ⟨rfl, rfl, rfl⟩
  unfold respond
  split
  next ht =>
    unfold dispatchSetup1
    cases hr : handleSetup1 S pk.serverSk hdr.sessionId hdr.seq payload st.requirePairingToken
        pk.setup with
    | error e => exact herr st hsame e
    | ok p =>
        obtain ⟨s1, sk, hd, htok, -, rfl⟩ := handleSetup1_eq_ok_iff.mp hr
        exact .setup1 hp ht hd htok rfl rfl rfl
  split
  next ht =>
    unfold dispatchSetup3
    cases hl : st.setupSessions.lookup hdr.sessionId with
    | none => exact herr st hsame _
    | some p =>
        obtain ⟨e, hr⟩ | ⟨hck, ⟨e, -, hr⟩ | ⟨-, hr⟩⟩ := handleSetup3_cases (S := S) p st.serverPub
          hdr.sessionId hdr.seq payload pk.flush
        · simp only [hr]
          exact herr _ ⟨rfl, rfl, rfl⟩ e
        · simp only [hr]
          obtain ⟨hu, hty⟩ := conclude_error
            { st with registry := saveRecord st.registry (some (p.deviceId, p.record)) } hdr pk
            (.err e)
          exact .setup3Unsaved hp ht hl hck hu.registry hu.auth hu.setup hty
        · simp only [hr]
          exact .setup3 hp ht hl hck rfl rfl rfl
  split
  next ht =>
    unfold dispatchAuth1
    obtain ⟨e, hr⟩ | ⟨key, p, -, -, ha, hr⟩ := handleAuth1_cases (S := S) pk.serverSk
      (pk.iterate st.registry.records) st.replay defaultAllowedRoles hdr.sessionId hdr.seq payload
      pk.auth
    · simp only [hr]
      exact herr _ ⟨rfl, rfl, rfl⟩ e
    · simp only [hr]
      have hty : pktTypeOf p.responsePacket = pktAuth2 := by
        obtain ⟨a1, sk, deviceId, rec, -, -, -, -, hpair⟩ := auth1Accept_eq_ok_iff.mp ha
        cases hpair
        rfl
      exact .auth1 hp ht hty rfl rfl rfl
  split
  next ht =>
    unfold dispatchAuth3
    cases hl : st.authSessions.lookup hdr.sessionId with
    | none => exact herr st hsame _
    | some p =>
        cases hr : handleAuth3 p hdr.sessionId hdr.seq payload with
        | error e =>
            simp only [hr]
            exact herr st hsame e
        | ok pkt =>
            simp only [hr]
            obtain ⟨hpay, rfl⟩ := handleAuth3_eq_ok_iff.mp hr
            exact .auth3 hp ht hl hpay rfl rfl rfl
  next => exact herr st hsame _

/-- What `dispatch_packet` does is on the list. -/
theorem dispatchPacket_served (st : ServerState Addr G) (pk : Packet Addr q G) :
    Served S st pk (dispatchPacket S st pk).1 (dispatchPacket S st pk).2 := by
  unfold dispatchPacket
  split
  next => exact .other ⟨rfl, rfl, rfl⟩ nofun
  next hdr payload hp =>
    split
    next => exact .other ⟨rfl, rfl, rfl⟩ nofun
    next => exact respond_served st pk hp

omit [DecidableEq Addr] in
/-- No handler touches the public key of the server. -/
theorem respond_serverPub (st : ServerState Addr G) (hdr : Header) (payload : List UInt8)
    (pk : Packet Addr q G) : (respond S st hdr payload pk).1.serverPub = st.serverPub := by
  unfold respond dispatchSetup1 dispatchSetup3 dispatchAuth1 dispatchAuth3
  split
  next => split <;> rfl
  split
  next =>
    split
    next => rfl
    next =>
      dsimp only
      split <;> rfl
  split
  next =>
    dsimp only
    split <;> rfl
  split
  next =>
    split
    next => rfl
    next => split <;> rfl
  next => rfl

theorem dispatchPacket_serverPub (st : ServerState Addr G) (pk : Packet Addr q G) :
    (dispatchPacket S st pk).1.serverPub = st.serverPub := by
  unfold dispatchPacket conclude
  split
  next => rfl
  next hdr payload _ =>
    split
    next => rfl
    next =>
      have hpub := respond_serverPub (S := S) st hdr payload pk
      dsimp only
      split <;> exact hpub

/-! ## Collection -/

/-- Eviction only forgets. -/
theorem lookup_evict {α β : Type} [DecidableEq α] {pick : ℕ → ℕ} {n : ℕ} {m : Map α β} {k : α}
    {v : β} (h : (evict pick n m).lookup k = some v) : m.lookup k = some v := by
  induction n generalizing m with
  | zero => exact h
  | succ n ih =>
      unfold evict at h
      split at h
      next k' hk' =>
        have h1 := ih h
        by_cases hkk : k = k'
        · subst hkk
          rw [AList.lookup_erase] at h1
          cases h1
        · rwa [AList.lookup_erase_ne hkk] at h1
      next => exact h

/-- A collection keeps the registry and may forget sessions. -/
structure Collected (st st' : ServerState Addr G) : Prop where
  registry : st'.registry = st.registry
  setup : ∀ sid p, st'.setupSessions.lookup sid = some p → st.setupSessions.lookup sid = some p
  auth : ∀ sid p, st'.authSessions.lookup sid = some p → st.authSessions.lookup sid = some p

omit [DecidableEq Addr] [AddCommGroup G] [DecidableEq G] in
theorem gcIfDue_collected (st : ServerState Addr G) (now : ℕ) (pickSetup pickAuth : ℕ → ℕ) :
    Collected st (gcIfDue st now pickSetup pickAuth) := by
  unfold gcIfDue
  split
  next => exact ⟨rfl, fun _ _ h => h, fun _ _ h => h⟩
  next => exact ⟨rfl, fun _ _ h => lookup_evict h, fun _ _ h => lookup_evict h⟩

/-! ## Runs -/

/-- An operation of the server. -/
inductive ServerOp (Addr : Type) (q : ℕ) (G : Type) where
  | packet (pk : Packet Addr q G)
  | gc (now : ℕ) (pickSetup pickAuth : ℕ → ℕ)

/-- What an operation ends with: the state it meets, the reply to a packet, and the state it
leaves. -/
structure Outcome (Addr G : Type) where
  before : ServerState Addr G
  reply : Option Reply
  after : ServerState Addr G

/-- An answered operation. -/
abbrev Entry (Addr : Type) (q : ℕ) (G : Type) := ServerOp Addr q G × Outcome Addr G

/-- One operation. -/
def serverStep (S : Suite q G) (st : ServerState Addr G) :
    ServerOp Addr q G → ServerState Addr G × Outcome Addr G
  | .packet pk =>
      let r := dispatchPacket S st pk
      (r.1, ⟨st, some r.2, r.1⟩)
  | .gc now pickSetup pickAuth =>
      let st' := gcIfDue st now pickSetup pickAuth
      (st', ⟨st, none, st'⟩)

/-- A server without sessions and cached responses. -/
def ServerState.start (profile : Profile) (serverPub : G) (registry : Registry G)
    (replay : MemoryReplayCache) (token : Option (List UInt8)) (now : ℕ) : ServerState Addr G :=
  ⟨profile, serverPub, registry, ∅, ∅, ∅, replay, token, now⟩

/-- The server that starts in a state. -/
def server (S : Suite q G) (st : ServerState Addr G) :
    Machine (ServerState Addr G) (ServerOp Addr q G) (Outcome Addr G) where
  init := fun s => s = st
  step := serverStep S

/-- The header and payload of a packet that was answered freshly, and the response. -/
def freshReply (e : Entry Addr q G) : Option (Header × List UInt8 × List UInt8) :=
  match e.1, e.2.reply with
  | .packet pk, some (.fresh pkt) =>
      match parsePacket pk.bytes with
      | .ok (hdr, payload) => some (hdr, payload, pkt)
      | .error _ => none
  | _, _ => none

omit [DecidableEq Addr] [AddCommGroup G] [Module (ZMod q) G] [DecidableEq G] in
theorem freshReply_packet {pk : Packet Addr q G} {hdr : Header} {payload pkt : List UInt8}
    {before after : ServerState Addr G} (hp : parsePacket pk.bytes = .ok (hdr, payload)) :
    freshReply (.packet pk, ⟨before, some (.fresh pkt), after⟩) = some (hdr, payload, pkt) := by
  simp only [freshReply, hp]

omit [DecidableEq Addr] [AddCommGroup G] [Module (ZMod q) G] [DecidableEq G] in
/-- A fresh answer is the reply of its entry. -/
theorem reply_of_freshReply {pk : Packet Addr q G} {reply : Reply}
    {before after : ServerState Addr G} {hdr : Header} {payload pkt : List UInt8}
    (h : freshReply (.packet pk, ⟨before, some reply, after⟩) = some (hdr, payload, pkt)) :
    reply = .fresh pkt := by
  unfold freshReply at h
  split at h
  next pk' pkt' hpk hreply =>
    simp only [Option.some.injEq] at hreply
    split at h
    next =>
      simp only [Option.some.injEq, Prod.mk.injEq] at h
      rw [hreply, h.2.2]
    next => cases h
  next => cases h

end ZkArche.Rust
