import ZkArche.Server.EnrollmentAtomicity

/-!
# The response cache of the Rust server

A response is cached under the session identifier and the sequence number of its packet, and
is sent again to the peer it was sent to first.  A packet with the same key from another peer
is not answered out of the cache, and its response takes the place of the cached one.

As long as that does not happen and no collection lets the response expire, a packet that is
sent again gets the response it got, and nothing else happens (`retransmit_idempotent`).
-/

namespace ZkArche.Rust

variable {Addr : Type} [DecidableEq Addr] {q : ℕ} {G : Type} [AddCommGroup G]
  [Module (ZMod q) G] [DecidableEq G]

/-- The key of the cached response to a packet. -/
def cacheKey (hdr : Header) : SessionId × UInt32 := (hdr.sessionId, hdr.seq)

omit [DecidableEq Addr] [AddCommGroup G] [DecidableEq G] in
/-- The response is cached for the peer. -/
def Remembers (st : ServerState Addr G) (key : SessionId × UInt32) (peer : Addr)
    (response : List UInt8) : Prop :=
  ∃ t, st.responseCache.lookup key = some ⟨peer, response, t⟩

/-- The operation neither sends a packet with the key from another peer, nor lets the response
under the key expire. -/
def Undisturbed (key : SessionId × UInt32) (peer : Addr) (st : ServerState Addr G) :
    ServerOp Addr q G → Prop
  | .packet pk => ∀ hdr payload, parsePacket pk.bytes = .ok (hdr, payload) →
      cacheKey hdr = key → pk.peer = peer
  | .gc now _ _ => ∀ c, st.responseCache.lookup key = some c →
      now - st.lastGc < 5 * 10 ^ 9 ∨ now - c.createdAt ≤ st.profile.sessionTtl

variable {S : Suite q G} {st : ServerState Addr G} {key : SessionId × UInt32} {peer : Addr}
  {response : List UInt8}

omit [AddCommGroup G] [DecidableEq G] in
theorem cachedFor_eq_some_iff {hdr : Header} :
    cachedFor st hdr peer = some response ↔ Remembers st (cacheKey hdr) peer response := by
  unfold cachedFor Remembers cacheKey
  cases hl : st.responseCache.lookup (hdr.sessionId, hdr.seq) with
  | none => simp
  | some c =>
      obtain ⟨p, pkt, t⟩ := c
      simp only [Option.ite_none_right_eq_some, Option.some.injEq, CachedResponse.mk.injEq]
      constructor
      · rintro ⟨rfl, rfl⟩
        exact ⟨t, rfl, rfl, rfl⟩
      · rintro ⟨-, rfl, rfl, -⟩
        exact ⟨rfl, rfl⟩

omit [DecidableEq Addr] [AddCommGroup G] [DecidableEq G] in
/-- The response cache, the limits and the time of the last collection are the same. -/
structure Framed (st st' : ServerState Addr G) : Prop where
  responseCache : st'.responseCache = st.responseCache
  profile : st'.profile = st.profile
  lastGc : st'.lastGc = st.lastGc

omit [DecidableEq Addr] in
/-- What no handler touches. -/
theorem respond_framed (st : ServerState Addr G) (hdr : Header) (payload : List UInt8)
    (pk : Packet Addr q G) : Framed st (respond S st hdr payload pk).1 := by
  unfold respond
  split
  next =>
    unfold dispatchSetup1
    split <;> exact ⟨rfl, rfl, rfl⟩
  split
  next =>
    unfold dispatchSetup3
    split
    next => exact ⟨rfl, rfl, rfl⟩
    next =>
      dsimp only
      split <;> exact ⟨rfl, rfl, rfl⟩
  split
  next =>
    unfold dispatchAuth1
    dsimp only
    split <;> exact ⟨rfl, rfl, rfl⟩
  split
  next =>
    unfold dispatchAuth3
    split
    next => exact ⟨rfl, rfl, rfl⟩
    next => split <;> exact ⟨rfl, rfl, rfl⟩
  next => exact ⟨rfl, rfl, rfl⟩

/-- A packet leaves the cache, or puts its response under its key. -/
theorem dispatchPacket_responseCache (st : ServerState Addr G) (pk : Packet Addr q G) :
    ((dispatchPacket S st pk).1.responseCache = st.responseCache ∧
      ∀ pkt, (dispatchPacket S st pk).2 ≠ .fresh pkt) ∨
    ∃ hdr payload pkt, parsePacket pk.bytes = .ok (hdr, payload) ∧
      cachedFor st hdr pk.peer = none ∧ (dispatchPacket S st pk).2 = .fresh pkt ∧
      (dispatchPacket S st pk).1.responseCache
        = st.responseCache.insert (cacheKey hdr) ⟨pk.peer, pkt, pk.now⟩ := by
  unfold dispatchPacket
  cases hp : parsePacket pk.bytes with
  | error e => exact .inl ⟨rfl, fun _ h => by cases h⟩
  | ok v =>
      obtain ⟨hdr, payload⟩ := v
      cases hc : cachedFor st hdr pk.peer with
      | some pkt =>
          simp only [hc]
          exact .inl ⟨trivial, fun _ h => by cases h⟩
      | none =>
          simp only [hc]
          unfold conclude
          cases hr : responseOf hdr (respond S st hdr payload pk).2 with
          | error stop =>
              exact .inl ⟨(respond_framed st hdr payload pk).responseCache, fun _ h => by cases h⟩
          | ok pkt =>
              refine .inr ⟨hdr, payload, pkt, rfl, hc, rfl, ?_⟩
              exact congrArg (fun m : Map _ _ => m.insert (cacheKey hdr) ⟨pk.peer, pkt, pk.now⟩)
                (respond_framed st hdr payload pk).responseCache

/-- No packet changes the limits or the time of the last collection. -/
theorem dispatchPacket_limits (st : ServerState Addr G) (pk : Packet Addr q G) :
    (dispatchPacket S st pk).1.profile = st.profile ∧
      (dispatchPacket S st pk).1.lastGc = st.lastGc := by
  unfold dispatchPacket
  split
  next => exact ⟨rfl, rfl⟩
  next hdr payload _ =>
    split
    next => exact ⟨rfl, rfl⟩
    next =>
      have hf := respond_framed (S := S) st hdr payload pk
      unfold conclude
      dsimp only
      split
      next => exact ⟨hf.profile, hf.lastGc⟩
      next => exact ⟨hf.profile, hf.lastGc⟩

/-- A packet whose response is cached for its peer is answered with it. -/
theorem dispatchPacket_of_remembers {pk : Packet Addr q G} {hdr : Header} {payload : List UInt8}
    (hp : parsePacket pk.bytes = .ok (hdr, payload))
    (h : Remembers st (cacheKey hdr) pk.peer response) :
    dispatchPacket S st pk = (st, .cached response) := by
  simp only [dispatchPacket, hp, cachedFor_eq_some_iff.mpr h]

/-- An answered packet is remembered. -/
theorem remembers_of_sent {pk : Packet Addr q G} {hdr : Header} {payload : List UInt8}
    (hp : parsePacket pk.bytes = .ok (hdr, payload))
    (hr : (dispatchPacket S st pk).2.sent = some response) :
    Remembers (dispatchPacket S st pk).1 (cacheKey hdr) pk.peer response := by
  cases hc : cachedFor st hdr pk.peer with
  | some pkt =>
      have hrem := cachedFor_eq_some_iff.mp hc
      rw [dispatchPacket_of_remembers hp hrem] at hr ⊢
      cases hr
      exact hrem
  | none =>
      obtain ⟨-, hno⟩ | ⟨hdr', payload', pkt, hp', -, hfresh, hcache⟩ :=
        dispatchPacket_responseCache (S := S) st pk
      · -- without a cached response, what is sent is fresh
        exfalso
        simp only [dispatchPacket, hp, hc] at hr hno
        cases hreply : (conclude (respond S st hdr payload pk).1 hdr pk
            (respond S st hdr payload pk).2).2 with
        | fresh pkt => exact hno pkt hreply
        | dropped =>
            rw [hreply] at hr
            cases hr
        | panicked stop =>
            rw [hreply] at hr
            cases hr
        | cached pkt =>
            unfold conclude at hreply
            split at hreply <;> cases hreply
      · rw [hp] at hp'
        cases hp'
        rw [hfresh] at hr
        cases hr
        exact ⟨pk.now, by rw [hcache, AList.lookup_insert]⟩

theorem lookup_retain {α β : Type} [DecidableEq α] {keep : β → Bool} {m : Map α β} {k : α} {v : β}
    (h : m.lookup k = some v) (hv : keep v = true) : (retain keep m).lookup k = some v := by
  have hm : Sigma.mk k v ∈ m.entries := AList.mem_lookup_iff.mp h
  exact AList.mem_lookup_iff.mpr (List.mem_filter.mpr ⟨hm, hv⟩)

/-- An undisturbed response stays. -/
theorem Remembers.step {op : ServerOp Addr q G} (h : Remembers st key peer response)
    (hu : Undisturbed key peer st op) : Remembers (serverStep S st op).1 key peer response := by
  obtain ⟨t, hl⟩ := h
  cases op with
  | packet pk =>
      obtain ⟨hcache, -⟩ | ⟨hdr, payload, pkt, hp, hc, -, hcache⟩ :=
        dispatchPacket_responseCache (S := S) st pk
      · exact ⟨t, by rw [serverStep, hcache, hl]⟩
      · have hne : key ≠ cacheKey hdr := by
          rintro rfl
          have hpeer := hu hdr payload hp rfl
          have hrem : Remembers st (cacheKey hdr) pk.peer response := ⟨t, by rw [hl, hpeer]⟩
          rw [cachedFor_eq_some_iff.mpr hrem] at hc
          cases hc
        exact ⟨t, by rw [serverStep, hcache, AList.lookup_insert_ne hne, hl]⟩
  | gc now pickSetup pickAuth =>
      refine ⟨t, ?_⟩
      rw [serverStep]
      unfold gcIfDue
      split
      next => exact hl
      next hdue =>
        have hkeep := (hu _ hl).resolve_left hdue
        exact lookup_retain hl (decide_eq_true hkeep)

/-- A packet that is sent again, after any undisturbed operations, is answered with the response
it got and changes nothing. -/
theorem retransmit_idempotent (S : Suite q G) (st : ServerState Addr G) (pk : Packet Addr q G)
    {hdr : Header} {payload response : List UInt8} (hp : parsePacket pk.bytes = .ok (hdr, payload))
    (hr : (dispatchPacket S st pk).2.sent = some response) {h : List (Entry Addr q G)}
    {st' : ServerState Addr G}
    (hrun : (server S (dispatchPacket S st pk).1).Run
      (fun _ s op => Undisturbed (cacheKey hdr) pk.peer s op) h st')
    (pk' : Packet Addr q G) (hpeer : pk'.peer = pk.peer) (hbytes : pk'.bytes = pk.bytes) :
    dispatchPacket S st' pk' = (st', .cached response) := by
  have hrem : Remembers st' (cacheKey hdr) pk.peer response := by
    refine hrun.invariant (P := fun _ s => Remembers s (cacheKey hdr) pk.peer response) ?_ ?_
    · rintro _ rfl
      exact remembers_of_sent hp hr
    · intro h s op _ hu hs
      exact hs.step hu
  apply dispatchPacket_of_remembers (by rw [hbytes, hp])
  rw [hpeer]
  exact hrem

/-! ## Another peer with the same key -/

/-- A packet from one of two peers. -/
def demoFrom (peer : Bool) (bytes : List UInt8) (nonce : UInt8) : Packet Bool 11 (ZMod 11) :=
  ⟨peer, bytes, 0, .ok demoServerKey, .ok (), id, demoOrder,
    ⟨byteString 31 nonce, byteString 31 6, byteString 63 2⟩,
    ⟨byteString 31 8, byteString 63 4, byteString 63 2⟩⟩

/-- A server with two peers that has just started. -/
def demoPeers : ServerState Bool (ZMod 11) :=
  .start ⟨300, 1024, 2048⟩ demoServerKey ∅ (MemoryReplayCache.new 4) none 0

/-- The server after a SETUP_1 of one peer and a packet of the other. -/
def demoAfter (bytes : List UInt8) : ServerState Bool (ZMod 11) :=
  (dispatchPacket smallSuite
    (dispatchPacket smallSuite demoPeers (demoFrom true C.demoSetup1.input 8)).1
    (demoFrom false bytes 8)).1

/-- A packet of the other peer with another sequence number does not disturb the response. -/
theorem retransmit_idempotent_other_key :
    ∃ response,
      (dispatchPacket smallSuite demoPeers (demoFrom true C.demoSetup1.input 8)).2.sent
        = some response ∧
      dispatchPacket smallSuite (demoAfter (frame pktSetup3 (byteString 15 7) 2 []))
          (demoFrom true C.demoSetup1.input 9)
        = (demoAfter (frame pktSetup3 (byteString 15 7) 2 []), .cached response) := by
  have hsome : (dispatchPacket smallSuite demoPeers
      (demoFrom true C.demoSetup1.input 8)).2.sent.isSome = true := by decide +kernel
  obtain ⟨response, hr⟩ := Option.isSome_iff_exists.mp hsome
  have hp : parsePacket (demoFrom true C.demoSetup1.input 8).bytes
      = .ok (Header.fresh pktSetup1 (byteString 15 7) 1, _) := parsePacket_frame ..
  have hu : ∀ s : ServerState Bool (ZMod 11), Undisturbed
      (cacheKey (Header.fresh pktSetup1 (byteString 15 7) 1)) true s
      (.packet (demoFrom false (frame pktSetup3 (byteString 15 7) 2 []) 8)) := by
    intro s hdr payload hp' hkey
    have hd : parsePacket (frame pktSetup3 (byteString 15 7) 2 []) = .ok (hdr, payload) := hp'
    rw [parsePacket_frame] at hd
    cases hd
    cases hkey
  refine ⟨response, hr, ?_⟩
  unfold demoAfter
  generalize hst : (dispatchPacket smallSuite demoPeers (demoFrom true C.demoSetup1.input 8)).1 = st
  have hrun : (server smallSuite st).Run (fun _ s op => Undisturbed
      (cacheKey (Header.fresh pktSetup1 (byteString 15 7) 1)) true s op) [(.packet _, _)]
      (dispatchPacket smallSuite st (demoFrom false (frame pktSetup3 (byteString 15 7) 2 []) 8)).1 :=
    .step (ServerOp.packet _) (.init rfl) (hu st)
  rw [← hst] at hrun ⊢
  exact retransmit_idempotent smallSuite demoPeers _ hp hr hrun _ rfl rfl

/-- The other peer sends a copy of the SETUP_1.  When the first peer sends it again, it gets
another response, and its session is replaced. -/
theorem retransmit_idempotent_fails :
    (dispatchPacket smallSuite (demoAfter C.demoSetup1.input)
        (demoFrom true C.demoSetup1.input 9)).2.sent
      ≠ (dispatchPacket smallSuite demoPeers (demoFrom true C.demoSetup1.input 8)).2.sent ∧
    ((dispatchPacket smallSuite (demoAfter C.demoSetup1.input)
        (demoFrom true C.demoSetup1.input 9)).1.setupSessions.lookup (byteString 15 7)).map
        PendingSetup.serverNonce
      ≠ ((demoAfter C.demoSetup1.input).setupSessions.lookup (byteString 15 7)).map
        PendingSetup.serverNonce := by
  decide +kernel

end ZkArche.Rust
