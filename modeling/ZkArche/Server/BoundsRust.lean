import ZkArche.Server.CacheRust

/-!
# Resource bounds of the Rust server

The limits of the profile are applied by `gc_if_due` only, at most every five seconds.  A
collection brings both session maps down to `max_active_sessions` and drops the responses
older than `session_ttl`.  Until the next one, every packet may add a session and a response.

So the session maps exceed their limit by at most the number of packets since the last
collection, and there are at most as many responses as packets that were not older than
`session_ttl` at the last collection (`resource_bounds`).  No collection looks at
`max_cached_responses` or at the age of a session.
-/

namespace ZkArche.Rust

/-! ## Sizes of maps -/

section

variable {α β : Type} [DecidableEq α]

theorem len_erase_le (m : Map α β) (k : α) : len (m.erase k) ≤ len m :=
  (List.kerase_sublist k m.entries).length_le

theorem len_insert_le (m : Map α β) (k : α) (v : β) : len (m.insert k v) ≤ len m + 1 := by
  rw [len, AList.entries_insert, List.length_cons]
  exact Nat.add_le_add_right (len_erase_le m k) 1

theorem len_erase_of_mem {m : Map α β} {k : α} (h : k ∈ m.keys) :
    len (m.erase k) = len m - 1 := by
  obtain ⟨v, hv⟩ := List.exists_of_mem_keys h
  exact List.length_eraseP_of_mem hv (decide_eq_true rfl)

/-- Eviction removes as many entries as it is told to. -/
theorem len_evict (pick : ℕ → ℕ) (n : ℕ) (m : Map α β) : len (evict pick n m) = len m - n := by
  induction n generalizing m with
  | zero => rfl
  | succ n ih =>
      have hkeys : m.keys.length = len m := List.length_map ..
      unfold evict
      split
      next k hk =>
        rw [ih, len_erase_of_mem (List.mem_of_getElem? hk)]
        omega
      next hk =>
        -- the index is out of range only when the map is empty
        rw [List.getElem?_eq_none_iff, hkeys] at hk
        have hempty : len m = 0 := by
          by_contra hpos
          exact absurd (Nat.mod_lt (pick (len m)) (Nat.pos_of_ne_zero hpos)) (Nat.not_lt.mpr hk)
        omega

end

/-! ## Histories -/

variable {Addr : Type} {q : ℕ} {G : Type}

/-- The clock when an operation starts. -/
def ServerOp.time : ServerOp Addr q G → ℕ
  | .packet pk => pk.now
  | .gc now _ _ => now

/-- The times of the packets, newest first. -/
def packetTimes (h : List (Entry Addr q G)) : List ℕ :=
  h.filterMap fun e =>
    match e.1 with
    | .packet pk => some pk.now
    | .gc .. => none

/-- The number of packets since the last collection that was due. -/
def sinceCollection : List (Entry Addr q G) → ℕ
  | [] => 0
  | (.packet _, _) :: h => sinceCollection h + 1
  | (.gc now _ _, out) :: h =>
      if now - out.before.lastGc < 5 * 10 ^ 9 then sinceCollection h else 0

/-- The times at which the cached responses were sent. -/
def responseTimes (st : ServerState Addr G) : List ℕ :=
  st.responseCache.entries.map fun e => e.2.createdAt

/-- The session maps are within the limit and the packets since the last collection, every
response was sent to a packet, and no response was older than the limit at the last
collection. -/
structure Bounded (profile : Profile) (h : List (Entry Addr q G)) (st : ServerState Addr G) :
    Prop where
  limits : st.profile = profile
  setup : len st.setupSessions ≤ profile.maxActiveSessions + sinceCollection h
  auth : len st.authSessions ≤ profile.maxActiveSessions + sinceCollection h
  sent : (responseTimes st).Sublist (packetTimes h)
  recent : ∀ t ∈ responseTimes st, st.lastGc - t ≤ profile.sessionTtl

variable [DecidableEq Addr] [AddCommGroup G] [Module (ZMod q) G] [DecidableEq G]

/-- A packet adds at most one session to each map. -/
theorem dispatchPacket_sessions {S : Suite q G} (st : ServerState Addr G) (pk : Packet Addr q G) :
    len (dispatchPacket S st pk).1.setupSessions ≤ len st.setupSessions + 1 ∧
    len (dispatchPacket S st pk).1.authSessions ≤ len st.authSessions + 1 := by
  have hserved := dispatchPacket_served (S := S) st pk
  generalize (dispatchPacket S st pk).1 = st' at hserved ⊢
  generalize (dispatchPacket S st pk).2 = reply at hserved
  cases hserved with
  | other hu _ =>
      rw [hu.setup, hu.auth]
      exact ⟨Nat.le_succ _, Nat.le_succ _⟩
  | setup1 _ _ _ _ _ ha hs =>
      rw [hs, ha]
      exact ⟨len_insert_le _ _ _, Nat.le_succ _⟩
  | setup3 _ _ _ _ _ ha hs =>
      rw [hs, ha]
      exact ⟨(len_erase_le _ _).trans (Nat.le_succ _), Nat.le_succ _⟩
  | setup3Unsaved _ _ _ _ _ ha hs _ =>
      rw [hs, ha]
      exact ⟨Nat.le_succ _, Nat.le_succ _⟩
  | auth1 _ _ _ _ hs ha =>
      rw [hs, ha]
      exact ⟨Nat.le_succ _, len_insert_le _ _ _⟩
  | auth3 _ _ _ _ _ hs ha =>
      rw [hs, ha]
      exact ⟨Nat.le_succ _, (len_erase_le _ _).trans (Nat.le_succ _)⟩

/-- A packet keeps the bounds, when the clock is not behind the last collection. -/
theorem Bounded.packet {S : Suite q G} {profile : Profile} {h : List (Entry Addr q G)}
    {st : ServerState Addr G} (hb : Bounded profile h st) {pk : Packet Addr q G}
    (hclock : st.lastGc ≤ pk.now) :
    Bounded profile ((.packet pk, (serverStep S st (.packet pk)).2) :: h)
      (dispatchPacket S st pk).1 := by
  obtain ⟨hprofile, hgc⟩ := dispatchPacket_limits (S := S) st pk
  obtain ⟨hsetup, hauth⟩ := dispatchPacket_sessions (S := S) st pk
  have hs := hb.setup
  have ha := hb.auth
  -- a response that is added was sent to this packet
  have htimes : (responseTimes (dispatchPacket S st pk).1).Sublist (pk.now :: responseTimes st) := by
    unfold responseTimes
    obtain ⟨hcache, -⟩ | ⟨hdr, payload, pkt, -, -, -, hcache⟩ :=
      dispatchPacket_responseCache (S := S) st pk
    · rw [hcache]
      exact .cons _ (.refl _)
    · rw [hcache, AList.entries_insert, List.map_cons]
      exact .cons_cons _ ((List.kerase_sublist _ _).map _)
  refine ⟨hprofile.trans hb.limits, ?_, ?_, htimes.trans (.cons_cons _ hb.sent), ?_⟩
  · rw [sinceCollection]
    omega
  · rw [sinceCollection]
    omega
  · intro t ht
    rw [hgc]
    rcases List.mem_cons.mp (htimes.subset ht) with rfl | ht
    · omega
    · exact hb.recent t ht

/-- A collection keeps the bounds. -/
theorem Bounded.gc {S : Suite q G} {profile : Profile} {h : List (Entry Addr q G)}
    {st : ServerState Addr G} (hb : Bounded profile h st) (now : ℕ) (pickSetup pickAuth : ℕ → ℕ) :
    Bounded profile ((.gc now pickSetup pickAuth,
        (serverStep S st (.gc now pickSetup pickAuth)).2) :: h)
      (gcIfDue st now pickSetup pickAuth) := by
  have hsince : sinceCollection ((ServerOp.gc now pickSetup pickAuth,
      (serverStep S st (.gc now pickSetup pickAuth)).2) :: h)
      = if now - st.lastGc < 5 * 10 ^ 9 then sinceCollection h else 0 := rfl
  have hpackets : packetTimes ((ServerOp.gc now pickSetup pickAuth,
      (serverStep S st (.gc now pickSetup pickAuth)).2) :: h) = packetTimes h := rfl
  unfold gcIfDue
  split
  next hearly =>
    rw [if_pos hearly] at hsince
    exact ⟨hb.limits, hsince ▸ hb.setup, hsince ▸ hb.auth, hpackets ▸ hb.sent, hb.recent⟩
  next hdue =>
    rw [if_neg hdue] at hsince
    refine ⟨hb.limits, ?_, ?_, ?_, ?_⟩
    · rw [hsince]
      simp only [len_evict, hb.limits]
      omega
    · rw [hsince]
      simp only [len_evict, hb.limits]
      omega
    · rw [hpackets]
      exact (List.filter_sublist.map _).trans hb.sent
    · intro t ht
      obtain ⟨e, he, rfl⟩ := List.mem_map.mp ht
      rw [← hb.limits]
      exact of_decide_eq_true (List.mem_filter.mp he).2

/-- In every run whose clock is never behind the last collection, the session maps hold at most
`max_active_sessions` entries and one for each packet since the last collection, and the
response cache holds at most one response for each packet that was not older than
`session_ttl` at the last collection. -/
theorem resource_bounds (S : Suite q G) (profile : Profile) (serverPub : G)
    (registry : Registry G) (replay : MemoryReplayCache) (token : Option (List UInt8)) (now : ℕ)
    {h : List (Entry Addr q G)} {st : ServerState Addr G}
    (hrun : (server S (.start profile serverPub registry replay token now)).Run
      (fun _ s op => s.lastGc ≤ op.time) h st) :
    len st.setupSessions ≤ profile.maxActiveSessions + sinceCollection h ∧
    len st.authSessions ≤ profile.maxActiveSessions + sinceCollection h ∧
    len st.responseCache ≤
      ((packetTimes h).filter fun t => st.lastGc - t ≤ profile.sessionTtl).length := by
  have hb : Bounded profile h st := by
    refine hrun.invariant (P := Bounded profile) ?_ ?_
    · rintro _ rfl
      exact ⟨rfl, Nat.zero_le _, Nat.zero_le _, .slnil, List.forall_mem_nil _⟩
    · intro h s op _ hclock hb
      cases op with
      | packet pk => exact hb.packet hclock
      | gc now pickSetup pickAuth => exact hb.gc (S := S) now pickSetup pickAuth
  refine ⟨hb.setup, hb.auth, ?_⟩
  have hlen : len st.responseCache
      = ((responseTimes st).filter fun t => st.lastGc - t ≤ profile.sessionTtl).length := by
    rw [List.filter_eq_self.mpr fun t ht => decide_eq_true (hb.recent t ht)]
    exact (List.length_map ..).symm
  rw [hlen]
  exact (hb.sent.filter _).length_le

/-! ## A burst between two collections -/

/-- A server that admits one session and one response, and no age at all. -/
def demoLimits : ServerState Unit (ZMod 11) :=
  .start ⟨0, 1, 1⟩ demoServerKey ∅ (MemoryReplayCache.new 4) none 0

/-- A packet that arrives at the given time. -/
def demoAt (now : ℕ) (bytes : List UInt8) : ServerOp Unit 11 (ZMod 11) :=
  .packet ⟨(), bytes, now, .ok demoServerKey, .ok (), id, demoOrder,
    ⟨byteString 31 8, byteString 31 6, byteString 63 2⟩, ⟨byteString 31 8, byteString 63 4, byteString 63 2⟩⟩

/-- The SETUP_1 of the device, in another session. -/
def demoSecond : List UInt8 :=
  frame pktSetup1 (byteString 15 9) 1
    (C.Setup1.bytes ⟨[], byteString 31 1, byteString 31 3, byteString 31 9, byteString 31 4⟩)

/-- Two SETUP_1 packets, and ten seconds later the SETUP_3 of the first. -/
def demoBurst : List (ServerOp Unit 11 (ZMod 11)) :=
  [demoAt 0 C.demoSetup1.input, demoAt 0 demoSecond, demoAt (10 ^ 10) C.demoSetup3.input]

/-- The server after the first packets of the burst. -/
def demoBurstRun (n : ℕ) : List (Entry Unit 11 (ZMod 11)) × ServerState Unit (ZMod 11) :=
  (server smallSuite demoLimits).exec [] demoLimits (demoBurst.take n)

/-- Without a collection, the clock is not behind the start. -/
theorem demoBurst_run (n : ℕ) : (server smallSuite demoLimits).Run
    (fun _ s op => s.lastGc ≤ op.time) (demoBurstRun n).1 (demoBurstRun n).2 := by
  have hpackets : ∀ (ops : List (ServerOp Unit 11 (ZMod 11))) (h : List (Entry Unit 11 (ZMod 11)))
      (s : ServerState Unit (ZMod 11)), (∀ op ∈ ops, ∃ pk, op = .packet pk) → s.lastGc = 0 →
      (server smallSuite demoLimits).Run (fun _ s op => s.lastGc ≤ op.time) h s →
      (server smallSuite demoLimits).Run (fun _ s op => s.lastGc ≤ op.time)
        ((server smallSuite demoLimits).exec h s ops).1
        ((server smallSuite demoLimits).exec h s ops).2 := by
    intro ops
    induction ops with
    | nil => exact fun _ _ _ _ r => r
    | cons op ops ih =>
        intro h s hops h0 r
        obtain ⟨pk, rfl⟩ := hops op List.mem_cons_self
        apply ih _ _ fun op' hop' => hops op' (List.mem_cons_of_mem _ hop')
        · exact (dispatchPacket_limits s pk).2.trans h0
        · exact r.step _ (h0 ▸ Nat.zero_le _)
  apply hpackets _ _ _ _ rfl (.init rfl)
  intro op hop
  have hmem := List.mem_of_mem_take hop
  simp only [demoBurst, List.mem_cons, List.not_mem_nil, or_false] at hmem
  rcases hmem with rfl | rfl | rfl
  · exact ⟨_, rfl⟩
  · exact ⟨_, rfl⟩
  · exact ⟨_, rfl⟩

/-- Two packets since the start. -/
theorem resource_bounds_burst :
    len (demoBurstRun 2).2.setupSessions ≤ 1 + sinceCollection (demoBurstRun 2).1 ∧
    sinceCollection (demoBurstRun 2).1 = 2 :=
  ⟨(resource_bounds smallSuite ⟨0, 1, 1⟩ 5 ∅ (MemoryReplayCache.new 4) none 0
    (demoBurst_run 2)).1, rfl⟩

/-- Two sessions and two responses are held where one is allowed, and a session that is older
than allowed is completed. -/
theorem resource_bounds_fail :
    ((server smallSuite demoLimits).Run (fun _ s op => s.lastGc ≤ op.time)
        (demoBurstRun 2).1 (demoBurstRun 2).2 ∧
      demoLimits.profile.maxActiveSessions < len (demoBurstRun 2).2.setupSessions ∧
      demoLimits.profile.maxCachedResponses < len (demoBurstRun 2).2.responseCache) ∧
    (server smallSuite demoLimits).Run (fun _ s op => s.lastGc ≤ op.time)
      (demoBurstRun 3).1 (demoBurstRun 3).2 ∧
    (demoBurstRun 3).1.map (fun e => (e.1.time, (e.2.reply.bind Reply.sent).map pktTypeOf))
      = [(10 ^ 10, some pktSetupAck), (0, some pktSetup2), (0, some pktSetup2)] ∧
    demoLimits.profile.sessionTtl < 10 ^ 10 - 0 := by
  refine ⟨⟨demoBurst_run 2, ?_⟩, demoBurst_run 3, ?_⟩
  · decide +kernel
  · decide +kernel

end ZkArche.Rust
