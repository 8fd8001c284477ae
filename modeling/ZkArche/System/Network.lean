import ZkArche.Lib.Dialogue
import ZkArche.Proto.ClientExchangeRust
import ZkArche.Server.EnrollmentRust
import ZkArche.Server.Interop
import ZkArche.Server.SessionsRust

/-!
# A Rust client and the Rust server over a network

The network may lose, delay, repeat and reorder packets.  It does not make any up: what the client
receives was sent to its address by the server (`Delivers`), and what reaches the server under the
session identifier of the client was sent by the client, from its address (`Conveys`).  Other
peers, and other sessions of the same peer, do as they like.  A collection may evict other
sessions, but it evicts no pending record of this one and drops no cached response of it: a
delayed copy of a request whose response is gone would be handled a second time.

A flow of the protocol is two requests with the sequence numbers 0 and 1 (`Flow`).  The response
cache makes it a dialogue.  Each request takes effect once, however many copies arrive, and what
the client receives for a request is its answer (`Flow.clear`).
-/

namespace ZkArche.Rust

variable {Addr : Type} [DecidableEq Addr] {q : ℕ} {G : Type}

/-! ## What the network may do -/

/-- What an entry sends to a peer. -/
def repliesTo (peer : Addr) (e : Entry Addr q G) : Option (List UInt8) :=
  match e.1 with
  | .packet pk => if pk.peer = peer then e.2.reply.bind Reply.sent else none
  | .gc .. => none

/-- What is delivered to the client at the address was sent to it. -/
def Delivers (peer : Addr) (e : ClientEvent G) (h : List (Entry Addr q G)) : Prop :=
  ∀ bytes, e = .received bytes → ∃ x ∈ h, repliesTo peer x = some bytes

/-- What arrives under the session identifier was sent by the client at the address.  A collection
that is due evicts no pending record of the session and finds no cached response of it expired. -/
def Conveys (peer : Addr) (sid : SessionId) (log : List (ClientEvent G))
    (st : ServerState Addr G) : ServerOp Addr q G → Prop
  | .packet pk => ∀ hdr payload, parsePacket pk.bytes = .ok (hdr, payload) → hdr.sessionId = sid →
      pk.peer = peer ∧ .sent pk.bytes ∈ log
  | .gc now pickSetup pickAuth =>
      Spares sid st (.gc now pickSetup pickAuth : ServerOp Addr q G)

/-! ## What a session hears -/

/-- The reply to a packet of the session. -/
def saidIn (sid : SessionId) (e : Entry Addr q G) : Option (List UInt8) :=
  match packetOf e with
  | some (hdr, _) => if hdr.sessionId = sid then e.2.reply.bind Reply.sent else none
  | none => none

/-- The response that was computed for a packet of the session. -/
def freshIn (sid : SessionId) (e : Entry Addr q G) : Option (List UInt8) :=
  match freshReply e with
  | some (hdr, _, packet) => if hdr.sessionId = sid then some packet else none
  | none => none

variable {sid : SessionId} {pk : Packet Addr q G} {hdr : Header} {payload : List UInt8}
  {before after : ServerState Addr G} {reply : Reply}

omit [DecidableEq Addr] in
/-- A packet of the session. -/
theorem saidIn_packet (hp : parsePacket pk.bytes = .ok (hdr, payload)) (hsid : hdr.sessionId = sid) :
    saidIn sid (.packet pk, ⟨before, some reply, after⟩) = reply.sent := by
  have hpacket := packetOf_eq_some_iff (o := ⟨before, some reply, after⟩).mpr hp
  simp only [saidIn, hpacket, hsid, if_true]
  rfl

omit [DecidableEq Addr] in
theorem freshIn_packet (hp : parsePacket pk.bytes = .ok (hdr, payload)) (hsid : hdr.sessionId = sid)
    (packet : List UInt8) :
    freshIn sid (.packet pk, ⟨before, some (.fresh packet), after⟩) = some packet := by
  simp only [freshIn, freshReply_packet hp, hsid, if_true]

omit [DecidableEq Addr] in
/-- A response out of the cache is not computed. -/
theorem freshIn_cached (packet : List UInt8) :
    freshIn sid (.packet pk, ⟨before, some (.cached packet), after⟩) = none := by
  unfold freshIn
  split
  next hf => cases reply_of_freshReply hf
  next => rfl

omit [DecidableEq Addr] in
/-- A packet of another session. -/
theorem quiet_of_other (hne : ∀ hdr payload, parsePacket pk.bytes = .ok (hdr, payload) →
    hdr.sessionId ≠ sid) :
    saidIn sid (.packet pk, ⟨before, some reply, after⟩) = none ∧
      freshIn sid (.packet pk, ⟨before, some reply, after⟩) = none := by
  constructor
  · unfold saidIn
    split
    next hp => exact if_neg (hne _ _ (packetOf_eq_some_iff.mp hp))
    next => rfl
  · unfold freshIn
    split
    next hf => exact if_neg (hne _ _ (packetOf_eq_some_iff.mp (packetOf_of_freshReply hf)))
    next => rfl

/-- What is sent to a peer is labelled, and said in the session of its label. -/
theorem saidIn_of_repliesTo {peer : Addr} {x : Entry Addr q G} {bytes : List UInt8}
    (hx : ReplyLabelled x) (h : repliesTo peer x = some bytes) :
    ∃ key, Labelled key bytes ∧ saidIn key.1 x = some bytes := by
  obtain ⟨op, before, reply, after⟩ := x
  cases op with
  | gc now pickSetup pickAuth => cases h
  | packet pk =>
      obtain ⟨-, h⟩ := Option.ite_none_right_eq_some.mp h
      obtain ⟨r, rfl, hsent⟩ := Option.bind_eq_some_iff.mp h
      obtain ⟨hdr, payload, hp, hl⟩ := hx pk r bytes rfl rfl hsent
      exact ⟨cacheKey hdr, hl, (saidIn_packet hp rfl).trans hsent⟩

/-- A packet has one label. -/
theorem Labelled.unique {key key' : SessionId × UInt32} {bytes : List UInt8}
    (h : Labelled key bytes) (h' : Labelled key' bytes) : key = key' := by
  obtain ⟨sid, seq⟩ := key
  obtain ⟨sid', seq'⟩ := key'
  obtain ⟨ty, p, rfl⟩ := h
  obtain ⟨ty', p', heq⟩ := h'
  have hp := parsePacket_frame ty sid seq p
  rw [heq, parsePacket_frame] at hp
  cases hp
  rfl

/-! ## Flows -/

/-- The sequence number of a request. -/
def seqOf (k : ℕ) : UInt32 := UInt32.ofNat k

theorem seqOf_inj {j k : ℕ} (hj : j < 2) (hk : k < 2) (h : seqOf j = seqOf k) : j = k := by
  have hnat := congrArg UInt32.toNat h
  simp only [seqOf, UInt32.toNat_ofNat'] at hnat
  omega

variable [AddCommGroup G] [Module (ZMod q) G] [DecidableEq G]

/-- A flow of two requests, under what the network and the server do.  Between the requests the
server keeps a pending record. -/
structure Flow (S : Suite q G) (st₀ : ServerState Addr G) (peer : Addr) (sid : SessionId)
    (ok : List (ClientEvent G) → ServerState Addr G → ServerOp Addr q G → Prop) where
  request : ℕ → List UInt8
  answer : ℕ → List UInt8
  Pending : ServerState Addr G → Prop
  /-- What the server does when it computes an answer. -/
  Effect : ℕ → ServerState Addr G → ServerState Addr G → Prop
  request_parses : ∀ k < 2, ∃ hdr payload, parsePacket (request k) = .ok (hdr, payload) ∧
    cacheKey hdr = (sid, seqOf k)
  answer_labelled : ∀ k < 2, Labelled (sid, seqOf k) (answer k)
  conveys : ∀ log st op, ok log st op → Conveys peer sid log st op
  pending_same : ∀ st st', SameSession sid st st' → Pending st → Pending st'
  /-- The server starts with a labelled cache and no response for the session. -/
  labelled : CacheLabelled st₀
  unused : ∀ seq, st₀.responseCache.lookup (sid, seq) = none
  /-- The first request, when it is not answered yet. -/
  first : ∀ log st pk, ok log st (.packet pk) → pk.bytes = request 0 → pk.peer = peer →
    (∀ hdr payload, parsePacket pk.bytes = .ok (hdr, payload) → cachedFor st hdr peer = none) →
    (dispatchPacket S st pk).2 = .fresh (answer 0) ∧ Pending (dispatchPacket S st pk).1 ∧
      Effect 0 st (dispatchPacket S st pk).1
  /-- The second request, when the first is answered and it is not. -/
  second : ∀ log st pk, ok log st (.packet pk) → pk.bytes = request 1 → pk.peer = peer →
    (∀ hdr payload, parsePacket pk.bytes = .ok (hdr, payload) → cachedFor st hdr peer = none) →
    Pending st → (dispatchPacket S st pk).2 = .fresh (answer 1) ∧
      Effect 1 st (dispatchPacket S st pk).1

/-- The server handles a packet. -/
theorem joint_packet {S : Suite q G} {st₀ st st' : ServerState Addr G} {peer : Addr}
    {ok : List (ClientEvent G) → ServerState Addr G → ServerOp Addr q G → Prop}
    {log : List (ClientEvent G)} {h : List (Entry Addr q G)} {r : Reply}
    (j : (server S st₀).Joint (Delivers peer) ok log h st) (hok : ok log st (.packet pk))
    (hs : (dispatchPacket S st pk).1 = st') (hr : (dispatchPacket S st pk).2 = r) :
    (server S st₀).Joint (Delivers peer) ok log ((.packet pk, ⟨st, some r, st'⟩) :: h) st' := by
  subst hs hr
  exact j.serve (.packet pk) hok

namespace Flow

variable {S : Suite q G} {st₀ : ServerState Addr G} {peer : Addr}
  {ok : List (ClientEvent G) → ServerState Addr G → ServerOp Addr q G → Prop}
  (F : Flow S st₀ peer sid ok)

/-- The first `n` answers are cached and the others are not.  After the first, its record is
pending. -/
structure Stage (n : ℕ) (st : ServerState Addr G) : Prop where
  cached : ∀ k < n, Remembers st (sid, seqOf k) peer (F.answer k)
  uncached : ∀ k, n ≤ k → k < 2 → st.responseCache.lookup (sid, seqOf k) = none
  pending : n = 1 → F.Pending st

variable {F}

theorem Stage.of_sameSession {n : ℕ} {st st' : ServerState Addr G} (h : F.Stage n st)
    (hs : SameSession sid st st') : F.Stage n st' := by
  refine ⟨fun k hk => ?_, fun k hn hk => ?_, fun hn => F.pending_same st st' hs (h.pending hn)⟩
  · obtain ⟨t, hl⟩ := h.cached k hk
    exact ⟨t, by rw [hs.responses, hl]⟩
  · rw [hs.responses, h.uncached k hn hk]

/-- A copy of an answered request. -/
theorem Stage.again {n k : ℕ} {st : ServerState Addr G} (h : F.Stage n st) (hk : k < n)
    (h2 : k < 2) {pk : Packet Addr q G} (hbytes : pk.bytes = F.request k) (hpeer : pk.peer = peer) :
    dispatchPacket S st pk = (st, .cached (F.answer k)) := by
  obtain ⟨hdr, payload, hp, hkey⟩ := F.request_parses k h2
  apply dispatchPacket_of_remembers (by rw [hbytes, hp])
  rw [hkey, hpeer]
  exact h.cached k hk

/-- The first copy of a request. -/
theorem Stage.next {n : ℕ} {log : List (ClientEvent G)} {st : ServerState Addr G}
    (h : F.Stage n st) (hn : n < 2) {pk : Packet Addr q G} (hok : ok log st (.packet pk))
    (hbytes : pk.bytes = F.request n) (hpeer : pk.peer = peer) :
    (dispatchPacket S st pk).2 = .fresh (F.answer n) ∧
      F.Stage (n + 1) (dispatchPacket S st pk).1 ∧ F.Effect n st (dispatchPacket S st pk).1 := by
  obtain ⟨hdr, payload, hp, hkey⟩ := F.request_parses n hn
  rw [← hbytes] at hp
  have hnone : ∀ hdr payload, parsePacket pk.bytes = .ok (hdr, payload) →
      cachedFor st hdr peer = none := by
    intro hdr' payload' hp'
    rw [hp] at hp'
    cases hp'
    have hl := h.uncached n le_rfl hn
    rw [← hkey] at hl
    simp only [cachedFor, cacheKey] at hl ⊢
    rw [hl]
  obtain ⟨hfresh, hpending, heffect⟩ : (dispatchPacket S st pk).2 = .fresh (F.answer n) ∧
      (n + 1 = 1 → F.Pending (dispatchPacket S st pk).1) ∧
      F.Effect n st (dispatchPacket S st pk).1 := by
    obtain rfl | rfl : n = 0 ∨ n = 1 := by omega
    · obtain ⟨hreply, hpending, heffect⟩ := F.first log st pk hok hbytes hpeer hnone
      exact ⟨hreply, fun _ => hpending, heffect⟩
    · obtain ⟨hreply, heffect⟩ := F.second log st pk hok hbytes hpeer hnone (h.pending rfl)
      exact ⟨hreply, fun hz => absurd hz (by decide), heffect⟩
  refine ⟨hfresh, ⟨fun k hk => ?_, fun k hk h2 => ?_, hpending⟩, heffect⟩
  · obtain hlt | rfl := Nat.lt_succ_iff_lt_or_eq.mp hk
    · -- another key keeps its response
      have hu : Undisturbed (sid, seqOf k) peer st (.packet pk) := fun _ _ _ _ => hpeer
      exact (h.cached k hlt).step hu
    · have hrem := remembers_of_sent hp (by rw [hfresh]; rfl : (dispatchPacket S st pk).2.sent
        = some (F.answer k))
      rwa [hkey, hpeer] at hrem
  · obtain ⟨hcache, -⟩ | ⟨hdr', payload', pkt, hp', -, -, hcache⟩ :=
      dispatchPacket_responseCache (S := S) st pk
    · rw [hcache, h.uncached k (by omega) h2]
    · rw [hp] at hp'
      cases hp'
      rw [hcache, hkey, AList.lookup_insert_ne, h.uncached k (by omega) h2]
      intro hsame
      have hseq := seqOf_inj h2 hn (congrArg Prod.snd hsame)
      omega

variable (F) in
/-- What one operation does to the flow. -/
theorem turn {log : List (ClientEvent G)} {st : ServerState Addr G} {op : ServerOp Addr q G} {n : ℕ}
    (hevents : ∀ e ∈ log, ∀ bytes, e = .sent bytes → ∃ k < 2, bytes = F.request k)
    (hok : ok log st op) (hst : F.Stage n st) :
    (∃ k, n < k ∧ k < 2 ∧ .sent (F.request k) ∈ log) ∨
    ∃ n', Machine.Turn (fun k => .sent (F.request k)) F.answer 2 log n
        (saidIn sid (op, (serverStep S st op).2)) (freshIn sid (op, (serverStep S st op).2)) n' ∧
      F.Stage n' (serverStep S st op).1 ∧
      ((freshIn sid (op, (serverStep S st op).2)).isSome →
        F.Effect n (serverStep S st op).2.before (serverStep S st op).2.after) := by
  have hconvey := F.conveys log st op hok
  cases op with
  | gc now pickSetup pickAuth =>
      exact .inr ⟨n, .foreign, hst.of_sameSession (serverStep_sameSession hconvey),
        fun hsome => absurd hsome Bool.false_ne_true⟩
  | packet pk =>
      have hstep : serverStep S st (.packet pk) = ((dispatchPacket S st pk).1,
          ⟨st, some (dispatchPacket S st pk).2, (dispatchPacket S st pk).1⟩) := rfl
      rw [hstep]
      by_cases hsession : ∃ hdr payload, parsePacket pk.bytes = .ok (hdr, payload) ∧
          hdr.sessionId = sid
      · obtain ⟨hdr, payload, hp, hsid⟩ := hsession
        obtain ⟨hpeer, hsent⟩ := hconvey hdr payload hp hsid
        obtain ⟨k, h2, hbytes⟩ := hevents _ hsent pk.bytes rfl
        obtain hlt | rfl | hgt := Nat.lt_trichotomy k n
        · have hagain := hst.again hlt h2 hbytes hpeer
          rw [saidIn_packet hp hsid, hagain, freshIn_cached]
          exact .inr ⟨n, .again hlt, hst, fun hsome => absurd hsome Bool.false_ne_true⟩
        · obtain ⟨hfresh, hnext, heffect⟩ := hst.next h2 hok hbytes hpeer
          refine .inr ⟨k + 1, ?_, hnext, fun _ => heffect⟩
          rw [saidIn_packet hp hsid, hfresh, freshIn_packet hp hsid]
          exact .next h2 (hbytes ▸ hsent)
        · exact .inl ⟨k, hgt, h2, hbytes ▸ hsent⟩
      · have hother : ∀ hdr payload, parsePacket pk.bytes = .ok (hdr, payload) →
            hdr.sessionId ≠ sid := fun hdr payload hp hsid => hsession ⟨hdr, payload, hp, hsid⟩
        rw [(quiet_of_other hother).1, (quiet_of_other hother).2]
        exact .inr ⟨n, .foreign, hst.of_sameSession (dispatchPacket_sameSession hother),
          fun hsome => absurd hsome Bool.false_ne_true⟩

variable (F) in
/-- A flow is a dialogue. -/
def dialogue : Machine.Dialogue (server S st₀) (Delivers (q := q) peer) ok (List UInt8) where
  rounds := 2
  asks := fun k => .sent (F.request k)
  hears := .received
  answer := F.answer
  event := fun e => ∀ bytes, e = .sent bytes → ∃ k < 2, bytes = F.request k
  said := saidIn sid
  fresh := freshIn sid
  Effect := fun n e => F.Effect n e.2.before e.2.after
  Stage := F.Stage
  start := by
    rintro s rfl
    exact ⟨fun k hk => absurd hk (Nat.not_lt_zero k), fun k _ _ => F.unused _, nofun⟩
  distinct := by
    intro j k hj hk heq
    have hlj := F.answer_labelled j hj
    rw [heq] at hlj
    exact seqOf_inj hj hk (congrArg Prod.snd (hlj.unique (F.answer_labelled k hk)))
  heard := by
    intro h s k r hk hm
    obtain ⟨x, hx, hreply⟩ := hm _ rfl
    obtain ⟨key, hl, hsaid⟩ := saidIn_of_repliesTo ((run_labelled F.labelled r).2 x hx) hreply
    have hkey := hl.unique (F.answer_labelled k hk)
    rw [hkey] at hsaid
    exact ⟨x, hx, hsaid⟩
  turn := fun log _ st op n _ hevents hok hst => F.turn hevents hok hst

/-! ## What the client makes of it -/

variable {log : List (ClientEvent G)} {h : List (Entry Addr q G)} {st : ServerState Addr G}

/-- What the client receives for a request is its answer. -/
theorem clear (j : (server S st₀).Joint (Delivers peer) ok log h st)
    (ho : F.dialogue.Orderly log) {k : ℕ} (hk : k < 2) :
    Clear sid (seqOf k) (F.answer k) log := by
  obtain ⟨n, hs⟩ := Machine.Dialogue.stage j ho
  have h2 : n ≤ 2 := hs.rounds
  intro bytes hb
  obtain ⟨later, earlier, st', rfl, r, hm⟩ := j.of_mem hb
  obtain ⟨x, hx, hreply⟩ := hm bytes rfl
  obtain ⟨key, hl, hin⟩ := saidIn_of_repliesTo ((run_labelled F.labelled r).2 x hx) hreply
  obtain ⟨ty, p, rfl⟩ := id hl
  refine ⟨_, p, parsePacket_frame ty key.1 key.2 p, fun hstray => ?_⟩
  obtain ⟨hsid, hseq⟩ := not_or.mp hstray
  obtain rfl : key.1 = sid := not_not.mp hsid
  obtain ⟨i, hi, heq⟩ : ∃ i < n, frame ty key.1 key.2 p = F.answer i :=
    hs.said x (List.mem_append_right later hx) _ hin
  -- the answer has the sequence number of its request
  have hlabel := F.answer_labelled i (hi.trans_le h2)
  rw [← heq] at hlabel
  have hik : seqOf i = seqOf k :=
    (congrArg Prod.snd (hlabel.unique hl)).trans (not_not.mp hseq)
  rw [heq, seqOf_inj (hi.trans_le h2) hk hik]

/-- The two requests differ. -/
theorem request_ne : F.request 1 ≠ F.request 0 := by
  intro heq
  obtain ⟨hdr, payload, hp, hkey⟩ := F.request_parses 0 (by decide)
  obtain ⟨hdr', payload', hp', hkey'⟩ := F.request_parses 1 (by decide)
  rw [heq, hp] at hp'
  cases hp'
  rw [hkey] at hkey'
  exact absurd (seqOf_inj (by decide) (by decide) (congrArg Prod.snd hkey')) (by decide)

variable {b b' : ℕ} {new new' : List (ClientEvent G)} {w w' w'' : World q G}

/-- The log of the first request is orderly. -/
theorem orderly_first (hconv : Conversed b (F.request 0) new w w') : F.dialogue.Orderly new := by
  refine ⟨?_, ?_⟩
  · rintro e he bytes rfl
    exact ⟨0, by decide, hconv.eq_of_sent he⟩
  · rintro k front old hk rfl
    obtain rfl : k = 0 := by
      have hk2 : k + 1 < 2 := hk
      omega
    exact absurd (hconv.eq_of_sent (List.mem_append_right front List.mem_cons_self)) F.request_ne

/-- So is that of both requests, when the first was answered before the second. -/
theorem orderly_second (hconv : Conversed b (F.request 0) new w w')
    (hanswer : .received (F.answer 0) ∈ new) (hconv' : Conversed b' (F.request 1) new' w' w'') :
    F.dialogue.Orderly (new' ++ new) := by
  refine ⟨?_, ?_⟩
  · rintro e he bytes rfl
    rcases List.mem_append.mp he with he | he
    · exact ⟨1, by decide, hconv'.eq_of_sent he⟩
    · exact ⟨0, by decide, hconv.eq_of_sent he⟩
  · intro k front old hk hsplit
    obtain rfl : k = 0 := by
      have hk2 : k + 1 < 2 := hk
      omega
    -- the second request is not among the events of the first
    obtain ⟨mid, rfl, rfl⟩ | ⟨mid, rfl, hold⟩ := List.append_eq_append_iff.mp hsplit
    · exact absurd (hconv.eq_of_sent (List.mem_append_right mid List.mem_cons_self)) F.request_ne
    · cases mid with
      | nil =>
          rw [List.nil_append] at hold
          exact absurd (hconv.eq_of_sent (hold ▸ List.mem_cons_self)) F.request_ne
      | cons e mid =>
          cases hold
          exact List.mem_append_right mid hanswer

/-- The second answer is not received during the first request. -/
theorem answer_not_early (hconv : Conversed b (F.request 0) new w w')
    (j : (server S st₀).Joint (Delivers peer) ok new h st) : .received (F.answer 1) ∉ new := by
  intro hr
  obtain ⟨n, hs⟩ := Machine.Dialogue.stage j (orderly_first hconv)
  have hn : 1 < n := hs.lt_of_heard j (by decide : (1 : ℕ) < 2) hr
  exact F.request_ne (hconv.eq_of_sent (hs.asked 1 hn))

/-- Events that send nothing keep a log orderly. -/
theorem orderly_of_silent {more : List (ClientEvent G)} (hs : ∀ bytes, .sent bytes ∉ more)
    (ho : F.dialogue.Orderly log) : F.dialogue.Orderly (more ++ log) := by
  induction more with
  | nil => exact ho
  | cons e more ih =>
      have hrest := ih fun bytes hb => hs bytes (List.mem_cons_of_mem e hb)
      refine ⟨List.forall_mem_cons.mpr ⟨?_, hrest.events⟩, ?_⟩
      · rintro bytes rfl
        exact absurd List.mem_cons_self (hs bytes)
      · intro k front old hk hsplit
        cases front with
        | nil =>
            cases hsplit
            exact absurd List.mem_cons_self (hs (F.request (k + 1)))
        | cons e' front => exact hrest.order k front old hk (List.cons.inj hsplit).2

/-- A network that delivers everything, and the first request twice. -/
theorem joint_repeated {pk₀ pk₁ : Packet Addr q G} (hb₀ : pk₀.bytes = F.request 0)
    (hp₀ : pk₀.peer = peer) (hb₁ : pk₁.bytes = F.request 1) (hp₁ : pk₁.peer = peer)
    (hok : ok [.sent (F.request 0)] st₀ (.packet pk₀))
    (hagain : ∀ st, F.Stage 1 st → st.serverPub = st₀.serverPub →
      ok [.received (F.answer 0), .sent (F.request 0)] st (.packet pk₀))
    (hnext : ∀ st, F.Stage 1 st → st.serverPub = st₀.serverPub →
      ok [.sent (F.request 1), .received (F.answer 0), .sent (F.request 0)] st (.packet pk₁)) :
    ∃ hist st, hist.length = 3 ∧ (server S st₀).Joint (Delivers peer) ok
      [.received (F.answer 1), .sent (F.request 1), .received (F.answer 0), .sent (F.request 0)]
      hist st := by
  have hidle : ∀ bytes (hist : List (Entry Addr q G)), Delivers peer (.sent bytes) hist := by
    rintro bytes hist _ ⟨⟩
  have hheard : ∀ {pk : Packet Addr q G} {before after : ServerState Addr G} {r : List UInt8}
      {hist : List (Entry Addr q G)}, pk.peer = peer →
      Delivers peer (.received r) ((.packet pk, ⟨before, some (.fresh r), after⟩) :: hist) := by
    rintro pk before after r hist hpeer _ ⟨⟩
    exact ⟨_, List.mem_cons_self, if_pos hpeer⟩
  have hstage₀ : F.Stage 0 st₀ := F.dialogue.start _ rfl
  obtain ⟨hreply₀, hstage₁, -⟩ := hstage₀.next (by decide) hok hb₀ hp₀
  have hpub : (serverStep S st₀ (.packet pk₀)).1.serverPub = st₀.serverPub :=
    serverStep_serverPub (.packet pk₀)
  have j₁ := joint_packet ((Machine.Joint.init rfl).client _ (hidle (F.request 0) [])) hok rfl
    hreply₀
  -- the copy
  have hcopy := hstage₁.again (Nat.zero_lt_one) (by decide) hb₀ hp₀
  have j₂ := joint_packet (j₁.client _ (hheard hp₀)) (hagain _ hstage₁ hpub) (congrArg Prod.fst hcopy)
    (congrArg Prod.snd hcopy)
  -- the second request
  obtain ⟨hreply₁, -⟩ := hstage₁.next (by decide) (hnext _ hstage₁ hpub) hb₁ hp₁
  have j₃ := joint_packet (j₂.client _ (hidle (F.request 1) _)) (hnext _ hstage₁ hpub) rfl hreply₁
  exact ⟨_, _, rfl, j₃.client _ (hheard hp₁)⟩

/-! ## The client of a flow -/

/-- A client that sends the two requests of the flow, and does the rest when both are answered. -/
structure Caller (F : Flow S st₀ peer sid ok) (γ α : Type) where
  maxRetries : ℕ
  type : ℕ → UInt8
  expected : ℕ → UInt8
  payload : List UInt8
  accept : List UInt8 → Except Stop γ
  next : γ → List UInt8
  finish : γ → List UInt8 → Client q G α
  /-- What the server answers, and what the client makes of the first answer. -/
  resp : ℕ → List UInt8
  accepted : γ
  request_zero : F.request 0 = frame (type 0) sid (seqOf 0) payload
  request_one : F.request 1 = frame (type 1) sid (seqOf 1) (next accepted)
  answer : ∀ k < 2, F.answer k = frame (expected k) sid (seqOf k) (resp k)
  expects : ∀ k < 2, expected k ≠ pktError
  fits : payload.length ≤ maxPayload ∧ (next accepted).length ≤ maxPayload
  accepts : accept (resp 0) = .ok accepted
  /-- The rest sends nothing. -/
  silent : ∀ c resp w, ∃ more, ((finish c resp).exec w).2.log = more ++ w.log ∧
    ∀ bytes, .sent bytes ∉ more

namespace Caller

variable {γ α : Type} (C : Caller F γ α)

/-- The second half of the client. -/
def rest (c : γ) : Client q G α := do
  let resp ← sendExpect C.maxRetries (C.type 1) sid (seqOf 1) (C.next c) (C.expected 1)
  C.finish c resp

/-- The client. -/
def run : Client q G α := do
  let resp ← sendExpect C.maxRetries (C.type 0) sid (seqOf 0) C.payload (C.expected 0)
  let c ← attempt (C.accept resp)
  C.rest c

/-- How the client of a flow ends: without the second answer and without a result, or with the
rest of its code after it. -/
structure Ends (w : World q G) (n : ℕ) (w₁ : World q G) (r : Except Halt α) (w' : World q G) :
    Prop where
  store : w₁.store = w.store
  sent : ∃ k₀ ≤ C.maxRetries + 1, ∃ k₁ ≤ C.maxRetries + 1, w₁.log.filterMap sentOf
    = List.replicate k₁ (F.request 1) ++ List.replicate k₀ (F.request 0)
  result : (.received (F.answer 1) ∉ w₁.log ∧ Unanswered w r ∧ w' = w₁) ∨
    (.received (F.answer 1) ∈ w₁.log ∧ n = 2 ∧ (C.finish C.accepted (C.resp 1)).exec w₁ = (r, w'))

/-- Whatever happens, the log grows. -/
theorem rest_grows (c : γ) (w : World q G) :
    Routine.Ends (C.rest c) w fun _ w' => ∃ more, w'.log = more ++ w.log := by
  refine (sendExpect_ends _ _ _ _ _ _ w).bind ?_ ?_
  · rintro resp w₁ ⟨ht, -⟩
    obtain ⟨more, hmore, -⟩ := ht.log
    obtain ⟨more', hmore', -⟩ := C.silent c resp w₁
    exact ⟨more' ++ more, by rw [hmore', hmore, List.append_assoc]⟩
  · rintro e w₁ ⟨ht, -⟩
    obtain ⟨more, hmore, -⟩ := ht.log
    exact ⟨more, hmore⟩

variable {C}

/-- What the second half has to show, when the first request was sent from `w`. -/
def Delivered (C : Caller F γ α) (w : World q G) (r : Except Halt α) (w' : World q G) : Prop :=
  ∀ hist st, (server S st₀).Joint (Delivers peer) ok w'.log hist st →
    ∃ n ≤ 2, hist.filterMap (freshIn sid) = ((List.range n).map F.answer).reverse ∧
      (∀ k < n, ∃ x ∈ hist, freshIn sid x = some (F.answer k) ∧
        F.Effect k x.2.before x.2.after) ∧
      ∃ w₁, C.Ends w n w₁ r w'

/-- The second half, after the answer to the first request. -/
theorem rest_ends {w₁ : World q G} (hlog : w.log = [])
    (hconv : Conversed (C.maxRetries + 1) (F.request 0) new w w₁)
    (hanswer : .received (F.answer 0) ∈ new) :
    Routine.Ends (C.rest C.accepted) w₁ (C.Delivered w) := by
  have hsettles : Routine.Ends (sendExpect C.maxRetries (C.type 1) sid (seqOf 1)
      (C.next C.accepted) (C.expected 1)) w₁ (Settles True w₁ (F.answer 1) (C.resp 1) sid (seqOf 1)
        (C.maxRetries + 1) (F.request 1) w₁) := by
    rw [C.request_one, C.answer 1 (by decide)]
    exact sendExpect_settles (C.resp 1) (C.expects 1 (by decide)) C.maxRetries _ C.fits.2 w₁
  have hnew : w₁.log = new := by rw [hconv.log, hlog, List.append_nil]
  obtain ⟨k₀, hk₀, hsent₀⟩ := hconv.sent
  -- what was sent by both requests
  have hsent : ∀ {new' : List (ClientEvent G)} {w₂ : World q G},
      Conversed (C.maxRetries + 1) (F.request 1) new' w₁ w₂ →
      ∃ k₀ ≤ C.maxRetries + 1, ∃ k₁ ≤ C.maxRetries + 1, w₂.log.filterMap sentOf
        = List.replicate k₁ (F.request 1) ++ List.replicate k₀ (F.request 0) := by
    intro new' w₂ hconv'
    obtain ⟨k₁, hk₁, hsent₁⟩ := hconv'.sent
    refine ⟨k₀, hk₀, k₁, hk₁, ?_⟩
    rw [hconv'.log, hnew, List.filterMap_append, hsent₁, hsent₀]
  refine hsettles.bind ?_ ?_
  · rintro resp w₂ ⟨new', hconv', hset⟩
    have hstore := hconv'.store.trans hconv.store
    have ho := orderly_second hconv hanswer hconv'
    have hlog₂ : w₂.log = new' ++ new := by rw [hconv'.log, hnew]
    intro hist st' j
    obtain ⟨more, hmore, hsilent⟩ := C.silent C.accepted resp w₂
    rw [hmore, hlog₂] at j
    obtain ⟨later, earlier, st'', rfl, jflow⟩ := j.of_append
    obtain ⟨hok, hreceived⟩ | ⟨-, hun⟩ := hset trivial (clear jflow ho (by decide)).of_append.1
    · cases hok
      have hin : .received (F.answer 1) ∈ w₂.log := hlog₂ ▸ List.mem_append_left new hreceived
      obtain ⟨n, hs⟩ := Machine.Dialogue.stage j (orderly_of_silent hsilent ho)
      have hn : 1 < n := hs.lt_of_heard j (by decide : (1 : ℕ) < 2)
        (List.mem_append_right more (List.mem_append_left new hreceived))
      have h2 : n ≤ 2 := hs.rounds
      exact ⟨n, h2, hs.fresh, hs.effect, w₂, hstore, hsent hconv', .inr ⟨hin, by omega, rfl⟩⟩
    · exact hun.not_ok.elim
  · rintro e w₂ ⟨new', hconv', hset⟩ hist st' j
    have ho := orderly_second hconv hanswer hconv'
    have hlog₂ : w₂.log = new' ++ new := by rw [hconv'.log, hnew]
    rw [hlog₂] at j
    obtain ⟨hok, -⟩ | ⟨hno, hun⟩ := hset trivial (clear j ho (by decide)).of_append.1
    · cases hok
    obtain ⟨n, hs⟩ := Machine.Dialogue.stage j ho
    obtain ⟨later, earlier, st'', -, jfirst⟩ := j.of_append
    have hearly := answer_not_early hconv jfirst
    refine ⟨n, hs.rounds, hs.fresh, hs.effect, w₂, hconv'.store.trans hconv.store, hsent hconv',
      .inl ⟨?_, ?_, rfl⟩⟩
    · rw [hlog₂]
      exact fun hm => (List.mem_append.mp hm).elim hno hearly
    · obtain he | ⟨e', he, hrep⟩ := hun
      · cases he
        exact .inl rfl
      · cases he
        exact .inr ⟨e', rfl, hrep.of_conversed hconv⟩

/-- The client of a flow, over the network. -/
theorem run_ends (hlog : w.log = []) : Routine.Ends C.run w (C.Delivered w) := by
  have hsettles : Routine.Ends (sendExpect C.maxRetries (C.type 0) sid (seqOf 0) C.payload
      (C.expected 0)) w (Settles True w (F.answer 0) (C.resp 0) sid (seqOf 0) (C.maxRetries + 1)
        (F.request 0) w) := by
    rw [C.request_zero, C.answer 0 (by decide)]
    exact sendExpect_settles (C.resp 0) (C.expects 0 (by decide)) C.maxRetries _ C.fits.1 w
  refine hsettles.bind ?_ ?_
  · rintro resp w₁ ⟨new, hconv, hset⟩
    have ho := orderly_first hconv
    have hnew : w₁.log = new := by rw [hconv.log, hlog, List.append_nil]
    by_cases hclear : Clear sid (seqOf 0) (F.answer 0) new
    · obtain ⟨hok, hanswer⟩ | ⟨-, hun⟩ := hset trivial hclear
      · cases hok
        exact ends_attempt_ok C.accepts (rest_ends hlog hconv hanswer)
      · exact hun.not_ok.elim
    · -- the log cannot be one of the network
      have hgrows : Routine.Ends (attempt (C.accept resp) >>= C.rest) w₁
          fun _ w' => ∃ more, w'.log = more ++ w₁.log := by
        refine (attempt_ends _ w₁).bind ?_ ?_
        · rintro c _ ⟨rfl, -⟩
          exact C.rest_grows c w₁
        · rintro e _ ⟨rfl, -⟩
          exact ⟨[], rfl⟩
      refine hgrows.mono ?_
      rintro r w' ⟨more, hmore⟩ hist st' j
      rw [hmore, hnew] at j
      obtain ⟨later, earlier, st'', -, jfirst⟩ := j.of_append
      exact absurd (clear jfirst ho (by decide)) hclear
  · rintro e w₁ ⟨new, hconv, hset⟩ hist st' j
    have ho := orderly_first hconv
    have hnew : w₁.log = new := by rw [hconv.log, hlog, List.append_nil]
    rw [hnew] at j
    obtain ⟨hok, -⟩ | ⟨-, hun⟩ := hset trivial (clear j ho (by decide))
    · cases hok
    obtain ⟨n, hs⟩ := Machine.Dialogue.stage j ho
    obtain ⟨k₀, hk₀, hsent₀⟩ := hconv.sent
    refine ⟨n, hs.rounds, hs.fresh, hs.effect, w₁, hconv.store, ⟨k₀, hk₀, 0, Nat.zero_le _, ?_⟩,
      .inl ⟨hnew ▸ answer_not_early hconv j, ?_, rfl⟩⟩
    · rw [hnew, hsent₀]
      rfl
    · obtain he | ⟨e', he, hrep⟩ := hun
      · cases he
        exact .inl rfl
      · cases he
        exact .inr ⟨e', rfl, hrep⟩

/-- A client whose requests are answered at once. -/
theorem run_answered (hsend : ∀ n, w.transport.sendResult n = .ok ())
    (hinbox : w.transport.inbox = [.ok (F.answer 0), .ok (F.answer 1)]) :
    C.run.exec w = (C.finish C.accepted (C.resp 1)).exec
      (answered (answered w (F.request 0) (F.answer 0) [.ok (F.answer 1)])
        (F.request 1) (F.answer 1) []) := by
  have hfirst : (sendExpect C.maxRetries (C.type 0) sid (seqOf 0) C.payload (C.expected 0)).exec w
      = (.ok (C.resp 0), answered w (F.request 0) (F.answer 0) [.ok (F.answer 1)]) := by
    rw [C.request_zero, C.answer 0 (by decide)]
    rw [C.answer 0 (by decide)] at hinbox
    exact sendExpect_answered hsend C.fits.1 (C.expects 0 (by decide)) hinbox
  have hsecond : ∀ w' : World q G, (∀ n, w'.transport.sendResult n = .ok ()) →
      w'.transport.inbox = [.ok (F.answer 1)] →
      (sendExpect C.maxRetries (C.type 1) sid (seqOf 1) (C.next C.accepted) (C.expected 1)).exec w'
        = (.ok (C.resp 1), answered w' (F.request 1) (F.answer 1) []) := by
    intro w' hsend' hinbox'
    rw [C.request_one, C.answer 1 (by decide)]
    rw [C.answer 1 (by decide)] at hinbox'
    exact sendExpect_answered hsend' C.fits.2 (C.expects 1 (by decide)) hinbox'
  refine (Routine.exec_bind_ok hfirst _).trans ?_
  refine (Routine.exec_bind_ok (exec_attempt_ok C.accepts _) _).trans ?_
  exact Routine.exec_bind_ok
    (hsecond (answered w (F.request 0) (F.answer 0) [.ok (F.answer 1)]) hsend rfl) _

end Caller

end Flow

end ZkArche.Rust
