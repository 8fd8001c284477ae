import ZkArche.Proto.ClientEvidenceRust
import ZkArche.Server.Agreement
import ZkArche.Server.CompletionRust
import ZkArche.System.AuthDelivery

/-!
# What the client knows of the server

The network may do anything to the packets for the server, and to those of other peers.  All that
the client can rely on is that what it receives was sent to it by the server (`Delivers`).

What the server sends is a response that it computed once (`run_answered`), and an AUTH_2 is
computed only for an AUTH_1 that was accepted (`accepted_of_auth2`).  So a client that returns a
session key shares it with the server (`auth_agreement`).
-/

namespace ZkArche.Rust

variable {Addr : Type} [DecidableEq Addr] {q : ℕ} {G : Type} [AddCommGroup G]
  [Module (ZMod q) G] {S : Suite q G} [DecidableEq G]

/-! ## Responses are computed -/

/-- An entry of the history computed the packet. -/
def Computed (h : List (Entry Addr q G)) (bytes : List UInt8) : Prop :=
  ∃ e ∈ h, ∃ hdr payload, freshReply e = some (hdr, payload, bytes)

/-- What is cached and what was sent was computed. -/
structure Accounted (h : List (Entry Addr q G)) (st : ServerState Addr G) : Prop where
  cached : ∀ key c, st.responseCache.lookup key = some c → Computed h c.packet
  sent : ∀ e ∈ h, ∀ bytes, e.2.reply.bind Reply.sent = some bytes → Computed h bytes

omit [DecidableEq Addr] [AddCommGroup G] [Module (ZMod q) G] [DecidableEq G] in
theorem Computed.cons {h : List (Entry Addr q G)} {bytes : List UInt8} (e : Entry Addr q G)
    (hc : Computed h bytes) : Computed (e :: h) bytes := by
  obtain ⟨e', he, hf⟩ := hc
  exact ⟨e', List.mem_cons_of_mem e he, hf⟩

/-- A response out of the cache. -/
theorem lookup_of_cached {st : ServerState Addr G} {pk : Packet Addr q G} {packet : List UInt8}
    (hr : (dispatchPacket S st pk).2 = .cached packet) :
    ∃ key t, st.responseCache.lookup key = some ⟨pk.peer, packet, t⟩ := by
  unfold dispatchPacket at hr
  split at hr
  next => cases hr
  next hdr payload hp =>
    split at hr
    next hc =>
      cases hr
      obtain ⟨t, hl⟩ := cachedFor_eq_some_iff.mp hc
      exact ⟨_, t, hl⟩
    next =>
      dsimp only at hr
      unfold conclude at hr
      split at hr
      next => cases hr
      next => cases hr

/-- One operation. -/
theorem Accounted.step {h : List (Entry Addr q G)} {st : ServerState Addr G}
    (ha : Accounted h st) (op : ServerOp Addr q G) :
    Accounted ((op, (serverStep S st op).2) :: h) (serverStep S st op).1 := by
  have hold : ∀ {e : Entry Addr q G}, ∀ e' ∈ h, ∀ bytes,
      e'.2.reply.bind Reply.sent = some bytes → Computed (e :: h) bytes :=
    fun e' he bytes hs => (ha.sent e' he bytes hs).cons _
  cases op with
  | gc now pickSetup pickAuth =>
      refine ⟨fun key c hl => (ha.cached key c (lookup_gcIfDue hl)).cons _,
        List.forall_mem_cons.mpr ⟨?_, hold⟩⟩
      rintro bytes ⟨⟩
  | packet pk =>
      have hfresh : ∀ bytes, (dispatchPacket S st pk).2 = .fresh bytes →
          Computed ((.packet pk, (serverStep S st (.packet pk)).2) :: h) bytes := by
        intro bytes hr
        obtain ⟨-, hno⟩ | ⟨hdr, payload, pkt, hp, -⟩ :=
          dispatchPacket_responseCache (S := S) st pk
        · exact absurd hr (hno bytes)
        · refine ⟨_, List.mem_cons_self, hdr, payload, ?_⟩
          rw [serverStep, hr]
          exact freshReply_packet hp
      refine ⟨fun key c hl => ?_, List.forall_mem_cons.mpr ⟨fun bytes hs => ?_, hold⟩⟩
      · obtain ⟨hcache, -⟩ | ⟨hdr, payload, pkt, -, -, hr, hcache⟩ :=
          dispatchPacket_responseCache (S := S) st pk
        · rw [serverStep, hcache] at hl
          exact (ha.cached key c hl).cons _
        · rw [serverStep, hcache] at hl
          by_cases hkey : key = cacheKey hdr
          · subst hkey
            rw [AList.lookup_insert, Option.some.injEq] at hl
            subst hl
            exact hfresh pkt hr
          · rw [AList.lookup_insert_ne hkey] at hl
            exact (ha.cached key c hl).cons _
      · have hs' : (dispatchPacket S st pk).2.sent = some bytes := hs
        cases hr : (dispatchPacket S st pk).2 with
        | fresh packet =>
            rw [hr] at hs'
            cases hs'
            exact hfresh bytes hr
        | cached packet =>
            rw [hr] at hs'
            cases hs'
            obtain ⟨key, t, hl⟩ := lookup_of_cached hr
            exact (ha.cached key _ hl).cons _
        | dropped =>
            rw [hr] at hs'
            cases hs'
        | panicked stop =>
            rw [hr] at hs'
            cases hs'

/-- In every run from an empty cache. -/
theorem run_answered {profile : Profile} {serverPub : G} {registry : Registry G}
    {replay : MemoryReplayCache} {token : Option (List UInt8)} {now : ℕ}
    {h : List (Entry Addr q G)} {st : ServerState Addr G}
    (r : (server S (.start profile serverPub registry replay token now)).Run Machine.anyInput h st) :
    Accounted h st := by
  apply r.invariant
  · rintro s rfl
    refine ⟨?_, List.forall_mem_nil _⟩
    rintro key c ⟨⟩
  · exact fun _ _ op _ _ ha => ha.step op

/-! ## The server's side -/

/-- The entry accepts an AUTH_1 of the session, and the server derives the confirmation. -/
def Accepts (S : Suite q G) (sid : SessionId) (y : Confirmation) (e : Entry Addr q G) : Prop :=
  ∃ pk hdr payload rkey p a1 sk, e.1 = .packet pk ∧ parsePacket pk.bytes = .ok (hdr, payload) ∧
    hdr.pktType = pktAuth1 ∧ hdr.sessionId = sid ∧
    auth1Accept S pk.serverSk (pk.iterate e.2.before.registry.records) e.2.before.replay
      defaultAllowedRoles sid hdr.seq payload pk.auth = .ok (rkey, p) ∧
    Auth1.decode S payload = .ok a1 ∧ pk.serverSk = .ok sk ∧
    y = serverConfirmation S sk a1 pk.auth ∧
    freshReply e = some (hdr, payload, frame pktAuth2 sid hdr.seq (C.auth2Of S y).bytes)

/-- Only an AUTH_1 is answered with an AUTH_2. -/
theorem type_of_auth2 {st : ServerState Addr G} {pk : Packet Addr q G} {hdr : Header}
    {payload bytes : List UInt8} (hp : parsePacket pk.bytes = .ok (hdr, payload))
    (hr : (dispatchPacket S st pk).2 = .fresh bytes) (hty : pktTypeOf bytes = pktAuth2) :
    hdr.pktType = pktAuth1 := by
  have hserved := dispatchPacket_served (S := S) st pk
  rw [hr] at hserved
  generalize (dispatchPacket S st pk).1 = st' at hserved
  generalize hreply : Reply.fresh bytes = reply at hserved
  cases hserved with
  | other hu herr =>
      rw [herr bytes hreply.symm] at hty
      exact absurd hty (by decide)
  | setup1 hp' ht hd htok hreg hauth hset =>
      cases hreply
      have hsetup : pktSetup2 = pktAuth2 := hty
      exact absurd hsetup (by decide)
  | setup3 hp' ht hl hck hreg hauth hset =>
      cases hreply
      rw [pktTypeOf_frame] at hty
      exact absurd hty (by decide)
  | setup3Unsaved hp' ht hl hck hreg hauth hset herr =>
      rw [herr bytes hreply.symm] at hty
      exact absurd hty (by decide)
  | auth1 hp' ht hty' hreg hset hauth =>
      rw [hp] at hp'
      cases hp'
      exact ht
  | auth3 hp' ht hl hpay hreg hset hauth =>
      cases hreply
      rw [pktTypeOf_frame] at hty
      exact absurd hty (by decide)

/-- An AUTH_2 is computed for an AUTH_1 that is accepted. -/
theorem accepted_of_auth2 {st : ServerState Addr G} {pk : Packet Addr q G} {hdr : Header}
    {payload bytes : List UInt8} (hp : parsePacket pk.bytes = .ok (hdr, payload))
    (hr : (dispatchPacket S st pk).2 = .fresh bytes) (hty : pktTypeOf bytes = pktAuth2) :
    ∃ y, Accepts S hdr.sessionId y (.packet pk, (serverStep S st (.packet pk)).2) ∧
      bytes = frame pktAuth2 hdr.sessionId hdr.seq (C.auth2Of S y).bytes := by
  have ht := type_of_auth2 hp hr hty
  have hrespond : respond S st hdr payload pk = dispatchAuth1 S st hdr payload pk := by
    simp only [respond, ht, (by decide : pktAuth1 ≠ pktSetup1), (by decide : pktAuth1 ≠ pktSetup3),
      if_false, if_true]
  have hc : cachedFor st hdr pk.peer = none := by
    obtain ⟨-, hno⟩ | ⟨hdr', payload', pkt, hp', hc, -⟩ :=
      dispatchPacket_responseCache (S := S) st pk
    · exact absurd hr (hno bytes)
    · rw [hp] at hp'
      cases hp'
      exact hc
  have hreply := hr
  simp only [dispatchPacket, hp, hc, hrespond, dispatchAuth1] at hreply
  obtain ⟨e, h⟩ | ⟨rkey, p, -, -, ha, h⟩ := handleAuth1_cases (S := S) pk.serverSk
    (pk.iterate st.registry.records) st.replay defaultAllowedRoles hdr.sessionId hdr.seq payload
    pk.auth
  · rw [h] at hreply
    rw [(conclude_error _ hdr pk e).2 bytes hreply] at hty
    exact absurd hty (by decide)
  · rw [h] at hreply
    obtain ⟨a1, sk, deviceId, rec, hd, -, hsk, -, hpair⟩ := auth1Accept_eq_ok_iff.mp ha
    cases hpair
    cases hreply
    refine ⟨serverConfirmation S sk a1 pk.auth, ?_, rfl⟩
    refine ⟨pk, hdr, payload, _, _, a1, sk, rfl, hp, ht, rfl, ha, hd, hsk, rfl, ?_⟩
    rw [serverStep, hr]
    exact freshReply_packet hp

/-! ## Agreement -/

/-- Every entry is a step of the server. -/
theorem run_steps {st₀ : ServerState Addr G} {h : List (Entry Addr q G)} {st : ServerState Addr G}
    (r : (server S st₀).Run Machine.anyInput h st) :
    ∀ e ∈ h, ∃ s, e.2 = (serverStep S s e.1).2 := by
  apply r.invariant (P := fun h _ => ∀ e ∈ h, ∃ s, e.2 = (serverStep S s e.1).2)
  · exact fun _ _ => List.forall_mem_nil _
  · exact fun _ s op _ _ hs => List.forall_mem_cons.mpr ⟨⟨s, rfl⟩, hs⟩

omit [AddCommGroup G] [Module (ZMod q) G] [DecidableEq G] in
theorem sent_of_repliesTo {peer : Addr} {x : Entry Addr q G} {bytes : List UInt8}
    (h : repliesTo peer x = some bytes) : x.2.reply.bind Reply.sent = some bytes := by
  unfold repliesTo at h
  split at h
  next => exact (Option.ite_none_right_eq_some.mp h).2
  next => cases h

/-- What the client receives was computed for a packet with its label. -/
theorem computed_of_received {profile : Profile} {serverPub : G} {registry : Registry G}
    {replay : MemoryReplayCache} {token : Option (List UInt8)} {now : ℕ} {peer : Addr}
    {ok : List (ClientEvent G) → ServerState Addr G → ServerOp Addr q G → Prop}
    {log : List (ClientEvent G)} {h : List (Entry Addr q G)} {st : ServerState Addr G}
    (j : (server S (.start profile serverPub registry replay token now)).Joint (Delivers peer) ok
      log h st)
    {bytes payload : List UInt8} {sid : SessionId} {seq : UInt32} {ty : UInt8}
    (hb : .received bytes ∈ log) (hcarries : Carries bytes sid seq ty payload) :
    pktTypeOf bytes = ty ∧ ∃ pk s hdr p, (.packet pk, (serverStep S s (.packet pk)).2) ∈ h ∧
      parsePacket pk.bytes = .ok (hdr, p) ∧ (dispatchPacket S s pk).2 = .fresh bytes ∧
      cacheKey hdr = (sid, seq) := by
  obtain ⟨later, earlier, st', rfl, r, hm⟩ := j.of_mem hb
  obtain ⟨x, hx, hreply⟩ := hm bytes rfl
  obtain ⟨⟨op, o⟩, he, hdr, p, hf⟩ := (run_answered r).sent x hx bytes (sent_of_repliesTo hreply)
  cases op with
  | gc now pickSetup pickAuth => cases hf
  | packet pk =>
      obtain ⟨s, hs⟩ := run_steps r _ he
      obtain rfl : o = (serverStep S s (.packet pk)).2 := hs
      have hp : parsePacket pk.bytes = .ok (hdr, p) :=
        packetOf_eq_some_iff.mp (packetOf_of_freshReply hf)
      have hfresh : (dispatchPacket S s pk).2 = .fresh bytes := reply_of_freshReply hf
      have hl : Labelled (cacheKey hdr) bytes := by
        obtain ⟨hdr', p', hp', hl⟩ := (run_labelled cacheLabelled_start r).2 _ he pk _ bytes rfl
          rfl (by rw [hfresh]; rfl)
        rw [hp] at hp'
        cases hp'
        exact hl
      obtain ⟨ty', p', rfl⟩ := hl
      obtain ⟨hdr', hparse, rfl, rfl, rfl⟩ := hcarries
      rw [parsePacket_frame] at hparse
      cases hparse
      exact ⟨rfl, pk, s, hdr, p, List.mem_append_right later he, hp, hfresh, rfl⟩

/-- The client derives the confirmation and its session key from its credentials, its random bytes
and a message of the pinned server. -/
def Derives (S : Suite q G) (allowedRoles : List UInt64) (draws : AuthClientDraws) (w : World q G)
    (x : Confirmation) (k : Bytes 32) : Prop :=
  ∃ root pinned role start a2, w.store.deviceRoot = some root ∧ w.store.serverPub = some pinned ∧
    w.store.roleCredential = some role ∧
    authStart S (deriveDeviceScalar S root) pinned role allowedRoles draws = .ok start ∧
    a2.serverPub = pinned ∧ verifyAuthServer S a2.serverPub a2.nonceS a2.ephS a2.serverProof = true ∧
    x = start.confirmation S a2 ∧ k = x.sessionKey S

/-- Agreement.  A client that returns a session key shares it with the server.  The server accepted
an AUTH_1 of the session, from which it derived the confirmation of the client, with the ten values,
the session key and the MAC keys, unless two calls of a hash function collide.  And it acknowledged
an AUTH_3 of the session. -/
theorem auth_agreement [NeZero q] (S : Suite q G) {profile : Profile} {serverPub : G} {registry : Registry G}
    {replay : MemoryReplayCache} {token : Option (List UInt8)} {now : ℕ} {peer : Addr}
    {w w' : World q G} {maxRetries : ℕ} {allowedRoles : List UInt64}
    {draws : AuthClientDraws} {k : Bytes 32}
    (hrun : (runAuthClient S maxRetries allowedRoles draws).exec w = (.ok k, w'))
    {hist : List (Entry Addr q G)} {st : ServerState Addr G}
    (j : (server S (.start profile serverPub registry replay token now)).Joint (Delivers peer)
      (fun _ _ _ => True) w'.log hist st) :
    ∃ x y, Derives S allowedRoles draws w x k ∧
      (∃ e ∈ hist, Accepts S (randSessionId draws.sessionId) y e) ∧
      (Confirmation.Agree S x y ∨ Confirmation.Collision S x y .s2c) ∧
      ∃ e ∈ hist, authAck e = some (randSessionId draws.sessionId) := by
  have hends := runAuthClient_ends (S := S) maxRetries allowedRoles draws w
  rw [Routine.Ends, hrun] at hends
  obtain ⟨b2, payload, b4, before, between, hw', hc2, hc4, root, pinned, role, start, a2, hroot,
    hpinned, hrole, hstart, hd, hpub, hv, hk, htag⟩ := (hends k rfl).received
  have hall : w'.log = .received b4 :: (between ++ .received b2 :: (before ++ w.log)) := hw'
  have hb4 : .received b4 ∈ w'.log := hall ▸ List.mem_cons_self
  have hb2 : .received b2 ∈ w'.log :=
    hall ▸ List.mem_cons_of_mem _ (List.mem_append_right between List.mem_cons_self)
  -- the AUTH_2
  obtain ⟨hty2, pk₂, s₂, hdr₂, p₂, he₂, hp₂, hr₂, hkey₂⟩ := computed_of_received j hb2 hc2
  obtain ⟨y, hy, rfl⟩ := accepted_of_auth2 hp₂ hr₂ hty2
  obtain ⟨hdr, hparse, -⟩ := hc2
  rw [parsePacket_frame] at hparse
  cases hparse
  have hwire : a2.wire S = C.auth2Of S y :=
    auth2_bytes_inj (Auth2.decode_eq_ok_iff.mp hd).1.symm
  have hsid : hdr₂.sessionId = randSessionId draws.sessionId := congrArg Prod.fst hkey₂
  refine ⟨start.confirmation S a2, y, ⟨root, pinned, role, start, a2, hroot, hpinned, hrole, hstart,
    hpub, hv, rfl, hk⟩, ⟨_, he₂, hsid ▸ hy⟩, ?_, ?_⟩
  · have htags : (start.confirmation S a2).tag S .s2c = y.tag S .s2c := by
      have hs : a2.tagS = y.tag S .s2c := congrArg C.Auth2.tagS hwire
      rw [← hs, htag, hk]
      rfl
    exact Confirmation.agree htags
  · -- the acknowledgement
    obtain ⟨hty4, pk₄, s₄, hdr₄, p₄, he₄, hp₄, hr₄, hkey₄⟩ := computed_of_received j hb4 hc4
    refine ⟨_, he₄, ?_⟩
    have hf : freshReply (.packet pk₄, (serverStep S s₄ (.packet pk₄)).2) = some (hdr₄, p₄, b4) := by
      rw [serverStep, hr₄]
      exact freshReply_packet hp₄
    simp only [authAck, hf, hty4, if_true]
    exact congrArg some (congrArg Prod.fst hkey₄)

/-- The client whose AUTH_1 arrives twice. -/
theorem auth_agreement_repeated :
    let s := demoHonest.session smallSuite (randSessionId (byteString 31 7)) 0 1
    ∃ x y, Derives smallSuite demoHonest.allowedRoles
        (demoHonest.clientDraws (byteString 31 7)) (demoWorld.deliver s) x s.sessionKey ∧
      (Confirmation.Agree smallSuite x y ∨ Confirmation.Collision smallSuite x y .s2c) := by
  intro s
  obtain ⟨hist, st, w', -, -, hrun, j⟩ := demoAuth_joint
  obtain ⟨x, y, hx, -, hagree, -⟩ := auth_agreement smallSuite hrun (j.mono fun _ _ _ _ => trivial)
  exact ⟨x, y, hx, hagree⟩

end ZkArche.Rust
