import ZkArche.Server.CacheRust

/-!
# A session of the Rust server among others

Every reply carries the session identifier and the sequence number of the packet it answers,
also one that comes out of the cache (`run_labelled`).

What the server holds for a session identifier are its two pending records and its cached
responses.  A packet of another session leaves them alone.  So does a collection that does not
evict the session and finds no cached response of it expired, whatever else it evicts.  The last
message of a flow therefore gets the reply after any run of other sessions that it would have got
before it (`last_message_unaffected`).
-/

namespace ZkArche.Rust

variable {Addr : Type} [DecidableEq Addr] {q : ℕ} {G : Type} [AddCommGroup G]
  [Module (ZMod q) G] [DecidableEq G]

/-! ## Labels -/

/-- The packet has the session identifier and the sequence number of the key. -/
def Labelled (key : SessionId × UInt32) (packet : List UInt8) : Prop :=
  ∃ ty payload, packet = frame ty key.1 key.2 payload

/-- Every response is cached under its own label. -/
def CacheLabelled (st : ServerState Addr G) : Prop :=
  ∀ key c, st.responseCache.lookup key = some c → Labelled key c.packet

omit [DecidableEq Addr] [DecidableEq G] [AddCommGroup G] in
/-- A server that starts has cached nothing. -/
theorem cacheLabelled_start {profile : Profile} {serverPub : G} {registry : Registry G}
    {replay : MemoryReplayCache} {token : Option (List UInt8)} {now : ℕ} :
    CacheLabelled
      (.start profile serverPub registry replay token now : ServerState Addr G) := by
  intro key c hl
  cases hl

/-- The reply of an entry carries the label of the packet. -/
def ReplyLabelled (e : Entry Addr q G) : Prop :=
  ∀ pk reply packet, e.1 = .packet pk → e.2.reply = some reply → reply.sent = some packet →
    ∃ hdr payload, parsePacket pk.bytes = .ok (hdr, payload) ∧ Labelled (cacheKey hdr) packet

variable {S : Suite q G} {st : ServerState Addr G}

omit [DecidableEq Addr] in
/-- An accepted message is answered under its label. -/
theorem respond_labelled {hdr : Header} {payload packet : List UInt8} {pk : Packet Addr q G}
    (h : (respond S st hdr payload pk).2 = .ok packet) : Labelled (cacheKey hdr) packet := by
  unfold respond at h
  split at h
  next =>
    unfold dispatchSetup1 at h
    split at h
    next => cases h
    next p hp =>
      obtain ⟨s1, sk, -, -, -, rfl⟩ := handleSetup1_eq_ok_iff.mp hp
      cases h
      exact ⟨pktSetup2, _, rfl⟩
  split at h
  next =>
    unfold dispatchSetup3 at h
    split at h
    next => cases h
    next p _ =>
      obtain ⟨e, hr⟩ | ⟨-, ⟨e, -, hr⟩ | ⟨-, hr⟩⟩ := handleSetup3_cases (S := S) p st.serverPub
        hdr.sessionId hdr.seq payload pk.flush
      · simp only [hr, reduceCtorEq] at h
      · simp only [hr, reduceCtorEq] at h
      · simp only [hr, Except.ok.injEq] at h
        exact ⟨pktSetupAck, _, h.symm⟩
  split at h
  next =>
    unfold dispatchAuth1 at h
    obtain ⟨e, hr⟩ | ⟨key, p, -, -, ha, hr⟩ := handleAuth1_cases (S := S) pk.serverSk
      (pk.iterate st.registry.records) st.replay defaultAllowedRoles hdr.sessionId hdr.seq payload
      pk.auth
    · simp only [hr, reduceCtorEq] at h
    · obtain ⟨a1, sk, deviceId, rec, -, -, -, -, hpair⟩ := auth1Accept_eq_ok_iff.mp ha
      cases hpair
      simp only [hr, Except.ok.injEq] at h
      exact ⟨pktAuth2, _, h.symm⟩
  split at h
  next =>
    unfold dispatchAuth3 at h
    split at h
    next => cases h
    next =>
      split at h
      next hr =>
        obtain ⟨-, rfl⟩ := handleAuth3_eq_ok_iff.mp hr
        cases h
        exact ⟨pktAuthAck, _, rfl⟩
      next => cases h
  next => cases h

omit [DecidableEq Addr] [AddCommGroup G] [DecidableEq G] in
/-- So is an error. -/
theorem responseOf_labelled {hdr : Header} {r : Except Stop (List UInt8)} {packet : List UInt8}
    (hr : ∀ p, r = .ok p → Labelled (cacheKey hdr) p) (h : responseOf hdr r = .ok packet) :
    Labelled (cacheKey hdr) packet := by
  cases r with
  | ok p =>
      cases h
      exact hr _ rfl
  | error stop =>
      cases stop with
      | panic m => cases h
      | err e =>
          obtain ⟨-, rfl⟩ := buildError_eq_ok_iff.mp h
          exact ⟨pktError, _, rfl⟩

/-- What is sent is labelled, when the cache is. -/
theorem dispatchPacket_labelled (hc : CacheLabelled st) {pk : Packet Addr q G} {hdr : Header}
    {payload packet : List UInt8} (hp : parsePacket pk.bytes = .ok (hdr, payload))
    (hs : (dispatchPacket S st pk).2.sent = some packet) : Labelled (cacheKey hdr) packet := by
  cases hcached : cachedFor st hdr pk.peer with
  | some cached =>
      obtain ⟨t, hl⟩ := cachedFor_eq_some_iff.mp hcached
      simp only [dispatchPacket, hp, hcached, Reply.sent, Option.some.injEq] at hs
      rw [← hs]
      exact hc _ _ hl
  | none =>
      simp only [dispatchPacket, hp, hcached, conclude] at hs
      cases hr : responseOf hdr (respond S st hdr payload pk).2 with
      | error stop =>
          rw [hr] at hs
          cases hs
      | ok response =>
          rw [hr] at hs
          cases hs
          exact responseOf_labelled (fun p h => respond_labelled h) hr

omit [DecidableEq Addr] [DecidableEq G] [AddCommGroup G] in
/-- A collection only forgets responses. -/
theorem lookup_gcIfDue {now : ℕ} {pickSetup pickAuth : ℕ → ℕ} {key : SessionId × UInt32}
    {c : CachedResponse Addr}
    (hl : (gcIfDue st now pickSetup pickAuth).responseCache.lookup key = some c) :
    st.responseCache.lookup key = some c := by
  unfold gcIfDue at hl
  split at hl
  next => exact hl
  next => exact AList.mem_lookup_iff.mpr (List.mem_filter.mp (AList.mem_lookup_iff.mp hl)).1

/-- One operation keeps the cache labelled. -/
theorem CacheLabelled.step (hc : CacheLabelled st) (op : ServerOp Addr q G) :
    CacheLabelled (serverStep S st op).1 := by
  cases op with
  | packet pk =>
      obtain ⟨hcache, -⟩ | ⟨hdr, payload, pkt, hp, -, hfresh, hcache⟩ :=
        dispatchPacket_responseCache (S := S) st pk
      · intro key c hl
        rw [serverStep, hcache] at hl
        exact hc key c hl
      · intro key c hl
        rw [serverStep, hcache] at hl
        by_cases hkey : key = cacheKey hdr
        · subst hkey
          rw [AList.lookup_insert, Option.some.injEq] at hl
          subst hl
          exact dispatchPacket_labelled hc hp (by rw [hfresh]; rfl)
        · rw [AList.lookup_insert_ne hkey] at hl
          exact hc key c hl
  | gc now pickSetup pickAuth =>
      intro key c hl
      exact hc key c (lookup_gcIfDue hl)

/-- One operation is answered under the label of its packet. -/
theorem CacheLabelled.reply (hc : CacheLabelled st) (op : ServerOp Addr q G) :
    ReplyLabelled (op, (serverStep S st op).2) := by
  rintro pk reply packet rfl hreply hs
  cases hreply
  cases hp : parsePacket pk.bytes with
  | error e =>
      simp only [dispatchPacket, hp] at hs
      cases hs
  | ok v => exact ⟨v.1, v.2, rfl, dispatchPacket_labelled hc hp hs⟩

/-- In every run that starts with a labelled cache, every reply carries the session identifier and
the sequence number of the packet it answers. -/
theorem run_labelled {st₀ : ServerState Addr G} (h₀ : CacheLabelled st₀)
    {h : List (Entry Addr q G)} (r : (server S st₀).Run Machine.anyInput h st) :
    CacheLabelled st ∧ ∀ e ∈ h, ReplyLabelled e := by
  apply r.invariant (P := fun h s => CacheLabelled s ∧ ∀ e ∈ h, ReplyLabelled e)
  · rintro s rfl
    exact ⟨h₀, List.forall_mem_nil _⟩
  · intro h s op _ _ hs
    exact ⟨hs.1.step op, List.forall_mem_cons.mpr ⟨hs.1.reply op, hs.2⟩⟩

/-! ## What a session holds -/

omit [DecidableEq Addr] [AddCommGroup G] [DecidableEq G] in
/-- The server holds the same for the session identifier. -/
structure SameSession (sid : SessionId) (st st' : ServerState Addr G) : Prop where
  setup : st'.setupSessions.lookup sid = st.setupSessions.lookup sid
  auth : st'.authSessions.lookup sid = st.authSessions.lookup sid
  responses : ∀ seq, st'.responseCache.lookup (sid, seq) = st.responseCache.lookup (sid, seq)

omit [DecidableEq Addr] [AddCommGroup G] [DecidableEq G] in
theorem SameSession.refl (sid : SessionId) (st : ServerState Addr G) : SameSession sid st st :=
  ⟨rfl, rfl, fun _ => rfl⟩

omit [DecidableEq Addr] [AddCommGroup G] [DecidableEq G] in
theorem SameSession.trans {sid : SessionId} {st st' st'' : ServerState Addr G}
    (h : SameSession sid st st') (h' : SameSession sid st' st'') : SameSession sid st st'' :=
  ⟨h'.setup.trans h.setup, h'.auth.trans h.auth,
    fun seq => (h'.responses seq).trans (h.responses seq)⟩

/-- The key survives the eviction down to a limit. -/
def Survives {α β : Type} [DecidableEq α] (pick : ℕ → ℕ) (limit : ℕ) (m : Map α β) (k : α) :
    Prop :=
  k ∈ m → k ∈ evict pick (len m - limit) m

/-- The packet belongs to another session.  The collection is not due, or it evicts no pending
record of the session and no cached response of the session has expired. -/
def Spares (sid : SessionId) (st : ServerState Addr G) : ServerOp Addr q G → Prop
  | .packet pk => ∀ hdr payload, parsePacket pk.bytes = .ok (hdr, payload) → hdr.sessionId ≠ sid
  | .gc now pickSetup pickAuth => now - st.lastGc < 5 * 10 ^ 9 ∨
      (Survives pickSetup st.profile.maxActiveSessions st.setupSessions sid ∧
        Survives pickAuth st.profile.maxActiveSessions st.authSessions sid ∧
        ∀ seq c, st.responseCache.lookup (sid, seq) = some c →
          now - c.createdAt ≤ st.profile.sessionTtl)

/-- A key that survives is looked up as before. -/
theorem Survives.lookup_eq {α β : Type} [DecidableEq α] {pick : ℕ → ℕ} {limit : ℕ} {m : Map α β}
    {k : α} (h : Survives pick limit m k) :
    (evict pick (len m - limit) m).lookup k = m.lookup k := by
  cases hl : (evict pick (len m - limit) m).lookup k with
  | some v => exact (lookup_evict hl).symm
  | none =>
      rw [AList.lookup_eq_none] at hl
      exact (AList.lookup_eq_none.mpr fun hm => hl (h hm)).symm

/-- Below the limit every key survives. -/
theorem Survives.of_le {α β : Type} [DecidableEq α] {limit : ℕ} {m : Map α β}
    (hle : len m ≤ limit) (pick : ℕ → ℕ) (k : α) : Survives pick limit m k := by
  rw [Survives, Nat.sub_eq_zero_of_le hle]
  exact id

/-- A response that is not dropped is looked up as before. -/
theorem lookup_retain_eq {α β : Type} [DecidableEq α] {keep : β → Bool} {m : Map α β} {k : α}
    (h : ∀ v, m.lookup k = some v → keep v = true) : (retain keep m).lookup k = m.lookup k := by
  cases hl : m.lookup k with
  | some v => exact lookup_retain hl (h v hl)
  | none =>
      by_contra hne
      obtain ⟨v, hv⟩ := Option.ne_none_iff_exists'.mp hne
      have hm := (List.mem_filter.mp (AList.mem_lookup_iff.mp hv)).1
      rw [AList.mem_lookup_iff.mpr hm] at hl
      cases hl

variable {sid : SessionId}

/-- A packet of another session leaves the session alone. -/
theorem dispatchPacket_sameSession {pk : Packet Addr q G}
    (hne : ∀ hdr payload, parsePacket pk.bytes = .ok (hdr, payload) → hdr.sessionId ≠ sid) :
    SameSession sid st (dispatchPacket S st pk).1 := by
  have hcache : ∀ seq, (dispatchPacket S st pk).1.responseCache.lookup (sid, seq)
      = st.responseCache.lookup (sid, seq) := by
    intro seq
    obtain ⟨h, -⟩ | ⟨hdr, payload, pkt, hp, -, -, h⟩ := dispatchPacket_responseCache (S := S) st pk
    · rw [h]
    · rw [h, AList.lookup_insert_ne]
      intro hkey
      exact hne hdr payload hp (congrArg Prod.fst hkey).symm
  have hserved := dispatchPacket_served (S := S) st pk
  generalize (dispatchPacket S st pk).1 = st' at hserved hcache ⊢
  generalize (dispatchPacket S st pk).2 = reply at hserved
  cases hserved with
  | other hu _ => exact ⟨by rw [hu.setup], by rw [hu.auth], hcache⟩
  | setup1 hp _ _ _ _ ha hs =>
      exact ⟨by rw [hs, AList.lookup_insert_ne (hne _ _ hp).symm], by rw [ha], hcache⟩
  | setup3 hp _ _ _ _ ha hs =>
      exact ⟨by rw [hs, AList.lookup_erase_ne (hne _ _ hp).symm], by rw [ha], hcache⟩
  | setup3Unsaved _ _ _ _ _ ha hs _ => exact ⟨by rw [hs], by rw [ha], hcache⟩
  | auth1 hp _ _ _ hs ha =>
      exact ⟨by rw [hs], by rw [ha, AList.lookup_insert_ne (hne _ _ hp).symm], hcache⟩
  | auth3 hp _ _ _ _ hs ha =>
      exact ⟨by rw [hs], by rw [ha, AList.lookup_erase_ne (hne _ _ hp).symm], hcache⟩

/-- An operation that spares the session leaves it alone. -/
theorem serverStep_sameSession {op : ServerOp Addr q G} (h : Spares sid st op) :
    SameSession sid st (serverStep S st op).1 := by
  cases op with
  | packet pk => exact dispatchPacket_sameSession h
  | gc now pickSetup pickAuth =>
      rw [serverStep]
      unfold gcIfDue
      split
      next => exact .refl sid st
      next hdue =>
        obtain ⟨hsetup, hauth, hfresh⟩ := h.resolve_left hdue
        exact ⟨hsetup.lookup_eq, hauth.lookup_eq,
          fun seq => lookup_retain_eq fun c hl => decide_eq_true (hfresh seq c hl)⟩

/-! ## The last message of a flow -/

/-- No operation touches the public key. -/
theorem serverStep_serverPub (op : ServerOp Addr q G) :
    (serverStep S st op).1.serverPub = st.serverPub := by
  cases op with
  | packet pk => exact dispatchPacket_serverPub st pk
  | gc now pickSetup pickAuth =>
      show (gcIfDue st now pickSetup pickAuth).serverPub = st.serverPub
      unfold gcIfDue
      split <;> rfl

omit [DecidableEq Addr] in
/-- What the reply to a SETUP_3 or an AUTH_3 is read off. -/
theorem respond_last_eq {st' : ServerState Addr G} {hdr : Header} {payload : List UInt8}
    {pk : Packet Addr q G} (hty : hdr.pktType = pktSetup3 ∨ hdr.pktType = pktAuth3)
    (hsame : SameSession hdr.sessionId st st') (hpub : st'.serverPub = st.serverPub) :
    (respond S st' hdr payload pk).2 = (respond S st hdr payload pk).2 := by
  rcases hty with hty | hty
  · simp only [respond, hty, (by decide : pktSetup3 ≠ pktSetup1), if_false, if_true]
    unfold dispatchSetup3
    rw [hsame.setup, hpub]
    cases st.setupSessions.lookup hdr.sessionId with
    | none => rfl
    | some p =>
        dsimp only
        cases (handleSetup3 S p st.serverPub hdr.sessionId hdr.seq payload pk.flush).2 <;> rfl
  · simp only [respond, hty, (by decide : pktAuth3 ≠ pktSetup1), (by decide : pktAuth3 ≠ pktSetup3),
      (by decide : pktAuth3 ≠ pktAuth1), if_false, if_true]
    unfold dispatchAuth3
    rw [hsame.auth]
    cases st.authSessions.lookup hdr.sessionId with
    | none => rfl
    | some p =>
        dsimp only
        cases handleAuth3 p hdr.sessionId hdr.seq payload <;> rfl

/-- The reply to a SETUP_3 or an AUTH_3 depends on what the server holds for its session. -/
theorem dispatchPacket_last_eq {st' : ServerState Addr G} {pk : Packet Addr q G} {hdr : Header}
    {payload : List UInt8} (hp : parsePacket pk.bytes = .ok (hdr, payload))
    (hty : hdr.pktType = pktSetup3 ∨ hdr.pktType = pktAuth3)
    (hsame : SameSession hdr.sessionId st st') (hpub : st'.serverPub = st.serverPub) :
    (dispatchPacket S st' pk).2 = (dispatchPacket S st pk).2 := by
  have hcached : cachedFor st' hdr pk.peer = cachedFor st hdr pk.peer := by
    unfold cachedFor
    rw [hsame.responses hdr.seq]
  simp only [dispatchPacket, hp, hcached]
  cases cachedFor st hdr pk.peer with
  | some packet => rfl
  | none =>
      dsimp only
      rw [respond_last_eq hty hsame hpub]
      unfold conclude
      cases responseOf hdr (respond S st hdr payload pk).2 <;> rfl

/-- What the server holds for a session is the same after any run that spares it. -/
theorem run_sameSession {h : List (Entry Addr q G)} {st' : ServerState Addr G}
    (r : (server S st).Run (fun _ s op => Spares sid s op) h st') :
    SameSession sid st st' ∧ st'.serverPub = st.serverPub := by
  apply r.invariant (P := fun _ s => SameSession sid st s ∧ s.serverPub = st.serverPub)
  · rintro s rfl
    exact ⟨.refl sid s, rfl⟩
  · intro h s op _ hop hs
    exact ⟨hs.1.trans (serverStep_sameSession hop), (serverStep_serverPub op).trans hs.2⟩

/-- After any run that spares its session, a SETUP_3 or an AUTH_3 gets the reply that it would
have got before, whoever sends it. -/
theorem last_message_unaffected (S : Suite q G) (st : ServerState Addr G) {sid : SessionId}
    {h : List (Entry Addr q G)} {st' : ServerState Addr G}
    (r : (server S st).Run (fun _ s op => Spares sid s op) h st') (pk : Packet Addr q G)
    {hdr : Header} {payload : List UInt8} (hp : parsePacket pk.bytes = .ok (hdr, payload))
    (hsid : hdr.sessionId = sid) (hty : hdr.pktType = pktSetup3 ∨ hdr.pktType = pktAuth3) :
    (dispatchPacket S st' pk).2 = (dispatchPacket S st pk).2 := by
  subst hsid
  obtain ⟨hsame, hpub⟩ := run_sameSession r
  exact dispatchPacket_last_eq hp hty hsame hpub

/-- A server with room for one session, after the SETUP_1 of a device. -/
def demoCrowded : ServerState Bool (ZMod 11) :=
  (dispatchPacket smallSuite
    (.start ⟨15 * 10 ^ 9, 1, 2048⟩ demoServerKey ∅ (MemoryReplayCache.new 4) none 0)
    (demoFrom true C.demoSetup1.input 8)).1

/-- A SETUP_1 of another session, from another peer. -/
def demoOther : ServerOp Bool 11 (ZMod 11) :=
  .packet (demoFrom false (frame pktSetup1 (byteString 15 8) 1
    (C.Setup1.bytes ⟨[], byteString 31 1, byteString 31 3, byteString 31 9, byteString 31 4⟩)) 8)

/-- A collection that evicts the newest sessions. -/
def demoCollection : ServerOp Bool 11 (ZMod 11) := .gc (6 * 10 ^ 9) (fun _ => 0) fun _ => 0

/-- Another peer takes a session, and a collection evicts it again.  The SETUP_3 of the device gets
the acknowledgement that it would have got before. -/
theorem last_message_unaffected_two_peers :
    let st₁ := (serverStep smallSuite demoCrowded demoOther).1
    let st₂ := (serverStep smallSuite st₁ demoCollection).1
    let last := demoFrom true C.demoSetup3.input 9
    (byteString 15 8 ∈ st₁.setupSessions ∧ byteString 15 8 ∉ st₂.setupSessions) ∧
      (dispatchPacket smallSuite st₂ last).2 = (dispatchPacket smallSuite demoCrowded last).2 ∧
      ((dispatchPacket smallSuite st₂ last).2.sent.bind fun packet =>
        (parsePacket packet).toOption.map fun p => p.1.pktType) = some pktSetupAck := by
  intro st₁ st₂ last
  have hother : Spares (byteString 15 7) demoCrowded demoOther := by
    intro hdr payload hp
    cases hp.symm.trans (parsePacket_frame pktSetup1 (byteString 15 8) 1 _)
    show byteString 15 8 ≠ byteString 15 7
    decide
  have hcollection : Spares (byteString 15 7) st₁ demoCollection := by
    refine .inr ⟨fun _ => by decide +kernel, .of_le (by decide +kernel) _ _, fun _ c _ => ?_⟩
    exact (Nat.sub_le _ _).trans (by decide +kernel)
  have hrun : (server smallSuite demoCrowded).Run (fun _ s op => Spares (byteString 15 7) s op)
      [(demoCollection, _), (demoOther, _)] st₂ :=
    .step demoCollection (.step demoOther (.init rfl) hother) hcollection
  have hlast : ∃ hdr payload, parsePacket last.bytes = .ok (hdr, payload) ∧
      hdr.sessionId = byteString 15 7 ∧ hdr.pktType = pktSetup3 := by
    have hparsed : ((parsePacket last.bytes).toOption.map fun p => (p.1.sessionId, p.1.pktType))
        = some (byteString 15 7, pktSetup3) := by decide +kernel
    obtain ⟨⟨hdr, payload⟩, hp, heq⟩ := Option.map_eq_some_iff.mp hparsed
    cases hparse : parsePacket last.bytes with
    | error e =>
        rw [hparse] at hp
        cases hp
    | ok v =>
        rw [hparse] at hp
        cases hp
        exact ⟨hdr, payload, rfl, (Prod.mk.inj heq).1, (Prod.mk.inj heq).2⟩
  obtain ⟨hdr, payload, hp, hsid, hty⟩ := hlast
  refine ⟨by decide +kernel, ?_, by decide +kernel⟩
  exact last_message_unaffected smallSuite demoCrowded hrun last hp hsid (.inl hty)

end ZkArche.Rust
