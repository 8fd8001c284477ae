import ZkArche.Lib.Correspondence
import ZkArche.Server.ServedRust

/-!
# Enrollments of the Rust server

An accepted SETUP_1 opens its session identifier with the pending record, and a fresh
SETUP_ACK closes it.  The registry changes when a SETUP_3 proves possession of the key of an
open record, also when the file cannot be written and no acknowledgement follows.
-/

namespace ZkArche.Rust

variable {Addr : Type} {q : ℕ} {G : Type}

/-- A SETUP_1 that was accepted: the session identifier, and the record stored for it. -/
def acceptedSetup1 (e : Entry Addr q G) : Option (SessionId × PendingSetup G) :=
  match freshReply e with
  | some (hdr, _, pkt) =>
      if hdr.pktType = pktSetup1 ∧ pktTypeOf pkt = pktSetup2 then
        (e.2.after.setupSessions.lookup hdr.sessionId).map fun p => (hdr.sessionId, p)
      else none
  | none => none

/-- A freshly computed SETUP_ACK: its session identifier. -/
def setupAck (e : Entry Addr q G) : Option SessionId :=
  match freshReply e with
  | some (hdr, _, pkt) => if pktTypeOf pkt = pktSetupAck then some hdr.sessionId else none
  | none => none

/-- The header and payload of a packet. -/
def packetOf (e : Entry Addr q G) : Option (Header × List UInt8) :=
  match e.1 with
  | .packet pk => (parsePacket pk.bytes).toOption
  | .gc .. => none

theorem packetOf_eq_some_iff {pk : Packet Addr q G} {o : Outcome Addr G} {hdr : Header}
    {payload : List UInt8} : packetOf (.packet pk, o) = some (hdr, payload) ↔
      parsePacket pk.bytes = .ok (hdr, payload) := by
  show (parsePacket pk.bytes).toOption = some (hdr, payload) ↔ _
  cases parsePacket pk.bytes with
  | error e => simp [Except.toOption]
  | ok v => simp [Except.toOption]

theorem packetOf_of_freshReply {e : Entry Addr q G} {hdr : Header} {payload pkt : List UInt8}
    (h : freshReply e = some (hdr, payload, pkt)) : packetOf e = some (hdr, payload) := by
  unfold freshReply at h
  split at h
  next pk pkt' hop hreply =>
    split at h
    next hdr' payload' hp =>
      cases h
      simp only [packetOf, hop, hp, Except.toOption]
    next => cases h
  next => cases h

/-- The entry enrolls under a session identifier: it changes the registry or acknowledges. -/
def Uses (e : Entry Addr q G) (sid : SessionId) : Prop :=
  (∃ hdr payload, packetOf e = some (hdr, payload) ∧ hdr.sessionId = sid) ∧
    (e.2.after.registry ≠ e.2.before.registry ∨ setupAck e = some sid)

/-- A reply that is no SETUP_2 accepts no SETUP_1. -/
theorem acceptedSetup1_eq_none {pk : Packet Addr q G} {reply : Reply}
    {before after : ServerState Addr G}
    (h : ∀ pkt, reply = .fresh pkt → pktTypeOf pkt ≠ pktSetup2) :
    acceptedSetup1 (.packet pk, ⟨before, some reply, after⟩) = none := by
  unfold acceptedSetup1
  split
  next hdr payload pkt hf => exact if_neg fun hc => h pkt (reply_of_freshReply hf) hc.2
  next => rfl

/-- A reply that is no SETUP_ACK closes nothing. -/
theorem setupAck_eq_none {pk : Packet Addr q G} {reply : Reply}
    {before after : ServerState Addr G}
    (h : ∀ pkt, reply = .fresh pkt → pktTypeOf pkt ≠ pktSetupAck) :
    setupAck (.packet pk, ⟨before, some reply, after⟩) = none := by
  unfold setupAck
  split
  next hdr payload pkt hf => exact if_neg fun hc => h pkt (reply_of_freshReply hf) hc
  next => rfl

variable [AddCommGroup G] [Module (ZMod q) G] [DecidableEq G]

/-- The entry accepted a SETUP_1 with the session identifier: its token passed, the record
holds its device, role commitment and nonce, and the SETUP_2 issued the record's server
nonce and challenge. -/
def Setup1Accepted (S : Suite q G) (e : Entry Addr q G) (sid : SessionId) (p : PendingSetup G) :
    Prop :=
  ∃ hdr payload s1 serverPub proof,
    freshReply e = some (hdr, payload, frame pktSetup2 sid hdr.seq
      (Setup2.encode S ⟨p.serverNonce, p.setupChallenge, serverPub, proof⟩)) ∧
    hdr.pktType = pktSetup1 ∧ hdr.sessionId = sid ∧ Setup1.decode S payload = .ok s1 ∧
    tokenOk e.2.before.requirePairingToken s1 = true ∧ p.deviceId = s1.deviceId ∧
    p.devicePub = s1.devicePub ∧ p.roleCommitment = s1.roleCommitment ∧
    p.clientNonce = s1.clientNonce

/-- The entry processed a SETUP_3 whose proof verifies against the record, and put the record
into the registry. -/
def Enrolls (S : Suite q G) (p : PendingSetup G) (e : Entry Addr q G) : Prop :=
  ∃ hdr payload s3, packetOf e = some (hdr, payload) ∧ hdr.pktType = pktSetup3 ∧
    Setup3.decode S payload = .ok s3 ∧
    verifySetupClient S (p.binding e.2.before.serverPub) s3.clientProof = true ∧
    e.2.after.registry = e.2.before.registry.insert p.deviceId p.record

/-- Every stored record is open, every record comes from an accepted SETUP_1, every change of
the registry uses a session identifier, and every enrollment so far found its record open. -/
structure Enrollment (S : Suite q G) (h : List (Entry Addr q G)) (st : ServerState Addr G) :
    Prop where
  stored : Correspondence.Stored acceptedSetup1 setupAck h
    fun sid p => st.setupSessions.lookup sid = some p
  origin : ∀ e ∈ h, ∀ sid p, acceptedSetup1 e = some (sid, p) → Setup1Accepted S e sid p
  learned : ∀ e ∈ h, e.2.after.registry ≠ e.2.before.registry → ∃ sid, Uses e sid
  matched : Correspondence.Corresponds acceptedSetup1 setupAck Uses (Enrolls S) h

variable {S : Suite q G}

omit [Module (ZMod q) G] [AddCommGroup G] [DecidableEq G] in
theorem not_uses {e : Entry Addr q G} (hreg : e.2.after.registry = e.2.before.registry)
    (ha : setupAck e = none) (sid : SessionId) : ¬ Uses e sid := by
  rintro ⟨-, h | h⟩
  · exact h hreg
  · rw [ha] at h
    cases h

/-- One more entry.  What it opens, acknowledges or enrolls is known. -/
theorem Enrollment.step {h : List (Entry Addr q G)} {st : ServerState Addr G}
    {e : Entry Addr q G} (hc : Enrollment S h st)
    (hs : ∀ sid p, e.2.after.setupSessions.lookup sid = some p →
      acceptedSetup1 e = some (sid, p) ∨ st.setupSessions.lookup sid = some p ∧
        (∀ p', acceptedSetup1 e ≠ some (sid, p')) ∧ setupAck e ≠ some sid)
    (ho : ∀ sid p, acceptedSetup1 e = some (sid, p) → Setup1Accepted S e sid p)
    (hl : e.2.after.registry ≠ e.2.before.registry → ∃ sid, Uses e sid)
    (hu : ∀ sid, Uses e sid → ∃ p, st.setupSessions.lookup sid = some p ∧ Enrolls S p e) :
    Enrollment S (e :: h) e.2.after := by
  refine ⟨hc.stored.step hs, ?_, ?_, ?_, hc.matched⟩
  · exact List.forall_mem_cons.mpr ⟨ho, hc.origin⟩
  · exact List.forall_mem_cons.mpr ⟨hl, hc.learned⟩
  · intro sid hsid
    obtain ⟨p, hp, hen⟩ := hu sid hsid
    exact ⟨p, hc.stored sid p hp, hen⟩

/-- An entry that leaves the registry and neither accepts a SETUP_1 nor acknowledges. -/
theorem Enrollment.quiet {h : List (Entry Addr q G)} {st : ServerState Addr G}
    {e : Entry Addr q G} (hc : Enrollment S h st)
    (hreg : e.2.after.registry = e.2.before.registry) (ho : acceptedSetup1 e = none)
    (ha : setupAck e = none)
    (hs : ∀ sid p, e.2.after.setupSessions.lookup sid = some p →
      st.setupSessions.lookup sid = some p) :
    Enrollment S (e :: h) e.2.after := by
  apply hc.step
  · intro sid p hp
    rw [ho, ha]
    exact .inr ⟨hs sid p hp, nofun, nofun⟩
  · intro sid p hp
    rw [ho] at hp
    cases hp
  · exact fun hne => absurd hreg hne
  · exact fun sid hu => absurd hu (not_uses hreg ha sid)

/-- A packet keeps the invariant. -/
theorem Enrollment.served {h : List (Entry Addr q G)} {st st' : ServerState Addr G}
    {pk : Packet Addr q G} {reply : Reply} (hc : Enrollment S h st)
    (hs : Served S st pk st' reply) :
    Enrollment S ((.packet pk, ⟨st, some reply, st'⟩) :: h) st' := by
  -- a reply that is neither SETUP_2 nor SETUP_ACK, with registry and records as before
  have hquiet : st'.registry = st.registry → st'.setupSessions = st.setupSessions →
      (∀ pkt, reply = .fresh pkt → pktTypeOf pkt ≠ pktSetup2 ∧ pktTypeOf pkt ≠ pktSetupAck) →
      Enrollment S ((.packet pk, ⟨st, some reply, st'⟩) :: h) st' := by
    intro hreg hsame hty
    apply hc.quiet (e := (.packet pk, ⟨st, some reply, st'⟩)) hreg
      (acceptedSetup1_eq_none fun pkt hr => (hty pkt hr).1)
      (setupAck_eq_none fun pkt hr => (hty pkt hr).2)
    intro sid p hp
    rwa [hsame] at hp
  -- a SETUP_3 that proves possession of the key of a stored record
  have henroll : ∀ {hdr : Header} {payload : List UInt8} {p : PendingSetup G},
      parsePacket pk.bytes = .ok (hdr, payload) → hdr.pktType = pktSetup3 →
      st.setupSessions.lookup hdr.sessionId = some p →
      setup3Check S p st.serverPub payload = .ok () →
      st'.registry = st.registry.insert p.deviceId p.record →
      (∀ pkt, reply = .fresh pkt → pktTypeOf pkt ≠ pktSetup2) →
      (∀ sid p', st'.setupSessions.lookup sid = some p' →
        st.setupSessions.lookup sid = some p' ∧
          setupAck (.packet pk, ⟨st, some reply, st'⟩) ≠ some sid) →
      Enrollment S ((.packet pk, ⟨st, some reply, st'⟩) :: h) st' := by
    intro hdr payload p hp ht hl hck hreg hty hold
    have hpacket : packetOf (.packet pk, ⟨st, some reply, st'⟩) = some (hdr, payload) := by
      simp only [packetOf, hp, Except.toOption]
    have hopens : acceptedSetup1 (.packet pk, ⟨st, some reply, st'⟩) = none :=
      acceptedSetup1_eq_none hty
    apply hc.step (e := (.packet pk, ⟨st, some reply, st'⟩))
    · intro sid p' hp'
      obtain ⟨hp', hne⟩ := hold sid p' hp'
      rw [hopens]
      exact .inr ⟨hp', nofun, hne⟩
    · intro sid p' hp'
      rw [hopens] at hp'
      cases hp'
    · exact fun hne => ⟨hdr.sessionId, ⟨hdr, payload, hpacket, rfl⟩, .inl hne⟩
    · rintro sid ⟨⟨hdr', payload', hpk, rfl⟩, -⟩
      rw [hpacket] at hpk
      cases hpk
      obtain ⟨s3, hd, hv⟩ := setup3Check_eq_ok_iff.mp hck
      exact ⟨p, hl, hdr, payload, s3, hpacket, ht, hd, hv, hreg⟩
  cases hs with
  | other hu hty =>
      apply hquiet hu.registry hu.setup
      intro pkt hr
      rw [hty pkt hr]
      decide
  | @setup1 hdr payload s1 sk hp ht hd htok hreg hauth hset =>
      set p := setupPending S sk hdr.sessionId hdr.seq s1 pk.setup with hpdef
      have hopens : acceptedSetup1 (.packet pk, ⟨st, some (.fresh p.responsePacket), st'⟩)
          = some (hdr.sessionId, p) := by
        have hty : pktTypeOf p.responsePacket = pktSetup2 := rfl
        simp only [acceptedSetup1, freshReply_packet hp, ht, hty, and_self, if_true, hset,
          AList.lookup_insert, Option.map_some]
      have hcloses : setupAck (.packet pk, ⟨st, some (.fresh p.responsePacket), st'⟩) = none := by
        apply setupAck_eq_none
        intro pkt hr
        cases hr
        show pktSetup2 ≠ pktSetupAck
        decide
      apply hc.step (e := (.packet pk, ⟨st, some (.fresh p.responsePacket), st'⟩))
      · intro sid p' hp'
        rw [hopens, hcloses]
        by_cases hsid : sid = hdr.sessionId
        · subst hsid
          rw [hset, AList.lookup_insert, Option.some.injEq] at hp'
          exact .inl (by rw [hp'])
        · rw [hset, AList.lookup_insert_ne hsid] at hp'
          refine .inr ⟨hp', ?_, nofun⟩
          rintro p'' ⟨⟩
          exact hsid rfl
      · intro sid p' hp'
        rw [hopens] at hp'
        cases hp'
        exact ⟨hdr, payload, s1, _, _, freshReply_packet hp, ht, rfl, hd, htok, rfl, rfl, rfl, rfl⟩
      · exact fun hne => absurd hreg hne
      · exact fun sid hu => absurd hu (not_uses hreg hcloses sid)
  | @setup3 hdr payload p hp ht hl hck hreg hauth hset =>
      apply henroll hp ht hl hck hreg
      · intro pkt hr
        cases hr
        rw [pktTypeOf_frame]
        decide
      · intro sid p' hp'
        by_cases hsid : sid = hdr.sessionId
        · subst hsid
          rw [hset, AList.lookup_erase] at hp'
          cases hp'
        · rw [hset, AList.lookup_erase_ne hsid] at hp'
          refine ⟨hp', ?_⟩
          simp only [setupAck, freshReply_packet hp, pktTypeOf_frame, if_true, ne_eq,
            Option.some.injEq]
          exact fun h => hsid h.symm
  | setup3Unsaved hp ht hl hck hreg hauth hset hty =>
      apply henroll hp ht hl hck hreg
      · intro pkt hr
        rw [hty pkt hr]
        decide
      · intro sid p' hp'
        rw [hset] at hp'
        refine ⟨hp', ?_⟩
        rw [setupAck_eq_none]
        · exact nofun
        · intro pkt hr
          rw [hty pkt hr]
          decide
  | auth1 hp ht hty hreg hset hauth =>
      apply hquiet hreg hset
      intro pkt hr
      cases hr
      rw [hty]
      decide
  | auth3 hp ht hl hpay hreg hset hauth =>
      apply hquiet hreg hset
      intro pkt hr
      cases hr
      rw [pktTypeOf_frame]
      decide

/-- What holds of the answered operations of a run, oldest first. -/
structure Provenance (S : Suite q G) (run : List (Entry Addr q G)) : Prop where
  /-- The registry changes by enrolling the record of an earlier accepted SETUP_1 with the
  session identifier of the SETUP_3. -/
  change : ∀ (i : ℕ) e, run[i]? = some e → e.2.after.registry ≠ e.2.before.registry →
    ∃ hdr payload p, ∃ j : ℕ, ∃ x, packetOf e = some (hdr, payload) ∧ Enrolls S p e ∧ j < i ∧
      run[j]? = some x ∧ Setup1Accepted S x hdr.sessionId p
  /-- Nothing else changes the registry. -/
  quiet : ∀ e ∈ run, (∀ hdr payload, packetOf e = some (hdr, payload) →
    hdr.pktType ≠ pktSetup3) → e.2.after.registry = e.2.before.registry
  /-- Different fresh SETUP_ACKs belong to different accepted SETUP_1s. -/
  acks : ∃ f, Correspondence.Matching acceptedSetup1 setupAck (Enrolls S) run f

theorem Enrollment.change {h : List (Entry Addr q G)} {st : ServerState Addr G}
    (hc : Enrollment S h st) {i : ℕ} {e : Entry Addr q G} (he : h.reverse[i]? = some e)
    (hne : e.2.after.registry ≠ e.2.before.registry) :
    ∃ hdr payload p, ∃ j : ℕ, ∃ x, packetOf e = some (hdr, payload) ∧ Enrolls S p e ∧ j < i ∧
      h.reverse[j]? = some x ∧ Setup1Accepted S x hdr.sessionId p := by
  obtain ⟨sid, hu⟩ := hc.learned e (List.mem_reverse.mp (List.mem_of_getElem? he)) hne
  obtain ⟨p, j, hen, hop⟩ := hc.matched.opener he hu
  obtain ⟨⟨hdr, payload, hpk, rfl⟩, -⟩ := hu
  obtain ⟨x, hx, hxp⟩ := hop.opened
  refine ⟨hdr, payload, p, j, x, hpk, hen, hop.earlier, hx, hc.origin x ?_ _ p hxp⟩
  exact List.mem_reverse.mp (List.mem_of_getElem? hx)

theorem Enrollment.provenance {h : List (Entry Addr q G)} {st : ServerState Addr G}
    (hc : Enrollment S h st) : Provenance S h.reverse := by
  refine ⟨fun i e he hne => hc.change he hne, ?_, ?_⟩
  · intro e he hty
    by_contra hne
    obtain ⟨i, hi⟩ := List.getElem?_of_mem he
    obtain ⟨-, -, p, -, -, -, ⟨hdr, payload, -, hpk, ht, -⟩, -⟩ := hc.change hi hne
    exact hty hdr payload hpk ht
  · apply hc.matched.exists_matching
    intro e sid hsid
    refine ⟨?_, .inr hsid⟩
    unfold setupAck at hsid
    split at hsid
    next hdr payload pkt hf =>
      split at hsid
      · cases hsid
        exact ⟨hdr, payload, packetOf_of_freshReply hf, rfl⟩
      · cases hsid
    next => cases hsid

variable [DecidableEq Addr]

/-- Every run keeps the invariant. -/
theorem enrollment_run {st₀ : ServerState Addr G} (h₀ : st₀.setupSessions = ∅)
    {h : List (Entry Addr q G)} {st : ServerState Addr G}
    (r : (server S st₀).Run Machine.anyInput h st) : Enrollment S h st := by
  apply r.invariant
  · rintro s rfl
    refine ⟨?_, List.forall_mem_nil _, List.forall_mem_nil _, trivial⟩
    intro sid p hp
    rw [h₀, AList.lookup_empty] at hp
    cases hp
  · intro h s op _ _ hc
    cases op with
    | packet pk => exact hc.served (dispatchPacket_served s pk)
    | gc now pickSetup pickAuth =>
        have hgc := gcIfDue_collected s now pickSetup pickAuth
        exact hc.quiet (e := (.gc now pickSetup pickAuth, ⟨s, none, _⟩)) hgc.registry rfl rfl
          hgc.setup

end ZkArche.Rust
