import ZkArche.Lib.Correspondence
import ZkArche.Server.ServedRust

/-!
# Completed authentications of the Rust server

An accepted AUTH_1 opens its session identifier with the pending record, and a fresh
AUTH_ACK closes it.  A repeated AUTH_1 overwrites the record, a collection may drop it, and
a response out of the cache is no event at all.

The invariant is that every stored record is open.  It follows that each fresh AUTH_ACK
belongs to the latest AUTH_1 accepted before it for its session identifier, that no two
belong to the same, and that the AUTH_3 carried the expected tag of that record.
-/

namespace ZkArche.Rust

variable {Addr : Type} {q : ℕ} {G : Type}

/-- An AUTH_1 that was accepted: the session identifier, and the record stored for it. -/
def acceptedAuth1 (e : Entry Addr q G) : Option (SessionId × PendingAuth) :=
  match freshReply e with
  | some (hdr, _, pkt) =>
      if hdr.pktType = pktAuth1 ∧ pktTypeOf pkt = pktAuth2 then
        (e.2.after.authSessions.lookup hdr.sessionId).map fun p => (hdr.sessionId, p)
      else none
  | none => none

/-- A freshly computed AUTH_ACK: its session identifier. -/
def authAck (e : Entry Addr q G) : Option SessionId :=
  match freshReply e with
  | some (hdr, _, pkt) => if pktTypeOf pkt = pktAuthAck then some hdr.sessionId else none
  | none => none

/-- The packet of the entry carries the tag the record expects. -/
def Confirms (p : PendingAuth) (e : Entry Addr q G) : Prop :=
  ∃ hdr pkt, freshReply e = some (hdr, p.expectedTagC.val, pkt)

/-- A reply that is no AUTH_2 accepts no AUTH_1. -/
theorem acceptedAuth1_eq_none {pk : Packet Addr q G} {reply : Reply}
    {before after : ServerState Addr G} (h : ∀ pkt, reply = .fresh pkt → pktTypeOf pkt ≠ pktAuth2) :
    acceptedAuth1 (.packet pk, ⟨before, some reply, after⟩) = none := by
  unfold acceptedAuth1
  split
  next hdr payload pkt hf => exact if_neg fun hc => h pkt (reply_of_freshReply hf) hc.2
  next => rfl

/-- A reply that is no AUTH_ACK closes nothing. -/
theorem authAck_eq_none {pk : Packet Addr q G} {reply : Reply} {before after : ServerState Addr G}
    (h : ∀ pkt, reply = .fresh pkt → pktTypeOf pkt ≠ pktAuthAck) :
    authAck (.packet pk, ⟨before, some reply, after⟩) = none := by
  unfold authAck
  split
  next hdr payload pkt hf => exact if_neg fun hc => h pkt (reply_of_freshReply hf) hc
  next => rfl

/-- Every stored record is open, and every acknowledgement so far found its record open. -/
structure Completion (h : List (Entry Addr q G)) (st : ServerState Addr G) : Prop where
  stored : Correspondence.Stored acceptedAuth1 authAck h
    fun sid p => st.authSessions.lookup sid = some p
  matched : Correspondence.Corresponds acceptedAuth1 authAck (fun e sid => authAck e = some sid)
    Confirms h

/-- An entry that accepts and acknowledges nothing, after which no record is new. -/
theorem Completion.quiet {h : List (Entry Addr q G)} {st st' : ServerState Addr G}
    {e : Entry Addr q G} (hc : Completion h st) (ho : acceptedAuth1 e = none)
    (ha : authAck e = none)
    (hs : ∀ sid p, st'.authSessions.lookup sid = some p → st.authSessions.lookup sid = some p) :
    Completion (e :: h) st' := by
  refine ⟨hc.stored.step ?_, ?_, hc.matched⟩
  · intro sid p hp
    rw [ho, ha]
    exact .inr ⟨hs sid p hp, nofun, nofun⟩
  · intro sid hsid
    rw [ha] at hsid
    cases hsid

variable [DecidableEq Addr] [AddCommGroup G] [Module (ZMod q) G] [DecidableEq G]

omit [DecidableEq Addr] in
/-- A packet keeps the invariant. -/
theorem Completion.served {S : Suite q G} {h : List (Entry Addr q G)}
    {st st' : ServerState Addr G} {pk : Packet Addr q G} {reply : Reply}
    (hc : Completion h st) (hs : Served S st pk st' reply) :
    Completion ((.packet pk, ⟨st, some reply, st'⟩) :: h) st' := by
  -- a reply of a given type accepts and acknowledges what its type says
  have hquiet : st'.authSessions = st.authSessions →
      (∀ pkt, reply = .fresh pkt → pktTypeOf pkt ≠ pktAuth2 ∧ pktTypeOf pkt ≠ pktAuthAck) →
      Completion ((.packet pk, ⟨st, some reply, st'⟩) :: h) st' := by
    intro hsame hty
    apply hc.quiet (acceptedAuth1_eq_none fun pkt hr => (hty pkt hr).1)
      (authAck_eq_none fun pkt hr => (hty pkt hr).2)
    intro sid p hp
    rwa [hsame] at hp
  cases hs with
  | other hu hty =>
      apply hquiet hu.auth
      intro pkt hr
      rw [hty pkt hr]
      decide
  | setup1 hp ht hd htok hreg hauth hset =>
      apply hquiet hauth
      intro pkt hr
      cases hr
      show pktSetup2 ≠ pktAuth2 ∧ pktSetup2 ≠ pktAuthAck
      decide
  | setup3 hp ht hl hck hreg hauth hset =>
      apply hquiet hauth
      intro pkt hr
      cases hr
      rw [pktTypeOf_frame]
      decide
  | setup3Unsaved hp ht hl hck hreg hauth hset hty =>
      apply hquiet hauth
      intro pkt hr
      rw [hty pkt hr]
      decide
  | @auth1 hdr payload p hp ht hty hreg hset hauth =>
      have hopens : acceptedAuth1 (.packet pk, ⟨st, some (.fresh p.responsePacket), st'⟩)
          = some (hdr.sessionId, p) := by
        simp only [acceptedAuth1, freshReply_packet hp, ht, hty, and_self, if_true, hauth,
          AList.lookup_insert, Option.map_some]
      have hcloses : authAck (.packet pk, ⟨st, some (.fresh p.responsePacket), st'⟩) = none := by
        apply authAck_eq_none
        intro pkt hr
        cases hr
        rw [hty]
        decide
      refine ⟨hc.stored.step ?_, ?_, hc.matched⟩
      · intro sid p' hp'
        rw [hopens, hcloses]
        by_cases hsid : sid = hdr.sessionId
        · subst hsid
          rw [hauth, AList.lookup_insert, Option.some.injEq] at hp'
          exact .inl (by rw [hp'])
        · rw [hauth, AList.lookup_insert_ne hsid] at hp'
          refine .inr ⟨hp', ?_, nofun⟩
          rintro r ⟨⟩
          exact hsid rfl
      · intro sid hsid
        rw [hcloses] at hsid
        cases hsid
  | @auth3 hdr payload p hp ht hl hpay hreg hset hauth =>
      have hopens : acceptedAuth1 (.packet pk,
          ⟨st, some (.fresh (frame pktAuthAck hdr.sessionId hdr.seq [ackByte])), st'⟩) = none := by
        apply acceptedAuth1_eq_none
        intro pkt hr
        cases hr
        rw [pktTypeOf_frame]
        decide
      have hcloses : authAck (.packet pk,
          ⟨st, some (.fresh (frame pktAuthAck hdr.sessionId hdr.seq [ackByte])), st'⟩)
          = some hdr.sessionId := by
        simp only [authAck, freshReply_packet hp, pktTypeOf_frame, if_true]
      refine ⟨hc.stored.step ?_, ?_, hc.matched⟩
      · intro sid p' hp'
        rw [hopens, hcloses]
        by_cases hsid : sid = hdr.sessionId
        · subst hsid
          rw [hauth, AList.lookup_erase] at hp'
          cases hp'
        · rw [hauth, AList.lookup_erase_ne hsid] at hp'
          refine .inr ⟨hp', nofun, ?_⟩
          rintro ⟨⟩
          exact hsid rfl
      · intro sid hsid
        rw [hcloses, Option.some.injEq] at hsid
        subst hsid
        refine ⟨p, hc.stored _ p hl, hdr, frame pktAuthAck hdr.sessionId hdr.seq [ackByte], ?_⟩
        rw [freshReply_packet hp, hpay]

/-- Every run keeps the invariant. -/
theorem completion_run {S : Suite q G} {st₀ : ServerState Addr G} (h₀ : st₀.authSessions = ∅)
    {h : List (Entry Addr q G)} {st : ServerState Addr G}
    (r : (server S st₀).Run Machine.anyInput h st) : Completion h st := by
  apply r.invariant
  · rintro s rfl
    refine ⟨?_, trivial⟩
    intro sid p hp
    rw [h₀, AList.lookup_empty] at hp
    cases hp
  · intro h s op _ _ hc
    cases op with
    | packet pk => exact hc.served (dispatchPacket_served s pk)
    | gc now pickSetup pickAuth =>
        exact hc.quiet rfl rfl (gcIfDue_collected s now pickSetup pickAuth).auth

/-- In every run from empty session and response maps, the fresh AUTH_ACKs are mapped
injectively to earlier accepted AUTH_1s of their session identifiers: each to the latest one
before it, whose stored record expects the tag that the AUTH_3 carried. -/
theorem auth_ack_correspondence (S : Suite q G) (profile : Profile) (serverPub : G)
    (registry : Registry G) (replay : MemoryReplayCache) (token : Option (List UInt8))
    (now : ℕ) (ops : List (ServerOp Addr q G)) :
    let start : ServerState Addr G := .start profile serverPub registry replay token now
    ∃ f, Correspondence.Matching acceptedAuth1 authAck Confirms
      ((server S start).answers start ops) f := by
  intro start
  have hrun : (server S start).Run Machine.anyInput [] start := .init rfl
  exact (completion_run rfl (hrun.exec ops fun _ _ _ _ => trivial)).matched.exists_matching
    fun _ _ hk => hk

end ZkArche.Rust
