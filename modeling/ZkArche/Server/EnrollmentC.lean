import ZkArche.Lib.Correspondence
import ZkArche.Server.EnrollmentRust
import ZkArche.Server.SequentialC

/-!
# Enrollments of the C server

The argument of `EnrollmentRust` for the C server, one packet at a time.  Several sessions
may carry one session identifier here, so an accepted SETUP_1 opens the *slot* that its
record is stored in, and a SETUP_ACK closes the slot that its SETUP_3 was found in.
-/

namespace ZkArche.C

/-- The header and payload of a packet. -/
def received (e : Entry) : Option (Header × List UInt8) := (authHeaderDecode e.1.input).toOption

theorem received_eq_some_iff {e : Entry} {hdr : Header} {payload : List UInt8} :
    received e = some (hdr, payload) ↔ authHeaderDecode e.1.input = .ok (hdr, payload) := by
  unfold received
  cases authHeaderDecode e.1.input with
  | error err => simp [Except.toOption]
  | ok v => simp [Except.toOption]

/-- The SETUP session that the packet of an entry finds. -/
def foundSetup (e : Entry) : Option (ℕ × PendingSetup) :=
  match received e with
  | some (hdr, _) => lookupSetup e.2.before.sessions hdr.sessionId
  | none => none

/-- A SETUP_1 that was accepted: the slot, and the record stored in it. -/
def acceptedSetup1 (e : Entry) : Option (ℕ × PendingSetup) :=
  match e.2.before.sessions.findIdx? (· = .free) with
  | some i =>
      match e.2.after.sessions[i]? with
      | some (.setup p) => if pktTypeOf e.2.reply = pktSetup2 then some (i, p) else none
      | _ => none
  | none => none

/-- A SETUP_ACK: the slot of its session. -/
def setupAck (e : Entry) : Option ℕ :=
  if pktTypeOf e.2.reply = pktSetupAck then (foundSetup e).map Prod.fst else none

/-- The entry enrolls the session of a slot: it changes the registry or acknowledges. -/
def Uses (e : Entry) (i : ℕ) : Prop :=
  (foundSetup e).map Prod.fst = some i ∧
    (e.2.after.registry ≠ e.2.before.registry ∨ setupAck e = some i)

/-- The entry accepted a SETUP_1: its token passed, the record holds its session, device, role
commitment and nonce, and the SETUP_2 issued the record's server nonce and challenge. -/
def Setup1Accepted (cfg : ServerConfig) (e : Entry) (p : PendingSetup) : Prop :=
  ∃ hdr payload s1 proof, received e = some (hdr, payload) ∧ hdr.pktType = pktSetup1 ∧
    authSetup1Decode payload = .ok s1 ∧ tokenOk cfg s1.pairingToken = true ∧
    p = setupPending cfg hdr.sessionId s1 e.1.setup ∧
    e.2.reply = frame pktSetup2 hdr.sessionId hdr.seq
      (Setup2.bytes ⟨p.serverNonce, p.setupChallenge, p.serverPub, proof⟩)

variable {q : ℕ} {G : Type} [AddCommGroup G] [Module (ZMod q) G]

/-- The entry processed a SETUP_3 of the record's session whose proof verifies against the
record, and put the record into the registry. -/
def Enrolls (S : Suite q G) (p : PendingSetup) (e : Entry) : Prop :=
  ∃ hdr payload s3, received e = some (hdr, payload) ∧ hdr.pktType = pktSetup3 ∧
    hdr.sessionId = p.sessionId ∧ authSetup3Decode payload = .ok s3 ∧
    p.proves S s3.clientProof = true ∧
    authRegistryPut e.2.before.registry p.entry = .ok e.2.after.registry

/-- Every stored record is open, every record comes from an accepted SETUP_1, every change of
the registry and every SETUP_ACK uses a slot, and every enrollment so far found its record
open. -/
structure Enrollment (S : Suite q G) (cfg : ServerConfig) (h : List Entry) (st : ServerState) :
    Prop where
  stored : Correspondence.Stored acceptedSetup1 setupAck h
    fun i p => st.sessions[i]? = some (.setup p)
  origin : ∀ e ∈ h, ∀ i p, acceptedSetup1 e = some (i, p) → Setup1Accepted cfg e p
  learned : ∀ e ∈ h, e.2.after.registry ≠ e.2.before.registry → ∃ i, Uses e i
  acked : ∀ e ∈ h, pktTypeOf e.2.reply = pktSetupAck → ∃ i, setupAck e = some i
  matched : Correspondence.Corresponds acceptedSetup1 setupAck Uses (Enrolls S) h

section

variable {job : Job} {before after : ServerState} {out : List UInt8}

/-- A reply that is no SETUP_2 accepts no SETUP_1. -/
theorem acceptedSetup1_eq_none (h : pktTypeOf out ≠ pktSetup2) :
    acceptedSetup1 (job, ⟨before, out, after⟩) = none := by
  unfold acceptedSetup1
  split
  next =>
    split
    next => exact if_neg h
    next => rfl
  next => rfl

/-- A reply that is no SETUP_ACK closes nothing. -/
theorem setupAck_eq_none (h : pktTypeOf out ≠ pktSetupAck) :
    setupAck (job, ⟨before, out, after⟩) = none := if_neg h

theorem not_uses {e : Entry} (hreg : e.2.after.registry = e.2.before.registry)
    (ha : setupAck e = none) (i : ℕ) : ¬ Uses e i := by
  rintro ⟨-, h | h⟩
  · exact h hreg
  · rw [ha] at h
    cases h

end

variable {S : Suite q G} {cfg : ServerConfig}

/-- One more entry.  What it opens, acknowledges or enrolls is known. -/
theorem Enrollment.step {h : List Entry} {st : ServerState} {e : Entry}
    (hc : Enrollment S cfg h st)
    (hs : ∀ i p, e.2.after.sessions[i]? = some (.setup p) → acceptedSetup1 e = some (i, p) ∨
      st.sessions[i]? = some (.setup p) ∧ (∀ p', acceptedSetup1 e ≠ some (i, p')) ∧
        setupAck e ≠ some i)
    (ho : ∀ i p, acceptedSetup1 e = some (i, p) → Setup1Accepted cfg e p)
    (hl : e.2.after.registry ≠ e.2.before.registry → ∃ i, Uses e i)
    (ha : pktTypeOf e.2.reply = pktSetupAck → ∃ i, setupAck e = some i)
    (hu : ∀ i, Uses e i → ∃ p, st.sessions[i]? = some (.setup p) ∧ Enrolls S p e) :
    Enrollment S cfg (e :: h) e.2.after := by
  refine ⟨hc.stored.step hs, ?_, ?_, ?_, ?_, hc.matched⟩
  · exact List.forall_mem_cons.mpr ⟨ho, hc.origin⟩
  · exact List.forall_mem_cons.mpr ⟨hl, hc.learned⟩
  · exact List.forall_mem_cons.mpr ⟨ha, hc.acked⟩
  · intro i hi
    obtain ⟨p, hp, hen⟩ := hu i hi
    exact ⟨p, hc.stored i p hp, hen⟩

/-- Writing another kind of slot leaves the SETUP sessions. -/
theorem setup_of_set {t : SessionTable} {i j : ℕ} {s : Slot} {p : PendingSetup}
    (hs : ∀ p, s ≠ .setup p) (h : (t.set i s)[j]? = some (.setup p)) :
    j ≠ i ∧ t[j]? = some (.setup p) := by
  rw [getElem?_set_slot] at h
  split at h
  next hij =>
    cases h
    exact absurd rfl (hs p)
  next hij =>
    refine ⟨?_, h⟩
    rintro rfl
    exact hij ⟨rfl, (List.getElem?_eq_some_iff.mp h).1⟩

/-- An entry that leaves the registry and neither accepts a SETUP_1 nor acknowledges. -/
theorem Enrollment.quiet {h : List Entry} {job : Job} {st st' : ServerState} {out : List UInt8}
    (hc : Enrollment S cfg h st) (hreg : st'.registry = st.registry)
    (hs : ∀ (i : ℕ) (p : PendingSetup), st'.sessions[i]? = some (.setup p) →
      st.sessions[i]? = some (.setup p))
    (h2 : pktTypeOf out ≠ pktSetup2) (ha : pktTypeOf out ≠ pktSetupAck) :
    Enrollment S cfg ((job, ⟨st, out, st'⟩) :: h) st' := by
  have hopens : acceptedSetup1 (job, ⟨st, out, st'⟩) = none := acceptedSetup1_eq_none h2
  have hcloses : setupAck (job, ⟨st, out, st'⟩) = none := setupAck_eq_none ha
  apply hc.step (e := (job, ⟨st, out, st'⟩))
  · intro i p hp
    rw [hopens, hcloses]
    exact .inr ⟨hs i p hp, nofun, nofun⟩
  · intro i p hp
    rw [hopens] at hp
    cases hp
  · exact fun hne => absurd hreg hne
  · exact fun hty => absurd hty ha
  · exact fun i hu => absurd hu (not_uses hreg hcloses i)

/-- A packet keeps the invariant. -/
theorem Enrollment.served {h : List Entry} {job : Job} {st st' : ServerState} {out : List UInt8}
    (hc : Enrollment S cfg h st) (hs : Served S cfg st job st' out) :
    Enrollment S cfg ((job, ⟨st, out, st'⟩) :: h) st' := by
  -- a SETUP_3 that proves possession of the key of the record it finds
  have henroll : ∀ {hdr : Header} {payload : List UInt8} {i : ℕ} {p : PendingSetup}
      {s3 : Setup3}, authHeaderDecode job.input = .ok (hdr, payload) → hdr.pktType = pktSetup3 →
      lookupSetup st.sessions hdr.sessionId = some (i, p) → authSetup3Decode payload = .ok s3 →
      p.proves S s3.clientProof = true →
      (st'.registry = st.registry ∧ pktTypeOf out ≠ pktSetupAck ∨
        authRegistryPut st.registry p.entry = .ok st'.registry) →
      st'.sessions = st.sessions.set i .free → pktTypeOf out ≠ pktSetup2 →
      Enrollment S cfg ((job, ⟨st, out, st'⟩) :: h) st' := by
    intro hdr payload i p s3 hd ht hl hs3 hp hput hset h2
    have hrec : received (job, ⟨st, out, st'⟩) = some (hdr, payload) := by
      exact received_eq_some_iff.mpr hd
    have hfound : foundSetup (job, ⟨st, out, st'⟩) = some (i, p) := by
      simp only [foundSetup, hrec, hl]
    obtain ⟨hi, hsid⟩ := lookupSetup_eq_some hl
    have hopens : acceptedSetup1 (job, ⟨st, out, st'⟩) = none := acceptedSetup1_eq_none h2
    apply hc.step (e := (job, ⟨st, out, st'⟩))
    · intro j p' hp'
      rw [hset] at hp'
      obtain ⟨hne, hp'⟩ := setup_of_set (s := .free) (fun _ h => by cases h) hp'
      rw [hopens]
      refine .inr ⟨hp', fun _ h => ?_, ?_⟩
      · cases h
      · unfold setupAck
        rw [hfound]
        split
        · rintro ⟨⟩
          exact hne rfl
        · exact fun h => by cases h
    · intro j p' hp'
      rw [hopens] at hp'
      cases hp'
    · intro hne
      exact ⟨i, by rw [hfound]; rfl, .inl hne⟩
    · intro hty
      refine ⟨i, ?_⟩
      unfold setupAck
      rw [if_pos hty, hfound]
      rfl
    · rintro j ⟨hj, huse⟩
      rw [hfound] at hj
      cases hj
      refine ⟨p, hi, hdr, payload, s3, hrec, ht, hsid.symm, hs3, hp, ?_⟩
      rcases hput with ⟨hreg, hack⟩ | hput
      · rcases huse with huse | huse
        · exact absurd hreg huse
        · rw [setupAck_eq_none hack] at huse
          cases huse
      · exact hput
  cases hs with
  | other hreg hsame hout =>
      apply hc.quiet hreg _ (hout.type_ne (by decide) (by decide))
        (hout.type_ne (by decide) (by decide))
      intro i p hp
      rwa [hsame] at hp
  | @setup1 hdr payload i s1 proof hd ht hs1 htok hi hreg hset =>
      set p := setupPending cfg hdr.sessionId s1 job.setup
      set out := frame pktSetup2 hdr.sessionId hdr.seq
        (Setup2.bytes ⟨job.setup.nonce, job.setup.challenge, cfg.serverPub, proof⟩)
      have hty : pktTypeOf out = pktSetup2 := pktTypeOf_frame ..
      have hlt := (List.getElem?_eq_some_iff.mp (free_of_findIdx? hi)).1
      have hopens : acceptedSetup1 (job, ⟨st, out, st'⟩) = some (i, p) := by
        simp only [acceptedSetup1, hi, hset, getElem?_set_slot, hlt, and_self, if_true, hty]
      have hcloses : setupAck (job, ⟨st, out, st'⟩) = none :=
        setupAck_eq_none (by rw [hty]; decide)
      apply hc.step (e := (job, ⟨st, out, st'⟩))
      · intro j p' hp'
        rw [hset, getElem?_set_slot] at hp'
        split at hp'
        next hij =>
          cases hp'
          rw [← hij.1]
          exact .inl hopens
        next hij =>
          refine .inr ⟨hp', ?_, ?_⟩
          · rw [hopens]
            rintro p'' ⟨⟩
            exact hij ⟨rfl, hlt⟩
          · rw [hcloses]
            exact fun h => by cases h
      · intro j p' hp'
        rw [hopens] at hp'
        cases hp'
        exact ⟨hdr, payload, s1, proof, received_eq_some_iff.mpr hd, ht, hs1, htok,
          rfl, rfl⟩
      · exact fun hne => absurd hreg hne
      · intro hack
        rw [hty] at hack
        exact absurd hack (by decide)
      · exact fun j hu => absurd hu (not_uses hreg hcloses j)
  | setup3 hd ht hl hs3 hp hput hset =>
      exact henroll hd ht hl hs3 hp (.inr hput) hset (by rw [pktTypeOf_frame]; decide)
  | setup3Unsaved hd ht hl hs3 hp hput hset hout =>
      apply henroll hd ht hl hs3 hp _ hset (hout.type_ne (by decide) (by decide))
      exact hput.imp_left fun hreg => ⟨hreg, hout.type_ne (by decide) (by decide)⟩
  | @auth1 _ i p hi hreg hset hty =>
      apply hc.quiet hreg _ (by rw [hty]; decide) (by rw [hty]; decide)
      intro j p' hp
      rw [hset] at hp
      exact (setup_of_set (s := .auth p) (fun _ h => by cases h) hp).2
  | auth3 hl hreg hset hout =>
      have hty : ∀ ty, ty ≠ 0 → ty ≠ pktError → ty ≠ pktAuthAck → pktTypeOf out ≠ ty := by
        intro ty h0 h1 h2
        rcases hout with hout | hout
        · rw [hout]
          exact h2.symm
        · exact hout.type_ne h0 h1
      apply hc.quiet hreg _ (hty _ (by decide) (by decide) (by decide))
        (hty _ (by decide) (by decide) (by decide))
      intro j p hp
      rw [hset] at hp
      exact (setup_of_set (s := .free) (fun _ h => by cases h) hp).2

/-- Every run keeps the invariant. -/
theorem enrollment_run {cap : ℕ} {st₀ : ServerState} {capacity : ℕ}
    (h₀ : st₀.sessions = authSessionTableInit capacity) {h : List Entry} {st : ServerState}
    (r : (sequential S cap cfg st₀).Run Machine.anyInput h st) : Enrollment S cfg h st := by
  apply r.invariant
  · rintro s rfl
    refine ⟨?_, List.forall_mem_nil _, List.forall_mem_nil _, List.forall_mem_nil _, trivial⟩
    intro i p hp
    rw [h₀, authSessionTableInit, List.getElem?_replicate] at hp
    split at hp
    · cases hp
    · cases hp
  · intro h s job _ _ hc
    exact hc.served (dispatch_served s job)

/-- What holds of the answered packets of a run, oldest first. -/
structure Provenance (S : Suite q G) (cfg : ServerConfig) (run : List Entry) : Prop where
  /-- The registry changes by enrolling the record of an earlier accepted SETUP_1. -/
  change : ∀ (i : ℕ) e, run[i]? = some e → e.2.after.registry ≠ e.2.before.registry →
    ∃ p, ∃ j : ℕ, ∃ x, Enrolls S p e ∧ j < i ∧ run[j]? = some x ∧ Setup1Accepted cfg x p
  /-- No other packet changes the registry. -/
  quiet : ∀ e ∈ run, (∀ hdr payload, received e = some (hdr, payload) →
    hdr.pktType ≠ pktSetup3) → e.2.after.registry = e.2.before.registry
  /-- Every SETUP_ACK belongs to a slot. -/
  acked : ∀ e ∈ run, pktTypeOf e.2.reply = pktSetupAck → ∃ i, setupAck e = some i
  /-- Different SETUP_ACKs belong to different accepted SETUP_1s. -/
  acks : ∃ f, Correspondence.Matching acceptedSetup1 setupAck (Enrolls S) run f

theorem Enrollment.change {h : List Entry} {st : ServerState} (hc : Enrollment S cfg h st)
    {i : ℕ} {e : Entry} (he : h.reverse[i]? = some e)
    (hne : e.2.after.registry ≠ e.2.before.registry) :
    ∃ p j x, Enrolls S p e ∧ j < i ∧ h.reverse[j]? = some x ∧ Setup1Accepted cfg x p := by
  obtain ⟨k, hu⟩ := hc.learned e (List.mem_reverse.mp (List.mem_of_getElem? he)) hne
  obtain ⟨p, j, hen, hop⟩ := hc.matched.opener he hu
  obtain ⟨x, hx, hxp⟩ := hop.opened
  refine ⟨p, j, x, hen, hop.earlier, hx, hc.origin x ?_ k p hxp⟩
  exact List.mem_reverse.mp (List.mem_of_getElem? hx)

theorem Enrollment.provenance {h : List Entry} {st : ServerState} (hc : Enrollment S cfg h st) :
    Provenance S cfg h.reverse := by
  refine ⟨fun i e he hne => hc.change he hne, ?_, ?_, ?_⟩
  · intro e he hty
    by_contra hne
    obtain ⟨i, hi⟩ := List.getElem?_of_mem he
    obtain ⟨p, -, -, ⟨hdr, payload, -, hrec, ht, -⟩, -⟩ := hc.change hi hne
    exact hty hdr payload hrec ht
  · intro e he
    exact hc.acked e (List.mem_reverse.mp he)
  · apply hc.matched.exists_matching
    intro e i hi
    refine ⟨?_, .inr hi⟩
    unfold setupAck at hi
    split at hi
    · exact hi
    · cases hi

end ZkArche.C

namespace ZkArche

variable {Addr : Type} [DecidableEq Addr] {q : ℕ} {G : Type} [AddCommGroup G]
  [Module (ZMod q) G] [DecidableEq G]

/-- Enrollment provenance, for every run of the Rust server and every sequential run of the C
server that starts without sessions: the registry changes only while a SETUP_3 is processed,
and then by one put of the record of an earlier accepted SETUP_1 that it proves possession
for, and each accepted SETUP_1 leads to at most one fresh SETUP_ACK. -/
theorem enrollment_provenance (S : Suite q G) (profile : Rust.Profile) (serverPub : G)
    (records : Rust.Registry G) (replay : Rust.MemoryReplayCache) (token : Option (List UInt8))
    (now : ℕ) (ops : List (Rust.ServerOp Addr q G)) (cap : ℕ) (cfg : C.ServerConfig)
    (registry : C.Registry) (capacity : ℕ) (cache : C.ReplayCache) (jobs : List C.Job) :
    let rust : Rust.ServerState Addr G := .start profile serverPub records replay token now
    let c : C.ServerState := ⟨registry, C.authSessionTableInit capacity, cache⟩
    Rust.Provenance S ((Rust.server S rust).answers rust ops) ∧
      C.Provenance S cfg ((C.sequential S cap cfg c).answers c jobs) := by
  intro rust c
  have hrust : (Rust.server S rust).Run Machine.anyInput [] rust := .init rfl
  have hc : (C.sequential S cap cfg c).Run Machine.anyInput [] c := .init rfl
  exact ⟨(Rust.enrollment_run rfl (hrust.exec ops fun _ _ _ _ => trivial)).provenance,
    (C.enrollment_run rfl (hc.exec jobs fun _ _ _ _ => trivial)).provenance⟩

end ZkArche
