import ZkArche.Server.AtMostOnceC
import ZkArche.Server.EnrollmentC

/-!
# Enrollments that fail

Both servers put the record of a SETUP_3 into the registry in memory, and then write the
registry to its file.  When the file cannot be written, the device is told so, but its record
stays in memory, and its next AUTH_1 is accepted.

A SETUP_3 that is answered with an ERROR packet leaves the registry as it was exactly when
it is not such a failed write (`Unwritten`).
-/

namespace ZkArche.C

/-! ## The C server -/

/-- Putting the entry changes the registry. -/
def putChanges (reg : Registry) (e : RegistryEntry) : Prop :=
  match reg.find? fun r => r.deviceId = e.deviceId with
  | some r => r ≠ e
  | none => reg.length < registryMaxEntries

theorem authRegistryPut_cases (reg : Registry) (e : RegistryEntry) :
    (∃ reg', authRegistryPut reg e = .ok reg' ∧ (reg' ≠ reg ↔ putChanges reg e)) ∨
    (∃ err, authRegistryPut reg e = .error err) ∧ ¬ putChanges reg e := by
  unfold authRegistryPut putChanges
  cases hi : reg.findIdx? fun r => r.deviceId = e.deviceId with
  | none =>
      have hf : (reg.find? fun r => r.deviceId = e.deviceId) = none := by
        rw [List.find?_eq_none]
        intro r hr
        simp [List.findIdx?_eq_none_iff.mp hi r hr]
      simp only [hf]
      split
      next hfull => exact .inr ⟨⟨_, rfl⟩, by omega⟩
      next hroom => exact .inl ⟨_, rfl, by simp; omega⟩
  | some i =>
      obtain ⟨hlt, hp, hbefore⟩ := List.findIdx?_eq_some_iff_getElem.mp hi
      have hf : (reg.find? fun r => r.deviceId = e.deviceId) = some reg[i] := by
        rw [List.find?_eq_some_iff_getElem]
        refine ⟨hp, i, hlt, rfl, ?_⟩
        intro j hj
        simpa using hbefore j hj
      simp only [hf]
      refine .inl ⟨_, rfl, not_congr ?_⟩
      constructor
      · intro hset
        have hget := List.getElem_set_self (a := e) (i := i) (l := reg) (by simpa using hlt)
        simpa [hset] using hget
      · rintro rfl
        exact List.set_getElem_self hlt

variable {q : ℕ} {G : Type} [AddCommGroup G] [Module (ZMod q) G]

/-- The job is a SETUP_3 that proves possession of the key of the record it finds, the record
changes the registry, and the registry file cannot be written. -/
def Unwritten (S : Suite q G) (st : ServerState) (job : Job) : Prop :=
  ∃ hdr payload i p s3, authHeaderDecode job.input = .ok (hdr, payload) ∧
    hdr.pktType = pktSetup3 ∧ lookupSetup st.sessions hdr.sessionId = some (i, p) ∧
    authSetup3Decode payload = .ok s3 ∧ p.proves S s3.clientProof = true ∧
    putChanges st.registry p.entry ∧ ∃ err, job.save = .error err

/-- A SETUP_3 that is answered with an ERROR packet leaves the registry. -/
def EnrollmentAtomic (e : Entry) : Prop :=
  ∀ hdr payload, received e = some (hdr, payload) → hdr.pktType = pktSetup3 →
    pktTypeOf e.2.reply = pktError → e.2.after.registry = e.2.before.registry

variable {S : Suite q G} {cap : ℕ} {cfg : ServerConfig}

/-- What enrolling does to the registry, when it fails. -/
theorem enroll_error {st : ServerState} {i : ℕ} {p : PendingSetup} {save : Except AuthErr Unit}
    {e : AuthErr} (h : (enroll st i p save).2 = .error e) :
    (enroll st i p save).1.registry ≠ st.registry ↔
      putChanges st.registry p.entry ∧ ∃ err, save = .error err := by
  unfold enroll at h ⊢
  obtain ⟨reg', hput, hch⟩ | ⟨⟨err, hput⟩, hch⟩ := authRegistryPut_cases st.registry p.entry
  · simp only [hput] at h ⊢
    rw [hch]
    exact ⟨fun hc => ⟨hc, e, h⟩, fun hc => hc.1⟩
  · simp only [hput]
    exact ⟨fun hc => absurd rfl hc, fun hc => absurd hc.1 hch⟩

/-- A packet leaves the registry when it is refused, unless a write failed. -/
theorem enrollmentAtomic_iff (st : ServerState) (job : Job) :
    EnrollmentAtomic (job, ⟨st, ((dispatch S cap cfg job).run st).2,
      ((dispatch S cap cfg job).run st).1⟩) ↔ ¬ Unwritten S st job := by
  constructor
  · rintro hat ⟨hdr, payload, i, p, s3, hd, ht, hl, hs3, hp, hch, err, hsave⟩
    obtain ⟨-, hno⟩ | ⟨i', p', s3', hl', -, -, hrun⟩ :=
      dispatch_setup3_cases (S := S) cap cfg st hd ht
    · rw [hno i p s3 hl hs3] at hp
      cases hp
    · rw [hl] at hl'
      cases hl'
      have hen : (enroll st i p job.save).2 = .error err := by
        obtain ⟨reg', hput, -⟩ | ⟨-, hno⟩ := authRegistryPut_cases st.registry p.entry
        · simp only [enroll, hput, hsave]
        · exact absurd hch hno
      rw [hrun] at hat
      apply (enroll_error hen).mpr ⟨hch, err, hsave⟩
      apply hat hdr payload _ ht
      · rw [hen]
        exact pktTypeOf_errorReply hdr err
      · exact received_eq_some_iff.mpr hd
  · intro hno hdr payload hrec ht hty
    have hd := received_eq_some_iff.mp hrec
    obtain ⟨⟨err, hrun⟩, -⟩ | ⟨i, p, s3, hl, hs3, hp, hrun⟩ :=
      dispatch_setup3_cases (S := S) cap cfg st hd ht
    · rw [hrun]
    · rw [hrun] at hty ⊢
      cases hen : (enroll st i p job.save).2 with
      | ok u =>
          rw [hen] at hty
          cases hty
      | error e =>
          by_contra hne
          obtain ⟨hch, hsave⟩ := (enroll_error hen).mp hne
          exact hno ⟨hdr, payload, i, p, s3, hd, ht, hl, hs3, hp, hch, hsave⟩

end ZkArche.C

namespace ZkArche.Rust

/-! ## The Rust server -/

variable {Addr : Type} [DecidableEq Addr] {q : ℕ} {G : Type} [AddCommGroup G]
  [Module (ZMod q) G] [DecidableEq G]

/-- The packet is a SETUP_3 that is not answered out of the cache and proves possession of
the key of the record it finds, the registry does not hold the record, and the registry file
cannot be written, for a reason that fits an ERROR packet. -/
def Unwritten (S : Suite q G) (st : ServerState Addr G) (pk : Packet Addr q G) : Prop :=
  ∃ hdr payload p, parsePacket pk.bytes = .ok (hdr, payload) ∧ hdr.pktType = pktSetup3 ∧
    cachedFor st hdr pk.peer = none ∧ st.setupSessions.lookup hdr.sessionId = some p ∧
    setup3Check S p st.serverPub payload = .ok () ∧
    st.registry.lookup p.deviceId ≠ some p.record ∧
    ∃ err, pk.flush = .error err ∧ (ascii (wireCodeAndMsg err).2).length + 2 ≤ maxPayload

omit [DecidableEq Addr] [AddCommGroup G] [Module (ZMod q) G] [DecidableEq G] in
/-- A SETUP_3 that is answered with an ERROR packet leaves the records of the registry. -/
def EnrollmentAtomic (e : Entry Addr q G) : Prop :=
  ∀ hdr payload pkt, packetOf e = some (hdr, payload) → hdr.pktType = pktSetup3 →
    e.2.reply.bind Reply.sent = some pkt → pktTypeOf pkt = pktError →
    ∀ id, e.2.after.registry.lookup id = e.2.before.registry.lookup id

variable {S : Suite q G}

omit [AddCommGroup G] [Module (ZMod q) G] [DecidableEq G] [DecidableEq Addr] in
/-- An error that fits an ERROR packet is sent as one. -/
theorem conclude_error_of_fits (st : ServerState Addr G) (hdr : Header) (pk : Packet Addr q G)
    {err : ProtoError} (h : (ascii (wireCodeAndMsg err).2).length + 2 ≤ maxPayload) :
    ∃ pkt, (conclude st hdr pk (.error (.err err))).2 = .fresh pkt ∧ pktTypeOf pkt = pktError := by
  have hb : buildError hdr.sessionId hdr.seq (wireCodeAndMsg err).1 (wireCodeAndMsg err).2 =
      .ok _ := buildError_eq_ok_iff.mpr ⟨h, rfl⟩
  refine ⟨frame pktError hdr.sessionId hdr.seq
    (natLE 2 (wireCodeAndMsg err).1.asU16 ++ ascii (wireCodeAndMsg err).2), ?_, rfl⟩
  unfold conclude responseOf
  simp only [hb]

omit [AddCommGroup G] [Module (ZMod q) G] [DecidableEq G] [DecidableEq Addr] in
/-- Only an error that fits an ERROR packet is sent. -/
theorem fits_of_conclude_error {st : ServerState Addr G} {hdr : Header} {pk : Packet Addr q G}
    {err : ProtoError} {pkt : List UInt8}
    (h : (conclude st hdr pk (.error (.err err))).2.sent = some pkt) :
    (ascii (wireCodeAndMsg err).2).length + 2 ≤ maxPayload := by
  unfold conclude responseOf at h
  cases hb : buildError hdr.sessionId hdr.seq (wireCodeAndMsg err).1 (wireCodeAndMsg err).2 with
  | error stop =>
      simp only [hb, Reply.sent] at h
      cases h
  | ok p =>
      exact (buildError_eq_ok_iff.mp hb).1

theorem dispatchPacket_setup3 {st : ServerState Addr G} {pk : Packet Addr q G} {hdr : Header}
    {payload : List UInt8} (hp : parsePacket pk.bytes = .ok (hdr, payload))
    (ht : hdr.pktType = pktSetup3) (hc : cachedFor st hdr pk.peer = none) :
    dispatchPacket S st pk = conclude (dispatchSetup3 S st hdr payload pk).1 hdr pk
      (dispatchSetup3 S st hdr payload pk).2 := by
  have hne : hdr.pktType ≠ pktSetup1 := by
    rw [ht]
    decide
  unfold dispatchPacket
  simp only [hp, hc, respond, if_neg hne, if_pos ht]

/-- A packet leaves the registry when it is refused, unless a write failed. -/
theorem enrollmentAtomic_iff (st : ServerState Addr G) (pk : Packet Addr q G) :
    EnrollmentAtomic (.packet pk, (serverStep S st (.packet pk)).2) ↔ ¬ Unwritten S st pk := by
  constructor
  · rintro hat ⟨hdr, payload, p, hp, ht, hc, hl, hck, hne, err, hfl, hfit⟩
    have hdisp : dispatchSetup3 S st hdr payload pk
        = ({ st with registry := st.registry.insert p.deviceId p.record }, .error (.err err)) := by
      simp only [dispatchSetup3, hl, handleSetup3, hck, hfl, orStop, saveRecord]
      rfl
    obtain ⟨pkt, hfresh, hty⟩ := conclude_error_of_fits
      { st with registry := st.registry.insert p.deviceId p.record } hdr pk hfit
    have hpk := dispatchPacket_setup3 (S := S) hp ht hc
    rw [hdisp] at hpk
    have hreg := hat hdr payload pkt (packetOf_eq_some_iff.mpr hp) ht
      (by simp only [serverStep, hpk, hfresh, Option.bind_some, Reply.sent]) hty p.deviceId
    simp only [serverStep, hpk, conclude_registry, AList.lookup_insert] at hreg
    exact hne hreg.symm
  · intro hno hdr payload pkt hpk ht hsent hty id
    have hp := packetOf_eq_some_iff.mp hpk
    cases hc : cachedFor st hdr pk.peer with
    | some c => simp only [serverStep, dispatchPacket, hp, hc]
    | none =>
        simp only [serverStep, dispatchPacket_setup3 hp ht hc, conclude_registry,
          Option.bind_some] at hsent ⊢
        cases hl : st.setupSessions.lookup hdr.sessionId with
        | none => simp only [dispatchSetup3, hl]
        | some p =>
            cases hck : setup3Check S p st.serverPub payload with
            | error e => simp only [dispatchSetup3, hl, handleSetup3, hck, saveRecord]
            | ok u =>
                cases hfl : pk.flush with
                | ok u =>
                    -- the SETUP_3 is acknowledged
                    simp only [dispatchSetup3, hl, handleSetup3, hck, hfl, orStop, buildAck_eq,
                      Except.ok_bind', conclude, responseOf, Reply.sent, Option.some.injEq] at hsent
                    rw [← hsent] at hty
                    cases hty
                | error err =>
                    simp only [dispatchSetup3, hl, handleSetup3, hck, hfl, orStop,
                      Except.error_bind'] at hsent ⊢
                    have hfit := fits_of_conclude_error hsent
                    have hsame : st.registry.lookup p.deviceId = some p.record := by
                      by_contra hne
                      exact hno ⟨hdr, payload, p, hp, ht, hc, hl, hck, hne, err, hfl, hfit⟩
                    simp only [saveRecord]
                    by_cases hid : id = p.deviceId
                    · rw [hid, AList.lookup_insert, hsame]
                    · rw [AList.lookup_insert_ne hid]

end ZkArche.Rust

namespace ZkArche

/-! ## Runs -/

variable {q : ℕ} {G : Type} [AddCommGroup G] [Module (ZMod q) G] [DecidableEq G]

/-- In every run of either server, a SETUP_3 that is answered with an ERROR packet leaves the
registry exactly when it is not a write that failed. -/
theorem enrollment_atomicity (S : Suite q G) :
    (∀ (cap : ℕ) (cfg : C.ServerConfig) (st₀ : C.ServerState) (h : List C.Entry)
      (st : C.ServerState), (C.sequential S cap cfg st₀).Run Machine.anyInput h st →
      ∀ e ∈ h, C.EnrollmentAtomic e ↔ ¬ C.Unwritten S e.2.before e.1) ∧
    ∀ (Addr : Type) [DecidableEq Addr] (st₀ : Rust.ServerState Addr G)
      (h : List (Rust.Entry Addr q G)) (st : Rust.ServerState Addr G),
      (Rust.server S st₀).Run Machine.anyInput h st →
      ∀ e ∈ h, ∀ pk, e.1 = .packet pk →
        (Rust.EnrollmentAtomic e ↔ ¬ Rust.Unwritten S e.2.before pk) := by
  constructor
  · intro cap cfg st₀ h st hrun
    exact hrun.forall_mem fun s job => C.enrollmentAtomic_iff s job
  · intro Addr _ st₀ h st hrun
    refine hrun.forall_mem ?_
    rintro s op pk ⟨⟩
    exact Rust.enrollmentAtomic_iff s pk

/-! ## A device that was told it is not enrolled -/

/-- The SETUP_1 of the device, with its role commitment. -/
def demoEnroll : C.Job :=
  C.demoJob (frame pktSetup1 (byteString 15 7) 1 (C.Setup1.bytes ⟨[], C.demoDevice.deviceId,
    C.demoDevice.devicePub, byteString 31 9, C.demoDevice.roleCommitment⟩))

/-- The C server answers SETUP_1, cannot write the registry after SETUP_3, and answers
AUTH_1. -/
def demoUnsavedC : List C.Entry × C.ServerState :=
  (C.sequential smallSuite 4 C.demoConfig ⟨[], C.authSessionTableInit 2, C.authReplayCacheInit⟩).exec
    [] ⟨[], C.authSessionTableInit 2, C.authReplayCacheInit⟩
    [demoEnroll, { C.demoSetup3 with save := .error .storageFailure },
      C.demoJob (C.packetOf C.demoSent)]

/-- An AUTH_1 for the roles of the Rust server. -/
def demoRolesAuth1 : List UInt8 :=
  C.packetOf (C.authClientBuildAuth1 smallSuite { C.demoDevice with sessionId := byteString 15 9 }
    Rust.defaultAllowedRoles ⟨byteString 31 9, byteString 63 4, byteString 63 3, byteString 63 2,
      byteString 63 5, fun _ => byteString 63 6⟩ maxDatagram)

/-- A packet with fixed random bytes, from one peer. -/
def demoPacket (bytes : List UInt8) (flush : Except Rust.ProtoError Unit) :
    Rust.ServerOp Unit 11 (ZMod 11) :=
  .packet ⟨(), bytes, 0, .ok demoServerKey, flush, id, Rust.demoOrder,
    ⟨byteString 31 8, byteString 31 6, byteString 63 2⟩, ⟨byteString 31 8, byteString 63 4, byteString 63 2⟩⟩

/-- A Rust server that has just started. -/
def demoServer : Rust.ServerState Unit (ZMod 11) :=
  .start ⟨300, 1024, 2048⟩ demoServerKey ∅ (Rust.MemoryReplayCache.new 4) none 0

/-- The same packets at the Rust server. -/
def demoUnsavedRust : List (Rust.Entry Unit 11 (ZMod 11)) × Rust.ServerState Unit (ZMod 11) :=
  (Rust.server smallSuite demoServer).exec [] demoServer
    [demoPacket demoEnroll.input (.ok ()),
      demoPacket C.demoSetup3.input (.error (.storage "disk full")),
      demoPacket demoRolesAuth1 (.ok ())]

/-- Both servers refuse the SETUP_3 of a device, keep its record, and answer its AUTH_1 with an
AUTH_2. -/
theorem enrollment_atomicity_fails :
    ((∃ h st, (C.sequential smallSuite 4 C.demoConfig
        ⟨[], C.authSessionTableInit 2, C.authReplayCacheInit⟩).Run Machine.anyInput h st ∧
        ∃ e ∈ h, ¬ C.EnrollmentAtomic e) ∧
      demoUnsavedC.1.map (fun e => pktTypeOf e.2.reply) = [pktAuth2, pktError, pktSetup2]) ∧
    ((∃ h st, (Rust.server smallSuite demoServer).Run Machine.anyInput h st ∧
        ∃ e ∈ h, ¬ Rust.EnrollmentAtomic e) ∧
      demoUnsavedRust.1.map (fun e => (e.2.reply.bind Rust.Reply.sent).map pktTypeOf)
        = [some pktAuth2, some pktError, some pktSetup2]) := by
  obtain ⟨⟨e, he, hrec, hty, hne⟩, htypes⟩ :
      (∃ e ∈ demoUnsavedC.1, (C.received e).map (fun v => v.1.pktType) = some pktSetup3 ∧
        pktTypeOf e.2.reply = pktError ∧ e.2.after.registry ≠ e.2.before.registry) ∧
      demoUnsavedC.1.map (fun e => pktTypeOf e.2.reply) = [pktAuth2, pktError, pktSetup2] := by
    decide +kernel
  obtain ⟨⟨e', he', hrec', hsent, hafter, hbefore⟩, htypes'⟩ :
      (∃ e ∈ demoUnsavedRust.1,
        (Rust.packetOf e).map (fun v => v.1.pktType) = some pktSetup3 ∧
        (e.2.reply.bind Rust.Reply.sent).map pktTypeOf = some pktError ∧
        (e.2.after.registry.lookup C.demoDevice.deviceId).isSome ∧
        (e.2.before.registry.lookup C.demoDevice.deviceId).isNone) ∧
      demoUnsavedRust.1.map (fun e => (e.2.reply.bind Rust.Reply.sent).map pktTypeOf)
        = [some pktAuth2, some pktError, some pktSetup2] := by
    decide +kernel
  refine ⟨⟨⟨demoUnsavedC.1, demoUnsavedC.2, (Machine.Run.init rfl).exec _ fun _ _ _ _ => trivial,
    e, he, ?_⟩, htypes⟩, ⟨demoUnsavedRust.1, demoUnsavedRust.2,
      (Machine.Run.init rfl).exec _ fun _ _ _ _ => trivial, e', he', ?_⟩, htypes'⟩
  · intro hat
    obtain ⟨⟨hdr, payload⟩, hr, ht⟩ := Option.map_eq_some_iff.mp hrec
    exact hne (hat hdr payload hr ht hty)
  · intro hat
    obtain ⟨⟨hdr, payload⟩, hr, ht⟩ := Option.map_eq_some_iff.mp hrec'
    obtain ⟨pkt, hs, hty'⟩ := Option.map_eq_some_iff.mp hsent
    rw [hat hdr payload pkt hr ht hs hty', Option.isNone_iff_eq_none.mp hbefore] at hafter
    cases hafter

end ZkArche
