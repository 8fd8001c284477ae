import ZkArche.Proto.ClientSpecC
import ZkArche.Server.FinalPackets

/-!
# Enrollment with duplicated packets

A device retransmits its SETUP_1, or the network duplicates it.  The C server answers every
copy with a new SETUP_2 and keeps a pending record for each.  The device builds its SETUP_3 from
one SETUP_2, and the server checks it against the record in the lowest slot with the session
identifier.

So the SETUP_3 for the last SETUP_2 meets its own record exactly when no older record of the
session is in a lower slot at the last copy (`NoOlder`).  A new session takes the lowest free
slot, hence this depends on which slots other sessions held and gave back in between.  Packets
of other sessions after the last copy do not matter.
-/

namespace ZkArche.C

/-! ## Records of a session -/

/-- The slot holds the record, of a SETUP session with the identifier. -/
def HoldsSetup (t : SessionTable) (sid : SessionId) (i : ℕ) (p : PendingSetup) : Prop :=
  t[i]? = some (.setup p) ∧ p.sessionId = sid

/-- No slot below the first free one holds a SETUP session with the identifier. -/
def NoOlder (t : SessionTable) (sid : SessionId) : Prop :=
  ∀ i, t.findIdx? (· = .free) = some i → ∀ j < i, ∀ p, ¬ HoldsSetup t sid j p

/-- A lookup returns the record in the lowest slot. -/
theorem lookupSetup_eq_some_iff {t : SessionTable} {sid : SessionId} {i : ℕ} {p : PendingSetup} :
    lookupSetup t sid = some (i, p) ↔
      HoldsSetup t sid i p ∧ ∀ j < i, ∀ p', ¬ HoldsSetup t sid j p' := by
  have hslot : ∀ (j : ℕ) (hj : j < t.length), Slot.isSetup sid t[j] = true ↔
      ∃ p', HoldsSetup t sid j p' := by
    intro j hj
    simp only [HoldsSetup, List.getElem?_eq_getElem hj, Option.some.injEq]
    cases t[j] with
    | setup p' => simp [Slot.isSetup]
    | _ => simp [Slot.isSetup]
  constructor
  · intro h
    have hfound := lookupSetup_eq_some h
    refine ⟨hfound, ?_⟩
    intro j hji p' hp'
    unfold lookupSetup authSessionTableFindSetup at h
    split at h
    next => cases h
    next k hk =>
      obtain ⟨hlt, -, hbefore⟩ := List.findIdx?_eq_some_iff_getElem.mp hk
      have hki : k = i := by
        split at h
        next =>
          cases h
          rfl
        next => cases h
      exact hbefore j (hki ▸ hji) ((hslot j _).mpr ⟨p', hp'⟩)
  · rintro ⟨hp, hno⟩
    obtain ⟨hlt, -⟩ := List.getElem?_eq_some_iff.mp hp.1
    have hfind : authSessionTableFindSetup t sid = some i := by
      refine List.findIdx?_eq_some_iff_getElem.mpr ⟨hlt, (hslot i hlt).mpr ⟨p, hp⟩, ?_⟩
      intro j hji hset
      obtain ⟨p', hp'⟩ := (hslot j _).mp hset
      exact hno j hji p' hp'
    unfold lookupSetup
    simp only [hfind, hp.1]

/-- The tables hold the same records of the session. -/
def SameSetups (sid : SessionId) (t t' : SessionTable) : Prop :=
  ∀ i p, HoldsSetup t' sid i p ↔ HoldsSetup t sid i p

theorem SameSetups.lookup {sid : SessionId} {t t' : SessionTable} (h : SameSetups sid t t') :
    lookupSetup t' sid = lookupSetup t sid := by
  apply Option.ext
  rintro ⟨i, p⟩
  rw [lookupSetup_eq_some_iff, lookupSetup_eq_some_iff, h i p]
  refine and_congr_right fun _ => ?_
  exact forall₂_congr fun j _ => forall_congr' fun p' => not_congr (h j p')

/-- Writing a slot that neither holds nor gets a record of the session. -/
theorem SameSetups.set {sid : SessionId} {t : SessionTable} {i : ℕ} {s s' : Slot}
    (hi : t[i]? = some s) (hs : ∀ p, s = .setup p → p.sessionId ≠ sid)
    (hs' : ∀ p, s' = .setup p → p.sessionId ≠ sid) : SameSetups sid t (t.set i s') := by
  intro j p
  obtain ⟨hlt, -⟩ := List.getElem?_eq_some_iff.mp hi
  unfold HoldsSetup
  rw [getElem?_set_slot]
  by_cases hij : i = j
  · subst hij
    rw [if_pos ⟨rfl, hlt⟩, hi, Option.some.injEq, Option.some.injEq]
    exact iff_of_false (fun h => hs' p h.1 h.2) (fun h => hs p h.1 h.2)
  · rw [if_neg fun h => hij h.1]

/-- The records of the session after one more in the first free slot. -/
theorem holdsSetup_set_iff {sid : SessionId} {t : SessionTable} {i : ℕ} {p : PendingSetup}
    (hi : t[i]? = some .free) (hp : p.sessionId = sid) (j : ℕ) (p' : PendingSetup) :
    HoldsSetup (t.set i (.setup p)) sid j p' ↔ (j = i ∧ p' = p) ∨ HoldsSetup t sid j p' := by
  obtain ⟨hlt, -⟩ := List.getElem?_eq_some_iff.mp hi
  unfold HoldsSetup
  rw [getElem?_set_slot]
  by_cases hij : i = j
  · subst hij
    rw [if_pos ⟨rfl, hlt⟩, hi]
    constructor
    · rintro ⟨h, -⟩
      cases h
      exact .inl ⟨rfl, rfl⟩
    · rintro (⟨-, rfl⟩ | ⟨h, -⟩)
      · exact ⟨rfl, hp⟩
      · cases h
  · rw [if_neg fun h => hij h.1]
    exact ⟨.inr, fun h => h.resolve_left fun h => hij h.1.symm⟩

/-- The new record is found exactly when no older one is in a lower slot. -/
theorem lookupSetup_set_iff {sid : SessionId} {t : SessionTable} {i : ℕ} {p : PendingSetup}
    (hi : t.findIdx? (· = .free) = some i) (hp : p.sessionId = sid) :
    lookupSetup (t.set i (.setup p)) sid = some (i, p) ↔ NoOlder t sid := by
  have hset := holdsSetup_set_iff (free_of_findIdx? hi) hp
  rw [lookupSetup_eq_some_iff]
  constructor
  · rintro ⟨-, hno⟩ k hk j hj p' hp'
    rw [hi] at hk
    cases hk
    exact hno j hj p' ((hset j p').mpr (.inr hp'))
  · intro hno
    refine ⟨(hset i p).mpr (.inl ⟨rfl, rfl⟩), ?_⟩
    intro j hj p' hp'
    rcases (hset j p').mp hp' with ⟨rfl, -⟩ | hold
    · exact lt_irrefl _ hj
    · exact hno i hi j hj p' hold

/-! ## Other sessions -/

variable {q : ℕ} {G : Type} [AddCommGroup G] [Module (ZMod q) G]

/-- The packet is of another session. -/
def OtherSession (sid : SessionId) (job : Job) : Prop :=
  ∀ hdr payload, authHeaderDecode job.input = .ok (hdr, payload) → hdr.sessionId ≠ sid

variable {S : Suite q G} {cap : ℕ} {cfg : ServerConfig}

/-- A packet leaves the records of other sessions. -/
theorem Served.sameSetups {sid : SessionId} {st st' : ServerState} {job : Job} {out : List UInt8}
    (h : Served S cfg st job st' out) (ho : OtherSession sid job) :
    SameSetups sid st.sessions st'.sessions := by
  have hfree : ∀ p, Slot.free = .setup p → p.sessionId ≠ sid := fun p h => by cases h
  -- the slot of a SETUP_3
  have hfound : ∀ {hdr : Header} {payload : List UInt8} {i : ℕ} {p : PendingSetup},
      authHeaderDecode job.input = .ok (hdr, payload) →
      lookupSetup st.sessions hdr.sessionId = some (i, p) →
      SameSetups sid st.sessions (st.sessions.set i .free) := by
    intro hdr payload i p hd hl
    obtain ⟨hi, hsid⟩ := lookupSetup_eq_some hl
    refine SameSetups.set hi ?_ hfree
    rintro _ ⟨⟩
    rw [hsid]
    exact ho hdr payload hd
  cases h with
  | other _ hs _ =>
      rw [hs]
      exact fun _ _ => Iff.rfl
  | setup1 hd _ _ _ hi _ hs =>
      rw [hs]
      refine SameSetups.set (free_of_findIdx? hi) hfree ?_
      rintro _ ⟨⟩
      exact ho _ _ hd
  | setup3 hd _ hl _ _ _ hs =>
      rw [hs]
      exact hfound hd hl
  | setup3Unsaved hd _ hl _ _ _ hs _ =>
      rw [hs]
      exact hfound hd hl
  | auth1 hi _ hs _ =>
      rw [hs]
      exact SameSetups.set (free_of_findIdx? hi) hfree fun p h => by cases h
  | auth3 hl _ hs _ =>
      rw [hs]
      exact SameSetups.set (lookupAuth_eq_some hl).1 (fun p h => by cases h) hfree

/-- The lookup of a session does not change by later packets of other sessions. -/
theorem lookupSetup_since {st₀ st : ServerState} {h later earlier : List Entry} {e : Entry}
    {sid : SessionId} (r : (sequential S cap cfg st₀).Run Machine.anyInput h st)
    (hh : h = later ++ e :: earlier) (hothers : ∀ x ∈ later, OtherSession sid x.1) :
    lookupSetup st.sessions sid = lookupSetup e.2.after.sessions sid := by
  have hsame : SameSetups sid e.2.after.sessions st.sessions := by
    refine r.since (P := fun s => SameSetups sid e.2.after.sessions s.sessions) ?_ ?_ hh
    · intro s hs
      rw [← hs]
      exact fun _ _ => Iff.rfl
    · intro s x hx _ hsame i p
      rw [← hsame i p]
      exact (dispatch_served s x.1).sameSetups (hothers x hx) i p
  exact hsame.lookup

/-! ## An honest device -/

/-- The calls of `do_setup` up to the SETUP_3, of a device that holds its key: the contexts
before, between and after them, the SETUP_2 it handles, and the packets it sends. -/
structure DoSetup (S : Suite q G) where
  x : ZMod q
  ctx₀ : ClientCtx
  ctx₁ : ClientCtx
  ctx₂ : ClientCtx
  ctx₃ : ClientCtx
  token : List UInt8
  draws : Setup1Draws
  allowTofu : Bool
  wide : Bytes 64
  setup1 : List UInt8
  setup2 : List UInt8
  setup3 : List UInt8
  deviceSk : ctx₀.deviceSk = encScalar x
  devicePub : ctx₀.devicePub = S.encPoint (x • S.base)
  built1 : authClientBuildSetup1 S ctx₀ token draws maxDatagram = (ctx₁, .ok setup1)
  handled2 : authClientHandleSetup2 S ctx₁ setup2 allowTofu = (ctx₂, .ok ())
  built3 : authClientBuildSetup3 S ctx₂ wide maxDatagram = (ctx₃, .ok setup3)

namespace DoSetup

/-- The session identifier of the device. -/
def sessionId (d : DoSetup S) : SessionId := d.ctx₁.sessionId

/-- The record that the SETUP_3 is meant for. -/
def record (d : DoSetup S) : PendingSetup :=
  ⟨d.ctx₁.sessionId, d.ctx₁.deviceId, d.ctx₁.devicePub, d.ctx₁.roleCommitment, d.ctx₁.clientNonce,
    d.ctx₂.pendingServerNonce, d.ctx₂.pendingSetupChallenge, d.ctx₂.pendingServerPub⟩

/-- The proof of the device for a record. -/
def proof (d : DoSetup S) : Except AuthErr SchnorrProof :=
  authProveSetupClient S d.wide (encScalar d.x) d.record.deviceId d.record.devicePub
    d.record.serverPub d.record.clientNonce d.record.serverNonce d.record.setupChallenge

/-- The challenge of the proof. -/
def challenge (d : DoSetup S) : Bytes 32 → Except AuthErr (Bytes 32) :=
  setupClientChallenge S d.record.deviceId d.record.devicePub d.record.serverPub
    d.record.clientNonce d.record.serverNonce d.record.setupChallenge

/-- No product in the verification of the proof is the identity: libsodium would report it as a
failure. -/
def Regular (d : DoSetup S) : Prop :=
  ∀ proof c, d.proof = .ok proof → d.challenge proof.a = .ok c →
    (clamped proof.s : ZMod q) • S.base ≠ 0 ∧ (clamped c : ZMod q) • d.x • S.base ≠ 0

variable [NeZero q] (d : DoSetup S)

omit [NeZero q] in
/-- The SETUP_1 on the wire. -/
theorem setup1_eq : d.token.length ≤ maxPairingToken ∧
    d.setup1 = frame pktSetup1 d.sessionId d.ctx₁.seq (Setup1.bytes ⟨d.token, d.ctx₁.deviceId,
      d.ctx₁.devicePub, d.ctx₁.clientNonce, d.ctx₁.roleCommitment⟩) := by
  obtain ⟨htok, hpkt, -, -⟩ := authClientBuildSetup1_eq_ok S d.built1
  exact ⟨htok, hpkt⟩

/-- The SETUP_3 on the wire, and whether its proof is accepted for the record. -/
theorem setup3_eq : ∃ proof, d.setup3 = frame pktSetup3 d.sessionId (d.ctx₂.seq + 1)
    (Setup3.bytes ⟨proof⟩) ∧ (d.record.proves S proof = true ↔ d.Regular) := by
  obtain ⟨-, -, hsk₁, hpub₁⟩ := authClientBuildSetup1_eq_ok S d.built1
  obtain ⟨s2, hdr, payload, -, -, -, hsid, hsk, hid, hpub, hnonce, -⟩ :=
    authClientHandleSetup2_eq_ok S d.handled2
  obtain ⟨proof, hproof, hpkt⟩ := authClientBuildSetup3_eq_ok S d.built3
  rw [hsk, hsk₁, d.deviceSk, hid, hpub, hnonce] at hproof
  rw [hsid] at hpkt
  refine ⟨proof, hpkt, ?_⟩
  have hprove : proveSchnorr q (authScalarmultBase S) d.challenge d.wide (encScalar d.x)
      = .ok proof := hproof
  have hkey : d.record.devicePub = S.encPoint (d.x • S.base) := hpub₁.trans d.devicePub
  have hcan : ∀ a c, d.challenge a = .ok c → ∃ y : ZMod q, c = encScalar y :=
    fun _ _ h => challenge_canonical h
  obtain ⟨c, hc, hiff⟩ := verifySchnorr_of_prove S (fun _ _ => authScalarmultBase_eq_ok_iff) hcan
    hprove
  show verifySchnorr S (authScalarmultBase S) d.challenge d.record.devicePub proof = true ↔ _
  rw [hkey, hiff]
  constructor
  · intro h proof' c' hproof' hc'
    cases hprove.symm.trans hproof'
    cases hc.symm.trans hc'
    exact h
  · exact fun h => h proof c hprove hc

omit [NeZero q] in
/-- When the SETUP_1 is answered with the SETUP_2, the record takes the first free slot. -/
theorem answered {st : ServerState} {job : Job} (hin : job.input = d.setup1)
    (hout : ((dispatch S cap cfg job).run st).2 = d.setup2) :
    ∃ i, st.sessions.findIdx? (· = .free) = some i ∧
      ((dispatch S cap cfg job).run st).1.sessions = st.sessions.set i (.setup d.record) := by
  obtain ⟨htok, hpkt⟩ := d.setup1_eq
  obtain ⟨s2, hdr, payload, hd, ht, hs2, -, -, -, -, -, hpub, hnonce, hchal⟩ :=
    authClientHandleSetup2_eq_ok S d.handled2
  have hd₁ := authHeaderDecode_frame pktSetup1 d.sessionId d.ctx₁.seq (Setup1.bytes ⟨d.token,
    d.ctx₁.deviceId, d.ctx₁.devicePub, d.ctx₁.clientNonce, d.ctx₁.roleCommitment⟩)
  rw [← hpkt, ← hin] at hd₁
  obtain ⟨err, hrun⟩ | ⟨i, s1, proof, hi, hs1, hrun⟩ :=
    dispatch_setup1_cases (S := S) cap cfg st hd₁ rfl
  · rw [hrun, errorReply_eq] at hout
    rw [← hout, authHeaderDecode_frame] at hd
    cases hd
    cases ht
  · rw [hrun] at hout ⊢
    rw [Setup1.decode_bytes htok] at hs1
    cases hs1
    rw [← hout, authHeaderDecode_frame] at hd
    cases hd
    rw [Setup2.decode_bytes] at hs2
    cases hs2
    refine ⟨i, hi, ?_⟩
    rw [record, hpub, hnonce, hchal]
    rfl

end DoSetup

/-! ## Runs -/

/-- The SETUP_3 is acknowledged, and the device is in the registry. -/
def Enrolled (S : Suite q G) (cap : ℕ) (cfg : ServerConfig) (st : ServerState) (job : Job)
    (p : PendingSetup) : Prop :=
  pktTypeOf ((dispatch S cap cfg job).run st).2 = pktSetupAck ∧
    p.entry ∈ ((dispatch S cap cfg job).run st).1.registry

theorem mem_of_authRegistryPut {reg reg' : Registry} {e : RegistryEntry}
    (h : authRegistryPut reg e = .ok reg') : e ∈ reg' := by
  unfold authRegistryPut at h
  split at h
  next i hi =>
    cases h
    obtain ⟨hlt, -⟩ := List.findIdx?_eq_some_iff_getElem.mp hi
    exact List.mem_set hlt e
  next =>
    split at h
    next => cases h
    next =>
      cases h
      exact List.mem_append_right _ List.mem_cons_self

/-- A SETUP_3 for the record that it finds is acknowledged exactly when it proves possession of
its key, while the registry has room and its file can be written. -/
theorem enrolled_iff {st : ServerState} {job : Job} {hdr : Header} {i : ℕ} {p : PendingSetup}
    {s3 : Setup3} (hd : authHeaderDecode job.input = .ok (hdr, s3.bytes))
    (ht : hdr.pktType = pktSetup3) (hl : lookupSetup st.sessions hdr.sessionId = some (i, p))
    (hroom : ¬ NoRoom st.registry p.deviceId) (hsave : job.save = .ok ()) :
    Enrolled S cap cfg st job p ↔ p.proves S s3.clientProof = true := by
  have hs3 := Setup3.decode_bytes s3
  unfold Enrolled
  obtain ⟨⟨err, hrun⟩, hno⟩ | ⟨i', p', s3', hl', hs3', hp, hrun⟩ :=
    dispatch_setup3_cases (S := S) cap cfg st hd ht
  · rw [hrun, pktTypeOf_errorReply, hno i p s3 hl hs3]
    exact iff_of_false (fun h => by cases h.1) (fun h => by cases h)
  · cases hl.symm.trans hl'
    cases hs3.symm.trans hs3'
    refine iff_of_true ?_ hp
    cases hput : authRegistryPut st.registry p.entry with
    | error err => exact absurd (authRegistryPut_eq_error_iff.mp ⟨err, hput⟩) hroom
    | ok reg =>
        rw [hrun]
        simp only [enroll, hput, hsave]
        exact ⟨pktTypeOf_frame .., mem_of_authRegistryPut hput⟩

/-- Whatever happened before, a SETUP_1 of an honest device is answered with a SETUP_2, and only
packets of other sessions follow.  Then the SETUP_3 that the device builds from the SETUP_2 is
looked up in the slot of this SETUP_1 exactly when no lower slot held an older record of the
session at the time, and if so the device is enrolled, unless its proof is not regular. -/
theorem duplicated_setup (S : Suite q G) [NeZero q] (cap : ℕ) (cfg : ServerConfig)
    (st₀ : ServerState) {h later earlier : List Entry} {e : Entry} {st : ServerState}
    (r : (sequential S cap cfg st₀).Run Machine.anyInput h st) (hh : h = later ++ e :: earlier)
    (d : DoSetup S) (hin : e.1.input = d.setup1) (hout : e.2.reply = d.setup2)
    (hothers : ∀ x ∈ later, OtherSession d.sessionId x.1) (job : Job)
    (hjob : job.input = d.setup3) (hroom : ¬ NoRoom st.registry d.record.deviceId)
    (hsave : job.save = .ok ()) :
    (NoOlder e.2.before.sessions d.sessionId →
      (Enrolled S cap cfg st job d.record ↔ d.Regular)) ∧
    ∃ i, e.2.before.sessions.findIdx? (· = .free) = some i ∧
      (lookupSetup st.sessions d.sessionId = some (i, d.record) ↔
        NoOlder e.2.before.sessions d.sessionId) := by
  have hsteps : ∀ x ∈ h, x.2.reply = ((dispatch S cap cfg x.1).run x.2.before).2 ∧
      x.2.after = ((dispatch S cap cfg x.1).run x.2.before).1 :=
    r.forall_mem fun s job => ⟨rfl, rfl⟩
  obtain ⟨hreply, hafter⟩ := hsteps e (hh ▸ List.mem_append_right _ List.mem_cons_self)
  obtain ⟨i, hi, hset⟩ := d.answered hin (hreply.symm.trans hout)
  have hfound : lookupSetup st.sessions d.sessionId = some (i, d.record) ↔
      NoOlder e.2.before.sessions d.sessionId := by
    rw [lookupSetup_since r hh hothers, hafter, hset]
    exact lookupSetup_set_iff hi rfl
  refine ⟨fun hno => ?_, i, hi, hfound⟩
  obtain ⟨proof, hpkt, hproves⟩ := d.setup3_eq
  have hd : authHeaderDecode job.input
      = .ok (Header.fresh pktSetup3 d.sessionId (d.ctx₂.seq + 1), Setup3.bytes ⟨proof⟩) := by
    rw [hjob, hpkt]
    exact authHeaderDecode_frame ..
  rw [enrolled_iff hd rfl (hfound.mpr hno) hroom hsave]
  exact hproves

/-! ## Two copies of a SETUP_1 -/

/-- A server without devices, with two free slots. -/
def demoEmpty : ServerState := ⟨[], authSessionTableInit 2, authReplayCacheInit⟩

/-- A device with a session of its own. -/
def demoNeighbour : ClientCtx :=
  { demoDevice with deviceId := byteString 31 2, sessionId := byteString 15 9 }

/-- The device after it built a SETUP_1, and the SETUP_1. -/
def demoSetupSent (ctx : ClientCtx) : ClientResult (List UInt8) :=
  authClientBuildSetup1 smallSuite ctx [] ⟨byteString 31 9, byteString 63 2⟩ maxDatagram

/-- A copy of the SETUP_1, for which the server draws a nonce. -/
def demoCopy (ctx : ClientCtx) (nonce : UInt8) : Job :=
  { demoJob (packetOf (demoSetupSent ctx)) with
    setup := ⟨byteString 31 nonce, byteString 15 6, byteString 63 2⟩ }

/-- The SETUP_2 for a copy. -/
def demoSetup2 (ctx : ClientCtx) (nonce : UInt8) : List UInt8 :=
  ((dispatch smallSuite 4 demoConfig (demoCopy ctx nonce)).run demoEmpty).2

/-- The device after it handled the SETUP_2 for a copy. -/
def demoHandled (ctx : ClientCtx) (nonce : UInt8) : ClientResult Unit :=
  authClientHandleSetup2 smallSuite (demoSetupSent ctx).1 (demoSetup2 ctx nonce) false

/-- The SETUP_3 for a copy. -/
def demoAnswer (ctx : ClientCtx) (nonce : UInt8) : ClientResult (List UInt8) :=
  authClientBuildSetup3 smallSuite (demoHandled ctx nonce).1 (byteString 63 2) maxDatagram

theorem eq_packetOf {r : ClientResult (List UInt8)} (h : r.2.toOption.isSome = true) :
    r = (r.1, .ok (packetOf r)) := by
  obtain ⟨ctx, res⟩ := r
  cases res with
  | error e => cases h
  | ok pkt => rfl

theorem eq_ok_unit {r : ClientResult Unit} (h : r.2.toOption.isSome = true) :
    r = (r.1, .ok ()) := by
  obtain ⟨ctx, res⟩ := r
  cases res with
  | error e => cases h
  | ok u => rfl

theorem demo_calls :
    (demoSetupSent demoDevice).2.toOption.isSome = true ∧
    (demoHandled demoDevice 4).2.toOption.isSome = true ∧
    (demoAnswer demoDevice 4).2.toOption.isSome = true := by
  decide +kernel

/-- The device builds its SETUP_3 from the SETUP_2 for the copy with the nonce 4. -/
def demoDoSetup : DoSetup smallSuite where
  x := demoDeviceKey
  ctx₀ := demoDevice
  ctx₁ := (demoSetupSent demoDevice).1
  ctx₂ := (demoHandled demoDevice 4).1
  ctx₃ := (demoAnswer demoDevice 4).1
  token := []
  draws := ⟨byteString 31 9, byteString 63 2⟩
  allowTofu := false
  wide := byteString 63 2
  setup1 := packetOf (demoSetupSent demoDevice)
  setup2 := demoSetup2 demoDevice 4
  setup3 := packetOf (demoAnswer demoDevice 4)
  deviceSk := by decide +kernel
  devicePub := by decide +kernel
  built1 := eq_packetOf demo_calls.1
  handled2 := eq_ok_unit demo_calls.2.1
  built3 := eq_packetOf demo_calls.2.2

theorem demoDoSetup_regular : demoDoSetup.Regular := by
  have hcheck : ∀ proof ∈ demoDoSetup.proof.toOption,
      ∀ c ∈ (demoDoSetup.challenge proof.a).toOption,
        (clamped proof.s : ZMod 11) • smallSuite.base ≠ 0 ∧
          (clamped c : ZMod 11) • demoDoSetup.x • smallSuite.base ≠ 0 := by
    decide +kernel
  intro proof c hp hc
  exact hcheck proof (by rw [hp]; rfl) c (by rw [hc]; rfl)

/-- The history and the state after jobs. -/
def demoServed (jobs : List Job) : List Entry × ServerState :=
  (sequential smallSuite 4 demoConfig demoEmpty).exec [] demoEmpty jobs

/-- The answer to a job after others. -/
def demoEntry (jobs : List Job) (job : Job) : Entry :=
  (job, ((sequential smallSuite 4 demoConfig demoEmpty).step (demoServed jobs).2 job).2)

theorem demoEntry_run (jobs : List Job) (job : Job) :
    (sequential smallSuite 4 demoConfig demoEmpty).Run Machine.anyInput
      (demoEntry jobs job :: (demoServed jobs).1) (demoEntry jobs job).2.after :=
  ((Machine.Run.init rfl).exec jobs fun _ _ _ _ => trivial).step job trivial

theorem demoEntry_before (jobs : List Job) (job : Job) :
    (demoEntry jobs job).2.before = (demoServed jobs).2 := rfl

theorem demoJob_eq (input : List UInt8) :
    (demoJob input).input = input ∧ (demoJob input).save = .ok () := ⟨rfl, rfl⟩

theorem demoDoSetup_setup1 (nonce : UInt8) :
    (demoCopy demoDevice nonce).input = demoDoSetup.setup1 := by
  simp only [demoCopy, demoJob, demoDoSetup]

/-- Another device takes the first slot, a copy of the SETUP_1 the second, and the other device
is enrolled. -/
def demoBefore : List Job :=
  [demoCopy demoNeighbour 8, demoCopy demoDevice 8, demoJob (packetOf (demoAnswer demoNeighbour 8))]

/-- The next copy takes the first slot, and the device is enrolled. -/
theorem duplicated_setup_lower_slot :
    (demoServed demoBefore).2.sessions[1]?.any (Slot.isSetup demoDoSetup.sessionId) = true ∧
    Enrolled smallSuite 4 demoConfig (demoEntry demoBefore (demoCopy demoDevice 4)).2.after
      (demoJob demoDoSetup.setup3) demoDoSetup.record := by
  obtain ⟨hcopy, hfree, hreply, hroom⟩ :
      (demoServed demoBefore).2.sessions[1]?.any (Slot.isSetup demoDoSetup.sessionId) = true ∧
      (demoServed demoBefore).2.sessions.findIdx? (· = .free) = some 0 ∧
      (demoEntry demoBefore (demoCopy demoDevice 4)).2.reply = demoDoSetup.setup2 ∧
      (demoEntry demoBefore (demoCopy demoDevice 4)).2.after.registry.length
        < registryMaxEntries := by
    decide +kernel
  have hno : NoOlder (demoEntry demoBefore (demoCopy demoDevice 4)).2.before.sessions
      demoDoSetup.sessionId := by
    intro i hi j hj
    rw [demoEntry_before, hfree] at hi
    cases hi
    cases hj
  refine ⟨hcopy, ?_⟩
  obtain ⟨hinput, hsave⟩ := demoJob_eq demoDoSetup.setup3
  have henroll := duplicated_setup smallSuite 4 demoConfig demoEmpty
    (demoEntry_run demoBefore (demoCopy demoDevice 4)) (List.nil_append _).symm demoDoSetup
    (demoDoSetup_setup1 4) hreply (List.forall_mem_nil _) (demoJob demoDoSetup.setup3) hinput
    (fun hfull => absurd hfull.1 (Nat.not_le.mpr hroom)) hsave
  exact (henroll.1 hno).mpr demoDoSetup_regular

/-- Two copies of a SETUP_1 take two slots.  The device is refused when it answers the second
SETUP_2. -/
theorem duplicated_setup_fails :
    ∃ (d : DoSetup smallSuite) (e₁ e₂ : Entry) (st : ServerState) (job : Job),
      (sequential smallSuite 4 demoConfig demoEmpty).Run Machine.anyInput [e₂, e₁] st ∧
      (e₁.1.input = d.setup1 ∧ pktTypeOf e₁.2.reply = pktSetup2) ∧
      (e₂.1.input = d.setup1 ∧ e₂.2.reply = d.setup2) ∧
      job.input = d.setup3 ∧ job.save = .ok () ∧ ¬ NoRoom st.registry d.record.deviceId ∧
      d.Regular ∧ pktTypeOf ((dispatch smallSuite 4 demoConfig job).run st).2 = pktError ∧
      ¬ Enrolled smallSuite 4 demoConfig st job d.record := by
  obtain ⟨hfirst, hsecond, hroom, hrefused⟩ :
      pktTypeOf (demoEntry [] (demoCopy demoDevice 8)).2.reply = pktSetup2 ∧
      (demoEntry [demoCopy demoDevice 8] (demoCopy demoDevice 4)).2.reply = demoDoSetup.setup2 ∧
      (demoEntry [demoCopy demoDevice 8] (demoCopy demoDevice 4)).2.after.registry.length
        < registryMaxEntries ∧
      pktTypeOf ((dispatch smallSuite 4 demoConfig (demoJob demoDoSetup.setup3)).run
        (demoEntry [demoCopy demoDevice 8] (demoCopy demoDevice 4)).2.after).2 = pktError := by
    decide +kernel
  obtain ⟨hinput, hsave⟩ := demoJob_eq demoDoSetup.setup3
  refine ⟨demoDoSetup, demoEntry [] (demoCopy demoDevice 8),
    demoEntry [demoCopy demoDevice 8] (demoCopy demoDevice 4), _, demoJob demoDoSetup.setup3,
    demoEntry_run [demoCopy demoDevice 8] (demoCopy demoDevice 4),
    ⟨demoDoSetup_setup1 8, hfirst⟩, ⟨demoDoSetup_setup1 4, hsecond⟩, hinput, hsave,
    fun hfull => absurd hfull.1 (Nat.not_le.mpr hroom), demoDoSetup_regular, hrefused, ?_⟩
  rintro ⟨hack, -⟩
  cases hrefused.symm.trans hack

end ZkArche.C
