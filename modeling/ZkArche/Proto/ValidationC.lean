import ZkArche.Crypto.SmallSuite
import ZkArche.Proto.ClientSpecC
import ZkArche.Proto.ServerSpecC

/-!
# What the C handlers validate

The decoders of `payloads.c` check lengths.  The handlers check four fields with
`auth_check_point` (`device_pub`, `server_pub`, `eph_c`, `eph_s`), and two with a variant that
lets the identity pass (`role_commitment`, `c_prime`).  Every other field is covered by the
proof verification or not at all.

A commitment of a proof is an operand of an addition, which fails on an invalid encoding.  A
response or a share is an operand of a multiplication, which fails on a zero scalar and reads
any other one modulo the order.

The fields of a message are listed by the kind of their check (`Carried`), and every message
that one of the five handlers accepts has passed it (`accepted_fields_checked`).
-/

namespace ZkArche.C

variable {q : ℕ} {G : Type} [AddCommGroup G] [Module (ZMod q) G]

/-- The canonical encoding of a point. -/
def ValidPoint (S : Suite q G) (p : Bytes 32) : Prop := ∃ P, S.decPoint p = some P

/-- The canonical encoding of a point other than the identity. -/
def ProperPoint (S : Suite q G) (p : Bytes 32) : Prop := ∃ P, S.decPoint p = some P ∧ P ≠ 0

/-- What the handlers ensure of the fields of a message. -/
structure Carried.Checked (S : Suite q G) (f : Carried) : Prop where
  keys : ∀ p ∈ f.keys, ProperPoint S p
  points : ∀ p ∈ f.points, ValidPoint S p
  scalars : ∀ s ∈ f.scalars, (clamped s : ZMod q) ≠ 0

/-- Every point is proper and every scalar is a canonical encoding. -/
structure Carried.Strict (S : Suite q G) (f : Carried) : Prop where
  points : ∀ p ∈ f.keys ++ f.points, ProperPoint S p
  scalars : ∀ s ∈ f.scalars, ∃ x : ZMod q, decScalar s = some x

/-- The fields of a message that a handler accepts. -/
inductive Accepted (S : Suite q G) : Carried → Prop
  | setup1 {cfg : ServerConfig} {sid : SessionId} {seq : UInt32} {payload : List UInt8}
      {draws : Setup2Draws} {outCap : ℕ} {r : PendingSetup × List UInt8} {m : Setup1} :
      authServerHandleSetup1 S cfg sid seq payload draws outCap = .ok r →
      authSetup1Decode payload = .ok m → Accepted S m.carried
  | setup3 {pending : PendingSetup} {sid : SessionId} {seq : UInt32} {payload pkt : List UInt8}
      {outCap : ℕ} {m : Setup3} :
      authServerHandleSetup3 S pending sid seq payload outCap = .ok pkt →
      authSetup3Decode payload = .ok m → Accepted S m.carried
  | auth1 {cfg : ServerConfig} {sid : SessionId} {seq : UInt32} {payload : List UInt8}
      {lookup : Except AuthErr (Bytes 32 × Bytes 32)} {draws : Auth2Draws} {outCap : ℕ}
      {r : PendingAuth × List UInt8} {m : Auth1} :
      authServerHandleAuth1 S cfg sid seq payload lookup draws outCap = .ok r →
      authAuth1Decode payload = .ok m → Accepted S m.carried
  | setup2 {ctx : ClientCtx} {input payload : List UInt8} {tofu : Bool} {hdr : Header}
      {m : Setup2} :
      (authClientHandleSetup2 S ctx input tofu).2 = .ok () →
      authHeaderDecode input = .ok (hdr, payload) → authSetup2Decode payload = .ok m →
      Accepted S m.carried
  | auth2 {ctx : ClientCtx} {input payload : List UInt8} {hdr : Header} {m : Auth2} :
      (authClientHandleAuth2 S ctx input).2 = .ok () →
      authHeaderDecode input = .ok (hdr, payload) → authAuth2Decode payload = .ok m →
      Accepted S m.carried

variable {S : Suite q G}

/-! ## The checks -/

theorem checkPointOrIdentity_eq_ok_iff {p : Bytes 32} {u : Unit} :
    checkPointOrIdentity S p = .ok u ↔ ValidPoint S p := by
  by_cases hz : p = Bytes.zero 32
  · subst hz
    have hid : authCheckPoint S (Bytes.zero 32) = .error .identityPoint := by
      simp [authCheckPoint]
    have hdec : S.decPoint (Bytes.zero 32) = some 0 := by
      rw [S.decPoint_eq_some_iff, S.encPoint_zero]
    simp [checkPointOrIdentity, hid, ValidPoint, hdec]
  · have hproper : ProperPoint S p ↔ ValidPoint S p := by
      constructor
      · rintro ⟨P, hP, -⟩
        exact ⟨P, hP⟩
      · rintro ⟨P, hP⟩
        refine ⟨P, hP, ?_⟩
        rintro rfl
        rw [S.decPoint_eq_some_iff, S.encPoint_zero] at hP
        exact hz hP.symm
    have hne : authCheckPoint S p ≠ .error .identityPoint := by
      simp only [authCheckPoint, ensure_pos hz, Except.ok_bind']
      unfold ensure
      split <;> simp
    rw [← hproper, ProperPoint, ← authCheckPoint_eq_ok_iff (u := u), checkPointOrIdentity]
    split
    next h => exact absurd h hne
    next => rfl

/-- A Schnorr proof that a verifier accepts. -/
theorem schnorr_fields {gen : G} {mul chal : Bytes 32 → Except AuthErr (Bytes 32)}
    (hmul : ∀ s b, mul s = .ok b ↔
      (clamped s : ZMod q) • gen ≠ 0 ∧ b = S.encPoint ((clamped s : ZMod q) • gen))
    {P : Bytes 32} {proof : SchnorrProof} (h : verifySchnorr S mul chal P proof = true) :
    ValidPoint S proof.a ∧ (clamped proof.s : ZMod q) ≠ 0 := by
  obtain ⟨c, A, Q, -, hA, -, hstrict⟩ := (verifySchnorr_iff hmul).mp h
  refine ⟨⟨A, hA⟩, fun hz => hstrict.response ?_⟩
  rw [hz, zero_smul]

theorem branch_fields {branches : List SetBranch} {roles : List UInt64}
    {cPrime pid nonceC ephC : Bytes 32}
    (h : authVerifyRoleSetMembership S branches roles cPrime pid nonceC ephC = true) :
    ∀ b ∈ branches, ValidPoint S b.a ∧ (clamped b.c : ZMod q) ≠ 0 ∧
      (clamped b.s : ZMod q) ≠ 0 := by
  obtain ⟨⟨hlen, -, -⟩, -, -, K, -, hacc⟩ := authVerifyRoleSetMembership_iff.mp h
  intro b hb
  obtain ⟨i, hi, rfl⟩ := List.getElem_of_mem hb
  have hy : i < (roleStatements S K roles).length := by
    rw [roleStatements, List.length_map, ← hlen]
    exact hi
  have hmem : (branches[i], (roleStatements S K roles)[i]) ∈
      branches.zip (roleStatements S K roles) := by
    rw [List.mem_iff_getElem]
    exact ⟨i, by simp [hi, hy], by simp⟩
  obtain ⟨A, hA, hstrict⟩ := hacc _ hmem
  refine ⟨⟨A, hA⟩, fun hz => hstrict.share ?_, fun hz => hstrict.response ?_⟩
  · rw [hz, zero_smul]
  · rw [hz, zero_smul]

/-! ## The handlers -/

theorem setup1_checked {cfg : ServerConfig} {sid : SessionId} {seq : UInt32}
    {payload : List UInt8} {draws : Setup2Draws} {outCap : ℕ} {r : PendingSetup × List UInt8}
    {m : Setup1} (h : authServerHandleSetup1 S cfg sid seq payload draws outCap = .ok r)
    (hd : authSetup1Decode payload = .ok m) : m.carried.Checked S := by
  simp only [authServerHandleSetup1, hd, Except.ok_bind', Except.bind_eq_ok_iff,
    authCheckPoint_eq_ok_iff, checkPointOrIdentity_eq_ok_iff] at h
  obtain ⟨-, -, -, hpub, -, hcom, -⟩ := h
  refine ⟨?_, ?_, List.forall_mem_nil _⟩
  · exact List.forall_mem_singleton.mpr hpub
  · simpa [Setup1.carried] using hcom

theorem setup3_checked {pending : PendingSetup} {sid : SessionId} {seq : UInt32}
    {payload pkt : List UInt8} {outCap : ℕ} {m : Setup3}
    (h : authServerHandleSetup3 S pending sid seq payload outCap = .ok pkt)
    (hd : authSetup3Decode payload = .ok m) : m.carried.Checked S := by
  obtain ⟨-, ⟨s3, hd', hp⟩, -⟩ := authServerHandleSetup3_eq_ok_iff.mp h
  obtain rfl : s3 = m := Except.ok.inj (hd'.symm.trans hd)
  obtain ⟨ha, hs⟩ := schnorr_fields (fun _ _ => authScalarmultBase_eq_ok_iff) hp
  refine ⟨List.forall_mem_nil _, ?_, ?_⟩
  · simpa [Setup3.carried] using ha
  · simpa [Setup3.carried] using hs

/-- An AUTH_1 that verifies a device has passed the checks. -/
theorem Auth1Verifies.checked {cfg : ServerConfig} {pub rc : Bytes 32} {a1 : Auth1}
    (hv : Auth1Verifies S cfg pub rc a1) : a1.carried.Checked S := by
  have heph : ProperPoint S a1.ephC := authCheckPoint_eq_ok_iff.mp hv.ephC
  have hcp := checkPointOrIdentity_eq_ok_iff.mp hv.cPrime
  obtain ⟨hca, hcs⟩ := schnorr_fields (fun _ _ => authScalarmultBase_eq_ok_iff) hv.client
  have hrr : ValidPoint S a1.rerandProof.a ∧ (clamped a1.rerandProof.s : ZMod q) ≠ 0 := by
    have hrerand := hv.rerand
    unfold authVerifyRerandomization at hrerand
    split at hrerand
    next => cases hrerand
    next => exact schnorr_fields attrH_mult_iff hrerand
  have hbr := branch_fields hv.role
  refine ⟨?_, ?_, ?_⟩
  · simpa [Auth1.carried] using heph
  · intro p hp
    simp only [Auth1.carried, List.mem_append, List.mem_cons, List.not_mem_nil, or_false,
      List.mem_map] at hp
    obtain (rfl | rfl | rfl) | ⟨b, hb, rfl⟩ := hp
    · exact hcp
    · exact hca
    · exact hrr.1
    · exact (hbr b hb).1
  · intro s hs
    simp only [Auth1.carried, List.mem_append, List.mem_cons, List.not_mem_nil, or_false,
      List.mem_map] at hs
    obtain ((rfl | rfl) | ⟨b, hb, rfl⟩) | ⟨b, hb, rfl⟩ := hs
    · exact hcs
    · exact hrr.2
    · exact (hbr b hb).2.1
    · exact (hbr b hb).2.2

theorem auth1_checked {cfg : ServerConfig} {sid : SessionId} {seq : UInt32}
    {payload : List UInt8} {lookup : Except AuthErr (Bytes 32 × Bytes 32)} {draws : Auth2Draws}
    {outCap : ℕ} {r : PendingAuth × List UInt8} {m : Auth1}
    (h : authServerHandleAuth1 S cfg sid seq payload lookup draws outCap = .ok r)
    (hd : authAuth1Decode payload = .ok m) : m.carried.Checked S := by
  obtain ⟨a1, pub, rc, hd', -, hv, -⟩ := authServerHandleAuth1_eq_ok_iff.mp h
  obtain rfl : a1 = m := Except.ok.inj (hd'.symm.trans hd)
  exact hv.checked

theorem setup2_checked {ctx : ClientCtx} {input payload : List UInt8} {tofu : Bool}
    {hdr : Header} {m : Setup2} (h : (authClientHandleSetup2 S ctx input tofu).2 = .ok ())
    (hh : authHeaderDecode input = .ok (hdr, payload))
    (hd : authSetup2Decode payload = .ok m) : m.carried.Checked S := by
  have hacc : ∃ s2, setup2Checks S ctx input = .ok s2 ∧ ctx.provesSetup S s2 = true := by
    obtain ⟨e, he, -⟩ | ⟨s2, -, -, -, -, he⟩ | ⟨s2, hc, hp, -⟩ :=
      authClientHandleSetup2_cases S ctx input tofu
    · rw [he] at h
      cases h
    · rw [he] at h
      cases h
    · exact ⟨s2, hc, hp⟩
  obtain ⟨s2, hc, hp⟩ := hacc
  simp only [setup2Checks, Except.bind_eq_ok_iff, Prod.exists, ensure_eq_ok_iff,
    authCheckPoint_eq_ok_iff, Except.pure_eq_ok, Except.ok.injEq] at hc
  obtain ⟨hdr', payload', hex, -, -, s2', hd', -, hpub, rfl⟩ := hc
  obtain ⟨hh', -⟩ := (expectPacket_eq_ok_iff (by decide)).mp hex
  obtain ⟨rfl, rfl⟩ := Prod.mk.inj (Except.ok.inj (hh'.symm.trans hh))
  obtain rfl : s2' = m := Except.ok.inj (hd'.symm.trans hd)
  obtain ⟨ha, hs⟩ := schnorr_fields (fun _ _ => authScalarmultBase_eq_ok_iff) hp
  refine ⟨?_, ?_, ?_⟩
  · exact List.forall_mem_singleton.mpr hpub
  · simpa [Setup2.carried] using ha
  · simpa [Setup2.carried] using hs

theorem auth2_checked {ctx : ClientCtx} {input payload : List UInt8} {hdr : Header} {m : Auth2}
    (h : (authClientHandleAuth2 S ctx input).2 = .ok ())
    (hh : authHeaderDecode input = .ok (hdr, payload))
    (hd : authAuth2Decode payload = .ok m) : m.carried.Checked S := by
  have hacc : ∃ a2, auth2Checks S ctx input = .ok a2 := by
    obtain ⟨e, he, -⟩ | ⟨a2, -, hc, -, -⟩ := authClientHandleAuth2_cases S ctx input
    · rw [he] at h
      cases h
    · exact ⟨a2, hc⟩
  obtain ⟨a2, hc⟩ := hacc
  simp only [auth2Checks, Except.bind_eq_ok_iff, Prod.exists, ensure_eq_ok_iff,
    authCheckPoint_eq_ok_iff, Except.pure_eq_ok, Except.ok.injEq] at hc
  obtain ⟨hdr', payload', hex, -, -, a2', hd', -, hpub, -, heph, -, -, -, hp, rfl⟩ := hc
  obtain ⟨hh', -⟩ := (expectPacket_eq_ok_iff (by decide)).mp hex
  obtain ⟨rfl, rfl⟩ := Prod.mk.inj (Except.ok.inj (hh'.symm.trans hh))
  obtain rfl : a2' = m := Except.ok.inj (hd'.symm.trans hd)
  obtain ⟨ha, hs⟩ := schnorr_fields (fun _ _ => authScalarmultBase_eq_ok_iff) hp
  refine ⟨?_, ?_, ?_⟩
  · intro p hpm
    simp only [Auth2.carried, List.mem_cons, List.not_mem_nil, or_false] at hpm
    obtain rfl | rfl := hpm
    · exact hpub
    · exact heph
  · simpa [Auth2.carried] using ha
  · simpa [Auth2.carried] using hs

/-- Every message that a handler accepts carries keys and ephemeral points other than the
identity, valid points, and scalars that are read as other than zero. -/
theorem accepted_fields_checked (S : Suite q G) (f : Carried) (h : Accepted S f) :
    f.Checked S := by
  cases h with
  | setup1 h hd => exact setup1_checked h hd
  | setup3 h hd => exact setup3_checked h hd
  | auth1 h hd => exact auth1_checked h hd
  | setup2 h hh hd => exact setup2_checked h hh hd
  | auth2 h hh hd => exact auth2_checked h hh hd

/-! ## What is not validated -/

theorem exists_ok_of_toBool {α ε : Type} {x : Except ε α} (h : x.toBool = true) :
    ∃ a, x = .ok a := by
  cases x with
  | error e => cases h
  | ok a => exact ⟨a, rfl⟩

/-- A server with a key of the small suite. -/
def demoServerConfig : ServerConfig := ⟨byteString 31 5, byteString 31 5, none, [1]⟩

/-- A SETUP_1 that commits to nothing: the role commitment is the identity. -/
def demoIdentity : Setup1 :=
  ⟨[], byteString 31 1, byteString 31 3, byteString 31 9, Bytes.zero 32⟩

/-- The enrollment of a device with the key 3. -/
def demoPending : PendingSetup :=
  ⟨byteString 15 7, byteString 31 1, byteString 31 3, byteString 31 2, byteString 31 9,
    byteString 31 8, byteString 15 6, byteString 31 5⟩

/-- The proof of that device. -/
def demoProof : SchnorrProof :=
  match authProveSetupClient smallSuite (byteString 63 2) (byteString 31 3)
      demoPending.deviceId demoPending.devicePub demoPending.serverPub demoPending.clientNonce
      demoPending.serverNonce demoPending.setupChallenge with
  | .ok proof => proof
  | .error _ => default

/-- Its SETUP_3, with the order of the group added to the response. -/
def demoShifted : Setup3 :=
  ⟨⟨demoProof.a, natLE 32 (leNat demoProof.s.val + 11), natLE_length _ _⟩⟩

theorem demoShifted_accepted : Accepted smallSuite demoShifted.carried := by
  have hok : (authServerHandleSetup3 smallSuite demoPending demoPending.sessionId 2
      demoShifted.bytes maxDatagram).toBool = true := by
    decide +kernel
  obtain ⟨pkt, h⟩ := exists_ok_of_toBool hok
  exact .setup3 h (Setup3.decode_bytes demoShifted)

/-- The fields of the shifted SETUP_3 pass the checks. -/
theorem accepted_fields_checked_shifted : demoShifted.carried.Checked smallSuite :=
  accepted_fields_checked smallSuite demoShifted.carried demoShifted_accepted

/-- A SETUP_1 is accepted whose commitment is the identity, and a SETUP_3 whose response is
not a canonical encoding. -/
theorem accepted_fields_not_strict :
    (Accepted smallSuite demoIdentity.carried ∧ ¬ demoIdentity.carried.Strict smallSuite) ∧
      (Accepted smallSuite demoShifted.carried ∧ ¬ demoShifted.carried.Strict smallSuite) := by
  refine ⟨⟨?_, fun h => ?_⟩, demoShifted_accepted, fun h => ?_⟩
  · have hok : (authServerHandleSetup1 smallSuite demoServerConfig (byteString 15 7) 1
        demoIdentity.bytes ⟨byteString 31 8, byteString 15 6, byteString 63 2⟩
        maxDatagram).toBool = true := by
      decide +kernel
    obtain ⟨r, hr⟩ := exists_ok_of_toBool hok
    exact .setup1 hr (Setup1.decode_bytes (by decide))
  · obtain ⟨P, hP, hne⟩ := h.points (Bytes.zero 32) (by simp [Setup1.carried, demoIdentity])
    rw [smallSuite.decPoint_eq_some_iff, smallSuite.encPoint_eq_zero_iff] at hP
    exact hne hP
  · obtain ⟨x, hx⟩ := h.scalars demoShifted.clientProof.s (by simp [Setup3.carried])
    have hnone : (decScalar demoShifted.clientProof.s : Option (ZMod 11)) = none := by
      decide +kernel
    rw [hnone] at hx
    cases hx

end ZkArche.C
