import ZkArche.Crypto.SmallSuite

/-!
# The two role verifiers

`auth_verify_role_set_membership` and `verify_role_set_membership` check the same equations.
The Rust verifier checks nothing else.  The C verifier also rejects when libsodium refuses a
multiplication, that is, when a product is the identity: `g * r_i` for a role code that is
zero, `h * s_i` for a zero response, `Y_i * c_i` for a zero share or for `c_prime = g * r_i`.

So the verifiers differ exactly on the proofs that satisfy the equations with such a product
(`role_verifiers_agree`).  A share can be zero in a proof for ordinary roles, since the prover
chooses the shares of the branches it simulates.
-/

namespace ZkArche

variable {q : ℕ} {G : Type} [AddCommGroup G] [Module (ZMod q) G]

/-- The equations of the role proof: one branch per role, the shares add up to the master
challenge, and every branch satisfies its Schnorr equation. -/
structure RoleSetHolds (S : Suite q G) (b : Rust.RoleSetBinding G)
    (branches : List (Rust.SetBranch q G)) : Prop where
  count : branches.length = b.allowedRoles.length
  sum : Branch.challengeSum branches = Rust.roleSetChallenge S b (branches.map Branch.a)
  accept : Branch.AllAccept S.attrH branches (Rust.yPoints S b)

/-- Some product of the verification is the identity. -/
def RoleSetDegenerate (S : Suite q G) (b : Rust.RoleSetBinding G)
    (branches : List (Rust.SetBranch q G)) : Prop :=
  (∃ r ∈ b.allowedRoles, (scalarOfU64 r : ZMod q) • S.base = 0) ∨
    ∃ p ∈ branches.zip (Rust.yPoints S b), p.1.s • S.attrH = 0 ∨ p.1.c • p.2 = 0

/-- What the C verifier says of an encoded proof. -/
def C.acceptsRoleSet (S : Suite q G) (b : Rust.RoleSetBinding G)
    (branches : List (Rust.SetBranch q G)) : Bool :=
  C.authVerifyRoleSetMembership S (branches.map (C.encBranch S)) b.allowedRoles
    (S.encPoint b.cPrime) b.pid b.nonceC (S.encPoint b.ephC)

variable {S : Suite q G} {b : Rust.RoleSetBinding G} {branches : List (Rust.SetBranch q G)}

/-- The Rust verifier checks the equations. -/
theorem verifyRoleSetMembership_iff [DecidableEq G] :
    Rust.verifyRoleSetMembership S b branches = true ↔ RoleSetHolds S b branches := by
  have hlen : (Rust.yPoints S b).length = b.allowedRoles.length := List.length_map _
  unfold Rust.verifyRoleSetMembership
  constructor
  · intro h
    split at h
    next => cases h
    next hcount =>
      split at h
      next => cases h
      next hsum =>
        rw [not_not] at hcount hsum
        rw [List.all_eq_true] at h
        refine ⟨hcount, hsum, List.forall₂_iff_zip.mpr ⟨hcount.trans hlen.symm, ?_⟩⟩
        intro br y hm
        have hbr := h (br, y) hm
        exact of_decide_eq_true (p := br.s • S.attrH = br.a + br.c • y) hbr
  · rintro ⟨hcount, hsum, hacc⟩
    rw [Branch.challengeSum] at hsum
    rw [if_neg (not_not.mpr hcount), if_neg (not_not.mpr hsum), List.all_eq_true]
    rintro ⟨br, y⟩ hm
    exact decide_eq_true ((List.forall₂_iff_zip.mp hacc).2 hm)

/-- The C verifier checks the equations and rejects a degenerate proof. -/
theorem C.acceptsRoleSet_iff [NeZero q] (h0 : b.allowedRoles.length ≠ 0)
    (h8 : b.allowedRoles.length ≤ maxRoles) :
    C.acceptsRoleSet S b branches = true ↔
      RoleSetHolds S b branches ∧ ¬ RoleSetDegenerate S b branches := by
  have hlen : (Rust.yPoints S b).length = b.allowedRoles.length := List.length_map _
  rw [C.acceptsRoleSet, C.authVerifyRoleSetMembership_encBranch]
  constructor
  · rintro ⟨⟨hcount, -, -⟩, hroles, hsum, hall⟩
    refine ⟨⟨hcount, hsum, ?_⟩, ?_⟩
    · exact List.forall₂_iff_zip.mpr ⟨hcount.trans hlen.symm, fun hm => (hall _ hm).eqn⟩
    · rintro (⟨r, hr, hz⟩ | ⟨p, hp, hz | hz⟩)
      · exact hroles r hr hz
      · exact (hall p hp).response hz
      · exact (hall p hp).share hz
  · rintro ⟨⟨hcount, hsum, hacc⟩, hdeg⟩
    refine ⟨⟨hcount, h0, h8⟩, fun r hr hz => hdeg (.inl ⟨r, hr, hz⟩), hsum, ?_⟩
    rintro ⟨br, y⟩ hm
    exact ⟨fun hz => hdeg (.inr ⟨_, hm, .inl hz⟩), fun hz => hdeg (.inr ⟨_, hm, .inr hz⟩),
      (List.forall₂_iff_zip.mp hacc).2 hm⟩

/-- What the C prover emits for encodings is the encoding of what the Rust prover emits. -/
theorem proveRoleSetMembership_of_C [NeZero q] {wide : ℕ → Bytes 64} {roleCode : UInt64}
    {blindPrime : ZMod q} {bs : List C.SetBranch}
    (h : C.authProveRoleSetMembership S wide b.allowedRoles (S.encPoint b.cPrime) roleCode
      (encScalar blindPrime) b.pid b.nonceC (S.encPoint b.ephC) = .ok bs) :
    ∃ branches, Rust.proveRoleSetMembership S wide b roleCode blindPrime = .ok branches ∧
      bs = branches.map (C.encBranch S) := by
  have hok := h
  simp only [C.authProveRoleSetMembership, Except.bind_eq_ok_iff, ensure_eq_ok_iff] at h
  obtain ⟨-, ⟨h0, h8⟩, h⟩ := h
  split at h
  next => cases h
  next t ht =>
    simp only [Except.bind_eq_ok_iff] at h
    obtain ⟨ys, hys, r, hcommit, -⟩ := h
    obtain ⟨hroles, rfl⟩ := (C.roleYs_eq_ok_iff (S.decPoint_encPoint _)).mp hys
    have hcom := C.committable_of_commitBranches S hcommit
    have hp : ∃ branches, Rust.proveRoleSetMembership S wide b roleCode blindPrime
        = .ok branches := by
      rw [Rust.proveRoleSetMembership, ht]
      exact ⟨_, rfl⟩
    obtain ⟨branches, hp⟩ := hp
    refine ⟨branches, hp, ?_⟩
    have hC := C.authProveRoleSetMembership_eq S h0 h8 hroles ht hcom hp
    exact Except.ok.inj (hok.symm.trans hC)

/-- The verifiers agree on a proof exactly when it does not both satisfy the equations and
degenerate.  A proof of the Rust prover is accepted by the C verifier exactly when it does not
degenerate, and a proof of the C prover is accepted by the Rust verifier. -/
theorem role_verifiers_agree [DecidableEq G] [NeZero q] (S : Suite q G)
    (b : Rust.RoleSetBinding G) (h0 : b.allowedRoles.length ≠ 0)
    (h8 : b.allowedRoles.length ≤ maxRoles) :
    (∀ branches, C.acceptsRoleSet S b branches = Rust.verifyRoleSetMembership S b branches ↔
      ¬ (RoleSetHolds S b branches ∧ RoleSetDegenerate S b branches)) ∧
    ∀ wide roleCode blind, b.cPrime = Rust.makeRoleCommitment S roleCode blind →
      (∀ branches, Rust.proveRoleSetMembership S wide b roleCode blind = .ok branches →
        (C.acceptsRoleSet S b branches = true ↔ ¬ RoleSetDegenerate S b branches)) ∧
      ∀ bs, C.authProveRoleSetMembership S wide b.allowedRoles (S.encPoint b.cPrime) roleCode
          (encScalar blind) b.pid b.nonceC (S.encPoint b.ephC) = .ok bs →
        ∃ branches, bs = branches.map (C.encBranch S) ∧
          Rust.verifyRoleSetMembership S b branches = true := by
  refine ⟨fun branches => ?_, fun wide roleCode blind hc => ⟨fun branches hp => ?_, ?_⟩⟩
  · rw [Bool.eq_iff_iff, C.acceptsRoleSet_iff h0 h8,
      verifyRoleSetMembership_iff]
    tauto
  · have hv := verifyRoleSetMembership_iff.mp (Rust.verifyRoleSetMembership_prove S hc hp)
    rw [C.acceptsRoleSet_iff h0 h8]
    exact and_iff_right hv
  · intro bs hbs
    obtain ⟨branches, hp, rfl⟩ := proveRoleSetMembership_of_C hbs
    exact ⟨branches, rfl, Rust.verifyRoleSetMembership_prove S hc hp⟩

/-! ## Proofs that only Rust accepts -/

/-- A statement for a commitment to a role, with fixed nonces. -/
def demoBinding (roles : List UInt64) (roleCode : UInt64) : Rust.RoleSetBinding (ZMod 11) :=
  ⟨roles, Rust.makeRoleCommitment smallSuite roleCode demoDeviceKey, byteString 31 1, byteString 31 9, 4⟩

/-- The draws of a prover: the given one first. -/
def demoDraws (first : UInt8) (k : ℕ) : Bytes 64 := byteString 63 (if k = 0 then first else 6)

/-- The proof of the Rust prover, with the given first draw. -/
def demoBranches (roles : List UInt64) (roleCode : UInt64) (first : UInt8) :
    List (Rust.SetBranch 11 (ZMod 11)) :=
  match Rust.proveRoleSetMembership smallSuite (demoDraws first) (demoBinding roles roleCode)
      roleCode demoDeviceKey with
  | .ok bs => bs
  | .error _ => []

theorem role_verifiers_agree_demo :
    C.acceptsRoleSet smallSuite (demoBinding [1, 2] 2) (demoBranches [1, 2] 2 5)
        = Rust.verifyRoleSetMembership smallSuite (demoBinding [1, 2] 2)
          (demoBranches [1, 2] 2 5) ∧
      C.acceptsRoleSet smallSuite (demoBinding [1, 2] 2) (demoBranches [1, 2] 2 5) = true := by
  have hdeg : ¬ RoleSetDegenerate smallSuite (demoBinding [1, 2] 2) (demoBranches [1, 2] 2 5) := by
    unfold RoleSetDegenerate
    decide +kernel
  have hproved : Rust.proveRoleSetMembership smallSuite (demoDraws 5) (demoBinding [1, 2] 2) 2 3
      = .ok (demoBranches [1, 2] 2 5) := by
    decide +kernel
  obtain ⟨hagree, hemit⟩ :=
    role_verifiers_agree smallSuite (demoBinding [1, 2] 2) (by decide) (by decide)
  obtain ⟨haccept, -⟩ := hemit (demoDraws 5) 2 3 rfl
  exact ⟨(hagree _).mpr fun hd => hdeg hd.2, (haccept _ hproved).mpr hdeg⟩

/-- The share of a simulated branch is zero: every commitment is a point other than the
identity, the roles are not zero, and only Rust accepts.  So it is for a role code that is
zero. -/
theorem role_verifiers_differ :
    ((demoBinding [1, 2] 2).cPrime ≠ 0 ∧ (demoBinding [1, 2] 2).ephC ≠ 0 ∧
      (∀ br ∈ demoBranches [1, 2] 2 0, br.a ≠ 0) ∧
      Rust.verifyRoleSetMembership smallSuite (demoBinding [1, 2] 2) (demoBranches [1, 2] 2 0)
        = true ∧
      C.acceptsRoleSet smallSuite (demoBinding [1, 2] 2) (demoBranches [1, 2] 2 0) = false) ∧
    ((demoBinding [0] 0).cPrime ≠ 0 ∧ (demoBinding [0] 0).ephC ≠ 0 ∧
      (∀ br ∈ demoBranches [0] 0 5, br.a ≠ 0) ∧
      Rust.verifyRoleSetMembership smallSuite (demoBinding [0] 0) (demoBranches [0] 0 5)
        = true ∧
      C.acceptsRoleSet smallSuite (demoBinding [0] 0) (demoBranches [0] 0 5) = false) := by
  decide +kernel

end ZkArche
