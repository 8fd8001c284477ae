import ZkArche.Crypto.ProofsC

/-!
# What the C verifiers accept

The wrappers of libsodium and the verifiers of `proofs.c`, over arbitrary bytes.  A lemma
says exactly when a wrapper succeeds or a verifier returns 1, in terms of the points and
scalars that libsodium reads from the bytes.

A verifier multiplies twice for each equation and rejects when a product is the identity.
So it accepts when the points decode, no product is the identity, and the equation holds.
The scalars it reads are the `clamped` ones.  The challenge shares of the role proof are read
a second time, reduced and not clamped, when their sum is compared with the master challenge.
-/

namespace ZkArche.C

variable {q : ℕ} {G : Type} [AddCommGroup G] [Module (ZMod q) G] {S : Suite q G}

/-! ## The wrappers -/

theorem authCheckPoint_eq_ok_iff {p : Bytes 32} {u : Unit} :
    authCheckPoint S p = .ok u ↔ ∃ P, S.decPoint p = some P ∧ P ≠ 0 := by
  simp only [authCheckPoint, Except.bind_eq_ok_iff, ensure_eq_ok_iff, exists_const,
    Option.isSome_iff_exists]
  constructor
  · rintro ⟨hz, P, hP⟩
    refine ⟨P, hP, ?_⟩
    rintro rfl
    rw [S.decPoint_eq_some_iff, S.encPoint_zero] at hP
    exact hz hP.symm
  · rintro ⟨P, hP, hne⟩
    refine ⟨?_, P, hP⟩
    rintro rfl
    rw [S.decPoint_eq_some_iff] at hP
    exact hne (S.encPoint_eq_zero_iff.mp hP)

theorem multResult_eq_ok_iff {P : G} {b : Bytes 32} :
    multResult S P = .ok b ↔ P ≠ 0 ∧ b = S.encPoint P := by
  simp only [multResult, Except.bind_eq_ok_iff, ensure_eq_ok_iff, exists_const, ne_eq,
    S.encPoint_eq_zero_iff, Except.pure_eq_ok, Except.ok.injEq, @eq_comm _ b]

theorem authScalarmultBase_eq_ok_iff {s b : Bytes 32} :
    authScalarmultBase S s = .ok b ↔
      (clamped s : ZMod q) • S.base ≠ 0 ∧ b = S.encPoint ((clamped s : ZMod q) • S.base) :=
  multResult_eq_ok_iff

theorem authScalarmult_eq_ok_iff {s p b : Bytes 32} :
    authScalarmult S s p = .ok b ↔ ∃ P, S.decPoint p = some P ∧
      (clamped s : ZMod q) • P ≠ 0 ∧ b = S.encPoint ((clamped s : ZMod q) • P) := by
  unfold authScalarmult
  cases S.decPoint p with
  | none => simp
  | some P => simp [multResult_eq_ok_iff]

theorem authScalarmult_encPoint_iff {s b : Bytes 32} {P : G} :
    authScalarmult S s (S.encPoint P) = .ok b ↔
      (clamped s : ZMod q) • P ≠ 0 ∧ b = S.encPoint ((clamped s : ZMod q) • P) := by
  simp only [authScalarmult, S.decPoint_encPoint, multResult_eq_ok_iff]

theorem authPointAdd_eq_ok_iff {a b c : Bytes 32} :
    authPointAdd S a b = .ok c ↔ ∃ P Q, S.decPoint a = some P ∧ S.decPoint b = some Q ∧
      c = S.encPoint (P + Q) := by
  unfold authPointAdd
  cases S.decPoint a with
  | none => simp
  | some P =>
      cases S.decPoint b with
      | none => simp
      | some Q => simp [@eq_comm _ c]

theorem authPointSub_eq_ok_iff {a b c : Bytes 32} :
    authPointSub S a b = .ok c ↔ ∃ P Q, S.decPoint a = some P ∧ S.decPoint b = some Q ∧
      c = S.encPoint (P - Q) := by
  unfold authPointSub
  cases S.decPoint a with
  | none => simp
  | some P =>
      cases S.decPoint b with
      | none => simp
      | some Q => simp [@eq_comm _ c]

/-! ## Schnorr proofs -/

/-- The verifier's equation, with both products other than the identity. -/
structure StrictEq (gen P a : G) (c s : ZMod q) : Prop where
  response : s • gen ≠ 0
  share : c • P ≠ 0
  eqn : SchnorrEq gen P a c s

/-- A verifier returns 1 exactly when both points decode and the strict equation holds. -/
theorem verifySchnorr_iff {gen : G} {mul chal : Bytes 32 → Except AuthErr (Bytes 32)}
    (hmul : ∀ s b, mul s = .ok b ↔
      (clamped s : ZMod q) • gen ≠ 0 ∧ b = S.encPoint ((clamped s : ZMod q) • gen))
    {P : Bytes 32} {proof : SchnorrProof} :
    verifySchnorr S mul chal P proof = true ↔
      ∃ c A Q, chal proof.a = .ok c ∧ S.decPoint proof.a = some A ∧ S.decPoint P = some Q ∧
        StrictEq gen Q A (clamped c : ZMod q) (clamped proof.s) := by
  have hok : verifySchnorr S mul chal P proof = true ↔ (do
      let c ← chal proof.a
      let gs ← mul proof.s
      let pc ← authScalarmult S c P
      let rhs ← authPointAdd S proof.a pc
      return decide (gs = rhs)) = Except.ok true := by
    unfold verifySchnorr
    dsimp only
    split
    next b hb => rw [hb, Except.ok.injEq]
    next e he => rw [he]; simp
  rw [hok]
  simp only [Except.bind_eq_ok_iff, hmul, authScalarmult_eq_ok_iff, authPointAdd_eq_ok_iff,
    Except.pure_eq_ok, Except.ok.injEq, decide_eq_true_eq]
  constructor
  · rintro ⟨c, hc, gs, ⟨hs, rfl⟩, pc, ⟨Q, hQ, hne, rfl⟩, rhs, ⟨A, R, hA, hR, rfl⟩, heq⟩
    rw [S.decPoint_encPoint] at hR
    cases hR
    exact ⟨c, A, Q, hc, hA, hQ, hs, hne, S.encPoint_inj heq⟩
  · rintro ⟨c, A, Q, hc, hA, hQ, hs, hne, heq⟩
    refine ⟨c, hc, _, ⟨hs, rfl⟩, _, ⟨Q, hQ, hne, rfl⟩, _, ⟨A, _, hA, S.decPoint_encPoint _, rfl⟩, ?_⟩
    rw [show (clamped proof.s : ZMod q) • gen = A + (clamped c : ZMod q) • Q from heq]

theorem attrH_mult_iff (s b : Bytes 32) :
    authScalarmult S s (authAttrH S) = .ok b ↔ (clamped s : ZMod q) • S.attrH ≠ 0 ∧
      b = S.encPoint ((clamped s : ZMod q) • S.attrH) :=
  authScalarmult_encPoint_iff

/-! ## The role proof -/

/-- The statements of the role proof for a commitment. -/
def roleStatements (S : Suite q G) (cPrime : G) (roles : List UInt64) : List G :=
  roles.map fun r => cPrime - (scalarOfU64 r : ZMod q) • S.base

/-- The statements are computed when no role code is multiplied to the identity. -/
theorem roleYs_eq_ok_iff {cPrime : Bytes 32} {K : G} (hK : S.decPoint cPrime = some K)
    {roles : List UInt64} {ys : List (Bytes 32)} :
    roleYs S cPrime roles = .ok ys ↔
      (∀ r ∈ roles, (scalarOfU64 r : ZMod q) • S.base ≠ 0) ∧
        ys = (roleStatements S K roles).map S.encPoint := by
  induction roles generalizing ys with
  | nil =>
      simp only [roleYs, roleStatements, Except.ok.injEq, List.map_nil, @eq_comm _ ys]
      exact (and_iff_right (List.forall_mem_nil _)).symm
  | cons r rs ih =>
      simp only [roleYs, Except.bind_eq_ok_iff, authScalarmultBase_eq_ok_iff,
        authPointSub_eq_ok_iff, ih, Except.pure_eq_ok, Except.ok.injEq,
        clamped_authScalarFromU64, List.forall_mem_cons]
      constructor
      · rintro ⟨gr, ⟨hr, rfl⟩, y, ⟨P, Q, hP, hQ, rfl⟩, zs, ⟨hrs, rfl⟩, rfl⟩
        rw [hK] at hP
        rw [S.decPoint_encPoint] at hQ
        cases hP
        cases hQ
        exact ⟨⟨hr, hrs⟩, rfl⟩
      · rintro ⟨⟨hr, hrs⟩, rfl⟩
        exact ⟨_, ⟨hr, rfl⟩, _, ⟨K, _, hK, S.decPoint_encPoint _, rfl⟩, _, ⟨hrs, rfl⟩, rfl⟩

theorem decPoint_of_roleYs {cPrime : Bytes 32} {roles : List UInt64} {ys : List (Bytes 32)}
    (h : roleYs S cPrime roles = .ok ys) (hne : roles ≠ []) : ∃ K, S.decPoint cPrime = some K := by
  cases roles with
  | nil => exact absurd rfl hne
  | cons r rs =>
      simp only [roleYs, Except.bind_eq_ok_iff, authPointSub_eq_ok_iff] at h
      obtain ⟨-, -, -, ⟨K, -, hK, -⟩, -⟩ := h
      exact ⟨K, hK⟩

/-- A branch that the verifier accepts for its statement. -/
def BranchAccepted (S : Suite q G) (b : SetBranch) (y : G) : Prop :=
  ∃ A, S.decPoint b.a = some A ∧ StrictEq S.attrH y A (clamped b.c : ZMod q) (clamped b.s)

theorem checkBranches_iff {bs : List SetBranch} {ys : List G} :
    checkBranches S bs (ys.map S.encPoint) = .ok true ↔
      ∀ p ∈ bs.zip ys, BranchAccepted S p.1 p.2 := by
  induction bs generalizing ys with
  | nil => simp [checkBranches]
  | cons b bs ih =>
      cases ys with
      | nil => simp [checkBranches]
      | cons y ys =>
          simp only [List.map_cons, checkBranches, Except.bind_eq_ok_iff, attrH_mult_iff,
            authScalarmult_encPoint_iff, authPointAdd_eq_ok_iff, List.zip_cons_cons,
            List.forall_mem_cons]
          constructor
          · rintro ⟨hs, ⟨hne, rfl⟩, yc, ⟨hyc, rfl⟩, rhs, ⟨A, R, hA, hR, rfl⟩, h⟩
            rw [S.decPoint_encPoint] at hR
            cases hR
            split at h
            next heq => exact ⟨⟨A, hA, hne, hyc, S.encPoint_inj heq⟩, ih.mp h⟩
            next => cases h
          · rintro ⟨⟨A, hA, hne, hyc, heq⟩, hrest⟩
            refine ⟨_, ⟨hne, rfl⟩, _, ⟨hyc, rfl⟩, _,
              ⟨A, _, hA, S.decPoint_encPoint _, rfl⟩, ?_⟩
            rw [if_pos (congrArg S.encPoint heq)]
            exact ih.mpr hrest

/-- The role verifier returns 1 exactly when the counts agree, the commitment decodes, no role
code is multiplied to the identity, the shares add up, and every branch is accepted. -/
theorem authVerifyRoleSetMembership_iff {branches : List SetBranch} {roles : List UInt64}
    {cPrime pid nonceC ephC : Bytes 32} :
    authVerifyRoleSetMembership S branches roles cPrime pid nonceC ephC = true ↔
      (branches.length = roles.length ∧ roles.length ≠ 0 ∧ roles.length ≤ maxRoles) ∧
      (∀ r ∈ roles, (scalarOfU64 r : ZMod q) • S.base ≠ 0) ∧
      roleSetMasterChallenge S roles cPrime (branches.map SetBranch.a) pid nonceC ephC
        = .ok (sumScalars q (branches.map SetBranch.c)) ∧
      ∃ K, S.decPoint cPrime = some K ∧
        ∀ p ∈ branches.zip (roleStatements S K roles), BranchAccepted S p.1 p.2 := by
  by_cases hg : branches.length ≠ roles.length ∨ roles.length = 0 ∨ roles.length > maxRoles
  case pos =>
    rw [authVerifyRoleSetMembership, if_pos hg]
    constructor
    · intro h
      cases h
    · rintro ⟨⟨h1, h2, h3⟩, -⟩
      omega
  case neg =>
    have hcount : branches.length = roles.length ∧ roles.length ≠ 0 ∧
        roles.length ≤ maxRoles := by omega
    have hne : roles ≠ [] := List.ne_nil_of_length_pos (Nat.pos_of_ne_zero hcount.2.1)
    have hok : authVerifyRoleSetMembership S branches roles cPrime pid nonceC ephC = true ↔ (do
        let ys ← roleYs S cPrime roles
        let master ← roleSetMasterChallenge S roles cPrime (branches.map SetBranch.a) pid nonceC
          ephC
        if sumScalars q (branches.map SetBranch.c) = master then checkBranches S branches ys
        else return false) = Except.ok true := by
      rw [authVerifyRoleSetMembership, if_neg hg]
      dsimp only
      split
      next b hb => rw [hb, Except.ok.injEq]
      next e he => rw [he]; simp
    rw [hok]
    simp only [Except.bind_eq_ok_iff]
    constructor
    · rintro ⟨ys, hys, master, hm, h⟩
      obtain ⟨K, hK⟩ := decPoint_of_roleYs hys hne
      obtain ⟨hroles, rfl⟩ := (roleYs_eq_ok_iff hK).mp hys
      split at h
      next hsum => exact ⟨hcount, hroles, hsum ▸ hm, K, hK, checkBranches_iff.mp h⟩
      next => cases h
    · rintro ⟨-, hroles, hm, K, hK, hacc⟩
      refine ⟨_, (roleYs_eq_ok_iff hK).mpr ⟨hroles, rfl⟩, _, hm, ?_⟩
      rw [if_pos rfl]
      exact checkBranches_iff.mpr hacc

end ZkArche.C
