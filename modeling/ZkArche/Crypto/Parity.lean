import ZkArche.Crypto.VerifyC

/-!
# The two libraries agree

A C function on encodings does what the Rust function does on points and scalars, as long
as libsodium has nothing to refuse.  `encProof` and `encBranch` are the encodings of the
proof records.

Each lemma names the values that must not degenerate, and no others.  A Schnorr prover
must not commit to the identity.  A verifier asks for the strict equation, in which neither
product is the identity.
-/

namespace ZkArche.C

variable {q : ℕ} {G : Type} [AddCommGroup G] [Module (ZMod q) G] (S : Suite q G)

/-- A Schnorr proof on the wire. -/
def encProof (p : Rust.SchnorrProof q G) : SchnorrProof := ⟨S.encPoint p.a, encScalar p.s⟩

/-- A branch on the wire. -/
def encBranch (b : Rust.SetBranch q G) : SetBranch :=
  ⟨S.encPoint b.a, encScalar b.c, encScalar b.s⟩

/-! ## Challenges -/

theorem authClientChallenge_eq (pub : G) (pid nonceC : Bytes 32) (ephC a : G) :
    authClientChallenge S (S.encPoint pub) pid nonceC (S.encPoint ephC) (S.encPoint a)
      = .ok (encScalar (Rust.authClientChallenge S pub pid nonceC ephC a)) := by
  refine challenge_eq S (by decide) (by simp) ?_
  intro f hf
  simp only [List.mem_cons, List.not_mem_nil, or_false] at hf
  obtain rfl | rfl | rfl | rfl | rfl := hf <;> exact field_short (by decide) (by simp)

theorem authServerChallenge_eq (pub : G) (nonceS : Bytes 32) (ephS a : G) :
    authServerChallenge S (S.encPoint pub) nonceS (S.encPoint ephS) (S.encPoint a)
      = .ok (encScalar (Rust.authServerChallenge S pub nonceS ephS a)) := by
  refine challenge_eq S (by decide) (by simp) ?_
  intro f hf
  simp only [List.mem_cons, List.not_mem_nil, or_false] at hf
  obtain rfl | rfl | rfl | rfl := hf <;> exact field_short (by decide) (by simp)

theorem rerandChallenge_eq (storedC cPrime : G) (pid nonceC : Bytes 32) (ephC a : G) :
    rerandChallenge S pid nonceC (S.encPoint ephC) (S.encPoint storedC) (S.encPoint cPrime)
        (S.encPoint a)
      = .ok (encScalar (Rust.rerandChallenge S storedC cPrime pid nonceC ephC a)) := by
  refine challenge_eq S (by decide) (by simp) ?_
  intro f hf
  simp only [List.mem_cons, List.not_mem_nil, or_false] at hf
  obtain rfl | rfl | rfl | rfl | rfl | rfl := hf <;> exact field_short (by decide) (by simp)

/-- The labels of the role transcript stay short while the roles are at most eight. -/
theorem roleLabel_short : ∀ i < 8, (ascii ("r_" ++ toString i)).length ≤ 15 ∧
    (ascii ("A_" ++ toString i)).length ≤ 15 := by
  decide

theorem roleSetFields_short (b : Rust.RoleSetBinding G) {as : List G}
    (hr : b.allowedRoles.length ≤ maxRoles) (ha : as.length ≤ maxRoles) :
    (Rust.roleSetFields S b as).length ≤ 73 ∧ ∀ f ∈ Rust.roleSetFields S b as, f.Short := by
  have hm : maxRoles = 8 := rfl
  constructor
  · simp only [Rust.roleSetFields, List.length_append, List.length_cons, List.length_nil,
      List.length_mapIdx]
    omega
  · intro f hf
    simp only [Rust.roleSetFields, List.mem_append, List.mem_cons, List.not_mem_nil, or_false,
      List.mem_mapIdx] at hf
    obtain ((rfl | rfl | rfl | rfl) | ⟨i, hi, rfl⟩) | ⟨i, hi, rfl⟩ := hf
    · exact field_short (by decide) (by simp)
    · exact field_short (by decide) (by simp)
    · exact field_short (by decide) (by simp)
    · exact field_short (by decide) (by simp)
    · exact field_short (roleLabel_short i (by omega)).1 (by simp [u64LE])
    · exact field_short (roleLabel_short i (by omega)).2 (by simp)

/-- Both languages append the same fields. -/
theorem roleSetFields_eq (b : Rust.RoleSetBinding G) (as : List G) :
    roleSetFields b.allowedRoles (S.encPoint b.cPrime) (as.map S.encPoint) b.pid b.nonceC
      (S.encPoint b.ephC) = Rust.roleSetFields S b as := by
  have hpoints : as.mapIdx (fun i a => field ("A_" ++ toString i) (S.encPoint a).val)
      = (as.map S.encPoint).mapIdx (fun i a => field ("A_" ++ toString i) a.val) := by
    apply List.ext_getElem <;> simp
  rw [Rust.roleSetFields, hpoints]
  rfl

theorem roleSetMasterChallenge_eq (b : Rust.RoleSetBinding G) (as : List G)
    (hr : b.allowedRoles.length ≤ maxRoles) (ha : as.length ≤ maxRoles) :
    roleSetMasterChallenge S b.allowedRoles (S.encPoint b.cPrime) (as.map S.encPoint) b.pid
        b.nonceC (S.encPoint b.ephC)
      = .ok (encScalar (Rust.roleSetChallenge S b as)) := by
  obtain ⟨hcount, hshort⟩ := roleSetFields_short S b hr ha
  rw [roleSetMasterChallenge, roleSetFields_eq]
  exact challenge_eq S (by decide) hcount hshort

/-! ## Schnorr proofs -/

variable [NeZero q]

omit [NeZero q] in
theorem authScalarFromWide_eq (wide : Bytes 64) :
    authScalarFromWide q wide = encScalar (scalarOf wide : ZMod q) := rfl

/-- A prover that commits to a point other than the identity. -/
theorem proveSchnorr_eq {gen : G} {mul chal : Bytes 32 → Except AuthErr (Bytes 32)}
    {rchal : G → ZMod q} {wide : Bytes 64} {x : ZMod q}
    (hmul : mul (encScalar (scalarOf wide : ZMod q))
      = .ok (S.encPoint ((scalarOf wide : ZMod q) • gen)))
    (hchal : ∀ a, chal (S.encPoint a) = .ok (encScalar (rchal a))) :
    proveSchnorr q mul chal wide (encScalar x)
      = .ok (encProof S (Rust.schnorrProve gen rchal wide x)) := by
  simp only [proveSchnorr, authScalarFromWide_eq, hmul, hchal, Except.ok_bind',
    Except.pure_eq_ok, authScalarMul_encScalar S.order_le, authScalarAdd_encScalar S.order_le]
  rfl

/-- A verifier on encodings returns 1 exactly when the equation holds and neither product is
the identity. -/
theorem verifySchnorr_encProof {gen P : G} {mul chal : Bytes 32 → Except AuthErr (Bytes 32)}
    {c : ZMod q} {p : Rust.SchnorrProof q G}
    (hmul : ∀ s b, mul s = .ok b ↔
      (clamped s : ZMod q) • gen ≠ 0 ∧ b = S.encPoint ((clamped s : ZMod q) • gen))
    (hchal : chal (S.encPoint p.a) = .ok (encScalar c)) :
    verifySchnorr S mul chal (S.encPoint P) (encProof S p) = true ↔
      StrictEq gen P p.a c p.s := by
  rw [verifySchnorr_iff hmul]
  simp only [encProof, hchal, S.decPoint_encPoint, Except.ok.injEq, Option.some.injEq]
  constructor
  · rintro ⟨_, A, Q, rfl, rfl, rfl, h⟩
    rwa [clamped_encScalar S.order_le, clamped_encScalar S.order_le] at h
  · intro h
    refine ⟨_, _, _, rfl, rfl, rfl, ?_⟩
    rwa [clamped_encScalar S.order_le, clamped_encScalar S.order_le]

/-- The verifier accepts the proof of an honest prover exactly when neither product is the
identity. -/
theorem verifySchnorr_of_prove {gen : G} {mul chal : Bytes 32 → Except AuthErr (Bytes 32)}
    (hmul : ∀ s b, mul s = .ok b ↔
      (clamped s : ZMod q) • gen ≠ 0 ∧ b = S.encPoint ((clamped s : ZMod q) • gen))
    (hcan : ∀ a c, chal a = .ok c → ∃ y : ZMod q, c = encScalar y) {wide : Bytes 64} {x : ZMod q}
    {proof : SchnorrProof} (h : proveSchnorr q mul chal wide (encScalar x) = .ok proof) :
    ∃ c, chal proof.a = .ok c ∧ (verifySchnorr S mul chal (S.encPoint (x • gen)) proof = true ↔
      (clamped proof.s : ZMod q) • gen ≠ 0 ∧ (clamped c : ZMod q) • x • gen ≠ 0) := by
  simp only [proveSchnorr, authScalarFromWide_eq, Except.bind_eq_ok_iff, hmul,
    Except.pure_eq_ok, Except.ok.injEq, clamped_encScalar S.order_le] at h
  obtain ⟨a, ⟨-, rfl⟩, c, hc, rfl⟩ := h
  obtain ⟨y, rfl⟩ := hcan _ _ hc
  refine ⟨encScalar y, hc, ?_⟩
  rw [authScalarMul_encScalar S.order_le, authScalarAdd_encScalar S.order_le]
  set r : ZMod q := scalarOf wide
  have hiff := verifySchnorr_encProof S (P := x • gen) (p := ⟨r • gen, r + y * x⟩) hmul hc
  rw [encProof] at hiff
  rw [hiff, clamped_encScalar S.order_le, clamped_encScalar S.order_le]
  exact ⟨fun hs => ⟨hs.response, hs.share⟩, fun hs => ⟨hs.1, hs.2, SchnorrEq.honest ..⟩⟩

theorem authProveAuthClient_eq {wide : Bytes 64} {x : ZMod q} (pid nonceC : Bytes 32)
    (ephC : G) (hr : (scalarOf wide : ZMod q) • S.base ≠ 0) (hx : x • S.base ≠ 0) :
    authProveAuthClient S wide (encScalar x) pid nonceC (S.encPoint ephC)
      = .ok (encProof S (Rust.proveAuthClient S wide x pid nonceC ephC)) := by
  apply proveSchnorr_eq S (authScalarmultBase_encScalar S hr)
  intro a
  simp only [authScalarmultBase_encScalar S hx, Except.ok_bind', authClientChallenge_eq]

theorem authProveAuthServer_eq {wide : Bytes 64} {sk : ZMod q} (nonceS : Bytes 32) (ephS : G)
    (hr : (scalarOf wide : ZMod q) • S.base ≠ 0) (hsk : sk • S.base ≠ 0) :
    authProveAuthServer S wide (encScalar sk) nonceS (S.encPoint ephS)
      = .ok (encProof S (Rust.proveAuthServer S wide sk nonceS ephS)) := by
  apply proveSchnorr_eq S (authScalarmultBase_encScalar S hr)
  intro a
  simp only [authScalarmultBase_encScalar S hsk, Except.ok_bind', authServerChallenge_eq]

theorem authProveRerandomization_eq {wide : Bytes 64} {delta : ZMod q} (storedC cPrime : G)
    (pid nonceC : Bytes 32) (ephC : G) (hr : (scalarOf wide : ZMod q) • S.attrH ≠ 0) :
    authProveRerandomization S wide (S.encPoint storedC) (S.encPoint cPrime) (encScalar delta)
        pid nonceC (S.encPoint ephC)
      = .ok (encProof S (Rust.proveRerandomization S wide storedC cPrime delta pid nonceC ephC)) :=
  proveSchnorr_eq S (authScalarmult_encScalar S hr)
    (fun a => rerandChallenge_eq S storedC cPrime pid nonceC ephC a)

theorem authVerifyAuthClient_encProof {pub : G} {pid nonceC : Bytes 32} {ephC : G}
    {p : Rust.SchnorrProof q G} :
    authVerifyAuthClient S (encProof S p) (S.encPoint pub) pid nonceC (S.encPoint ephC) = true ↔
      StrictEq S.base pub p.a (Rust.authClientChallenge S pub pid nonceC ephC p.a) p.s :=
  verifySchnorr_encProof S (fun _ _ => authScalarmultBase_eq_ok_iff)
    (authClientChallenge_eq S pub pid nonceC ephC p.a)

theorem authVerifyAuthServer_encProof {pub : G} {nonceS : Bytes 32} {ephS : G}
    {p : Rust.SchnorrProof q G} :
    authVerifyAuthServer S (encProof S p) (S.encPoint pub) nonceS (S.encPoint ephS) = true ↔
      StrictEq S.base pub p.a (Rust.authServerChallenge S pub nonceS ephS p.a) p.s :=
  verifySchnorr_encProof S (fun _ _ => authScalarmultBase_eq_ok_iff)
    (authServerChallenge_eq S pub nonceS ephS p.a)

theorem authVerifyRerandomization_encProof {storedC cPrime : G} {pid nonceC : Bytes 32}
    {ephC : G} {p : Rust.SchnorrProof q G} :
    authVerifyRerandomization S (encProof S p) (S.encPoint storedC) (S.encPoint cPrime) pid
        nonceC (S.encPoint ephC) = true ↔
      StrictEq S.attrH (cPrime - storedC) p.a
        (Rust.rerandChallenge S storedC cPrime pid nonceC ephC p.a) p.s := by
  simp only [authVerifyRerandomization, authPointSub_encPoint]
  exact verifySchnorr_encProof S attrH_mult_iff
    (rerandChallenge_eq S storedC cPrime pid nonceC ephC p.a)

/-! ## Role commitments -/

theorem authRerandomizeCommitment_eq {deltaWide : Bytes 64} (storedC : G) (blind : ZMod q)
    (hd : (scalarOf deltaWide : ZMod q) • S.attrH ≠ 0) :
    authRerandomizeCommitment S (S.encPoint storedC) (encScalar blind)
        (authScalarFromWide q deltaWide)
      = .ok (S.encPoint (Rust.rerandomizeCommitment S deltaWide storedC blind).1,
          encScalar (Rust.rerandomizeCommitment S deltaWide storedC blind).2.1) := by
  have hh : authScalarmult S (encScalar (scalarOf deltaWide : ZMod q)) (authAttrH S)
      = .ok (S.encPoint ((scalarOf deltaWide : ZMod q) • S.attrH)) :=
    authScalarmult_encScalar S hd
  simp [authRerandomizeCommitment, authScalarFromWide_eq, hh, authPointAdd_encPoint,
    authScalarAdd_encScalar S.order_le, Rust.rerandomizeCommitment]

/-! ## The role proof -/

omit [NeZero q] in
theorem encScalar_zero : encScalar (0 : ZMod q) = Bytes.zero 32 := by
  apply Bytes.ext
  simp only [encScalar, ZMod.val_zero]
  decide

/-- What the commitment loop must not multiply to the identity: its own nonce on the true
branch, both products on a simulated one. -/
def Committable (t i : ℕ) (bs : List (Rust.SetBranch q G)) (ys : List G) : Prop :=
  ∀ j br y, bs[j]? = some br → ys[j]? = some y →
    if i + j = t then br.a ≠ 0 else br.s • S.attrH ≠ 0 ∧ br.c • y ≠ 0

omit [NeZero q] in
theorem committable_cons {t i : ℕ} {br : Rust.SetBranch q G} {bs : List (Rust.SetBranch q G)}
    {y : G} {ys : List G} :
    Committable S t i (br :: bs) (y :: ys) ↔
      (if i = t then br.a ≠ 0 else br.s • S.attrH ≠ 0 ∧ br.c • y ≠ 0) ∧
        Committable S t (i + 1) bs ys := by
  constructor
  · intro h
    refine ⟨by simpa using h 0 br y rfl rfl, ?_⟩
    intro j br' y' hb hy
    have h1 := h (j + 1) br' y' (by simpa using hb) (by simpa using hy)
    rwa [show i + (j + 1) = i + 1 + j by omega] at h1
  · rintro ⟨h0, hrest⟩ j br' y' hb hy
    cases j with
    | zero =>
        simp only [List.getElem?_cons_zero, Option.some.injEq] at hb hy
        rw [← hb, ← hy]
        simpa using h0
    | succ j =>
        have h1 := hrest j br' y' (by simpa using hb) (by simpa using hy)
        rwa [show i + 1 + j = i + (j + 1) by omega] at h1

theorem commitBranches_eq (t : ℕ) (wide : ℕ → Bytes 64) (i k : ℕ) (ys : List G)
    (h : Committable S t i (Rust.roleBranches (q := q) S.attrH t wide i k ys).1 ys) :
    commitBranches S t wide i k (ys.map S.encPoint)
      = .ok ((Rust.roleBranches (q := q) S.attrH t wide i k ys).1.map (encBranch S),
          encScalar (Rust.roleBranches (q := q) S.attrH t wide i k ys).2) := by
  induction ys generalizing i k with
  | nil => simp [commitBranches, Rust.roleBranches, encScalar_zero]
  | cons y ys ih =>
      unfold commitBranches Rust.roleBranches
      unfold Rust.roleBranches at h
      by_cases hit : i = t
      · simp only [hit, if_true, committable_cons] at h
        have hw : authScalarmult S (encScalar (scalarOf (wide k) : ZMod q)) (authAttrH S)
            = .ok (S.encPoint ((scalarOf (wide k) : ZMod q) • S.attrH)) :=
          authScalarmult_encScalar S h.1
        simp [hit, authScalarFromWide_eq, hw, ih (t + 1) (k + 1) h.2, encBranch,
          encScalar_zero]
      · simp only [hit, if_false, committable_cons] at h
        have hs : authScalarmult S (encScalar (scalarOf (wide (k + 1)) : ZMod q)) (authAttrH S)
            = .ok (S.encPoint ((scalarOf (wide (k + 1)) : ZMod q) • S.attrH)) :=
          authScalarmult_encScalar S h.1.1
        simp [hit, authScalarFromWide_eq, hs, authScalarmult_encScalar S h.1.2,
          authPointSub_encPoint, ih (i + 1) (k + 2) h.2, encBranch]

/-- A commitment loop that succeeds has multiplied nothing to the identity. -/
theorem committable_of_commitBranches {t : ℕ} {wide : ℕ → Bytes 64} {i k : ℕ} {ys : List G}
    {r : List SetBranch × Bytes 32}
    (h : commitBranches S t wide i k (ys.map S.encPoint) = .ok r) :
    Committable S t i (Rust.roleBranches (q := q) S.attrH t wide i k ys).1 ys := by
  induction ys generalizing i k r with
  | nil =>
      intro j br y _ hy
      simp at hy
  | cons y ys ih =>
      rw [List.map_cons, commitBranches] at h
      unfold Rust.roleBranches
      by_cases hit : i = t
      · rw [if_pos hit] at h
        simp only [Except.bind_eq_ok_iff, authScalarFromWide_eq, attrH_mult_iff,
          clamped_encScalar S.order_le] at h
        obtain ⟨a, ⟨ha, -⟩, rest, hrest, -⟩ := h
        rw [if_pos hit, committable_cons, if_pos hit]
        exact ⟨ha, ih hrest⟩
      · rw [if_neg hit] at h
        simp only [Except.bind_eq_ok_iff, authScalarFromWide_eq, attrH_mult_iff,
          authScalarmult_encPoint_iff, clamped_encScalar S.order_le] at h
        obtain ⟨hs, ⟨hsn, -⟩, yc, ⟨hyn, -⟩, a, -, rest, hrest, -⟩ := h
        rw [if_neg hit, committable_cons, if_neg hit]
        exact ⟨⟨hsn, hyn⟩, ih hrest⟩

theorem sumScalars_eq (hq : q ≤ 2 ^ 255) (cs : List (ZMod q)) :
    sumScalars q (cs.map encScalar) = encScalar cs.sum := by
  have hacc : ∀ acc : ZMod q, (cs.map encScalar).foldl (authScalarAdd q) (encScalar acc)
      = encScalar (acc + cs.sum) := by
    induction cs with
    | nil => simp
    | cons c cs ih =>
        intro acc
        simp only [List.map_cons, List.foldl_cons, authScalarAdd_encScalar hq, ih,
          List.sum_cons, add_assoc]
  have h := hacc 0
  rwa [encScalar_zero, zero_add] at h

/-- The C prover builds the Rust proof. -/
theorem authProveRoleSetMembership_eq {wide : ℕ → Bytes 64} {b : Rust.RoleSetBinding G}
    {roleCode : UInt64} {blindPrime : ZMod q} {branches : List (Rust.SetBranch q G)} {t : ℕ}
    (h0 : b.allowedRoles.length ≠ 0) (h8 : b.allowedRoles.length ≤ maxRoles)
    (hroles : ∀ r ∈ b.allowedRoles, (scalarOfU64 r : ZMod q) • S.base ≠ 0)
    (ht : b.allowedRoles.idxOf? roleCode = some t)
    (hcom : Committable S t 0
      (Rust.roleBranches (q := q) S.attrH t wide 0 0 (Rust.yPoints S b)).1 (Rust.yPoints S b))
    (hp : Rust.proveRoleSetMembership S wide b roleCode blindPrime = .ok branches) :
    authProveRoleSetMembership S wide b.allowedRoles (S.encPoint b.cPrime) roleCode
        (encScalar blindPrime) b.pid b.nonceC (S.encPoint b.ephC)
      = .ok (branches.map (encBranch S)) := by
  simp only [Rust.proveRoleSetMembership, ht, Except.ok.injEq] at hp
  set bs := (Rust.roleBranches (q := q) S.attrH t wide 0 0 (Rust.yPoints S b)).1 with hbs
  set w := (Rust.roleBranches (q := q) S.attrH t wide 0 0 (Rust.yPoints S b)).2 with hw
  have hys : roleYs S (S.encPoint b.cPrime) b.allowedRoles
      = .ok ((Rust.yPoints S b).map S.encPoint) :=
    (roleYs_eq_ok_iff (S.decPoint_encPoint _)).mpr ⟨hroles, rfl⟩
  have hlen : bs.length = b.allowedRoles.length := by simp [hbs, Rust.yPoints]
  have hpoints : (bs.map (encBranch S)).map SetBranch.a = (bs.map Branch.a).map S.encPoint := by
    simp [encBranch]
  have hmaster : roleSetMasterChallenge S b.allowedRoles (S.encPoint b.cPrime)
      ((bs.map (encBranch S)).map SetBranch.a) b.pid b.nonceC (S.encPoint b.ephC)
      = .ok (encScalar (Rust.roleSetChallenge S b (bs.map Branch.a))) := by
    rw [hpoints]
    exact roleSetMasterChallenge_eq S b (bs.map Branch.a) h8 (by simpa [hlen] using h8)
  have hsum : sumScalars q (((bs.map (encBranch S)).eraseIdx t).map SetBranch.c)
      = encScalar (Branch.challengeSum (bs.eraseIdx t)) := by
    rw [Branch.challengeSum, ← sumScalars_eq S.order_le, List.eraseIdx_map, List.map_map,
      List.map_map]
    rfl
  simp only [authProveRoleSetMembership, ensure_pos (And.intro h0 h8), Except.ok_bind', ht, hys,
    commitBranches_eq S t wide 0 0 _ hcom, hmaster, Except.pure_eq_ok, ← hbs, ← hw]
  rw [hsum, authScalarSub_encScalar S.order_le, authScalarMul_encScalar S.order_le,
    authScalarAdd_encScalar S.order_le, ← hp, Branch.answer]
  congr 1
  apply List.ext_getElem
  · simp
  · intro n h1 h2
    simp only [List.getElem_modify, List.getElem_map]
    split <;> rfl

/-- The role verifier on encodings returns 1 exactly when the counts agree, no product is the
identity, the shares add up and every equation holds. -/
theorem authVerifyRoleSetMembership_encBranch {b : Rust.RoleSetBinding G}
    {branches : List (Rust.SetBranch q G)} :
    authVerifyRoleSetMembership S (branches.map (encBranch S)) b.allowedRoles
        (S.encPoint b.cPrime) b.pid b.nonceC (S.encPoint b.ephC) = true ↔
      (branches.length = b.allowedRoles.length ∧ b.allowedRoles.length ≠ 0 ∧
        b.allowedRoles.length ≤ maxRoles) ∧
      (∀ r ∈ b.allowedRoles, (scalarOfU64 r : ZMod q) • S.base ≠ 0) ∧
      (branches.map Branch.c).sum = Rust.roleSetChallenge S b (branches.map Branch.a) ∧
      ∀ p ∈ branches.zip (Rust.yPoints S b), StrictEq S.attrH p.2 p.1.a p.1.c p.1.s := by
  have hpoints : (branches.map (encBranch S)).map SetBranch.a
      = (branches.map Branch.a).map S.encPoint := by
    simp [encBranch]
  have hscalars : (branches.map (encBranch S)).map SetBranch.c
      = (branches.map Branch.c).map encScalar := by
    simp [encBranch]
  have hbranch : ∀ (br : Rust.SetBranch q G) (y : G),
      BranchAccepted S (encBranch S br) y ↔ StrictEq S.attrH y br.a br.c br.s := by
    intro br y
    simp only [BranchAccepted, encBranch, S.decPoint_encPoint, Option.some.injEq,
      exists_eq_left', clamped_encScalar S.order_le]
  have hall : (∀ p ∈ (branches.map (encBranch S)).zip (Rust.yPoints S b),
      BranchAccepted S p.1 p.2) ↔
      ∀ p ∈ branches.zip (Rust.yPoints S b), StrictEq S.attrH p.2 p.1.a p.1.c p.1.s := by
    rw [List.zip_map_left, List.forall_mem_map]
    exact forall₂_congr fun p _ => hbranch p.1 p.2
  rw [authVerifyRoleSetMembership_iff, List.length_map, hpoints, hscalars,
    sumScalars_eq S.order_le]
  simp only [S.decPoint_encPoint, Option.some.injEq, exists_eq_left']
  refine and_congr_right fun hcount => and_congr_right fun _ => and_congr ?_ hall
  rw [roleSetMasterChallenge_eq S b (branches.map Branch.a) hcount.2.2
    (by rw [List.length_map]; omega), Except.ok.injEq]
  constructor
  · intro h
    exact (encScalar_inj S.order_le h).symm
  · intro h
    rw [h]

end ZkArche.C
