import Mathlib.Algebra.Field.ZMod
import ZkArche.Crypto.RoleParity

/-!
# What two role proofs give away

A *fork* is a pair of accepted proofs with the same commitments and different challenges.  Two
runs with different hash functions have one, and so have two runs with one hash function whose
bindings differ outside of the roles and `c_prime`.

A fork of the role proof gives away an allowed role and the blind under which `c_prime` commits
to it.  A fork of the rerandomization proof gives away the shift between `c_prime` and the
stored commitment.  Both together open the stored commitment to the allowed role.  Since every
point has an opening for every role, the openings are computed here from the two proofs
(`Branch.extract`, `extractWitness`).

The forks are stated three times: for the equations with arbitrary challenges, for the Rust
verifiers, and for the C verifiers on canonical scalars.  The last two are instances of the
first.
-/

namespace ZkArche

variable {q : ℕ} {G : Type} [AddCommGroup G] [Module (ZMod q) G]

/-- Two suites with the same group, generators and point encoding.  Their hash functions may
differ. -/
structure Suite.SameGroup (S S' : Suite q G) : Prop where
  base : S'.base = S.base
  attrH : S'.attrH = S.attrH
  encPoint : S'.encPoint = S.encPoint

theorem Suite.SameGroup.decPoint {S S' : Suite q G} (hS : S.SameGroup S') (b : Bytes 32) :
    S'.decPoint b = S.decPoint b := by
  apply Option.ext
  intro P
  rw [S'.decPoint_eq_some_iff, S.decPoint_eq_some_iff, hS.encPoint]

/-! ## Forks of the equations -/

/-- The equations of the role verifier, for a master challenge. -/
structure RoleEquations (S : Suite q G) (roles : List UInt64) (cPrime : G) (master : ZMod q)
    (branches : List (Rust.SetBranch q G)) : Prop where
  count : branches.length = roles.length
  sum : Branch.challengeSum branches = master
  accept : Branch.AllAccept S.attrH branches (C.roleStatements S cPrime roles)

theorem RoleEquations.of_sameGroup {S S' : Suite q G} (hS : S.SameGroup S') {roles : List UInt64}
    {cPrime : G} {master : ZMod q} {branches : List (Rust.SetBranch q G)}
    (h : RoleEquations S' roles cPrime master branches) :
    RoleEquations S roles cPrime master branches := by
  refine ⟨h.count, h.sum, ?_⟩
  have hacc := h.accept
  rwa [hS.attrH, C.roleStatements, hS.base] at hacc

section Extract

variable [Fact q.Prime]

/-- A fork of the role proof, with what is extracted from it. -/
def RoleFork (S : Suite q G) (roles : List UInt64) (cPrime : G) (out : Option (ℕ × ZMod q)) :
    Prop :=
  ∃ master master' bs bs', RoleEquations S roles cPrime master bs ∧
    RoleEquations S roles cPrime master' bs' ∧ bs.map Branch.a = bs'.map Branch.a ∧
    master ≠ master' ∧ out = Branch.extract (bs.map Branch.answers) (bs'.map Branch.answers)

/-- A fork of the rerandomization proof, with the shift that is extracted from it. -/
def RerandFork (S : Suite q G) (cPrime storedC : G) (delta : ZMod q) : Prop :=
  ∃ a c s c' s', SchnorrEq S.attrH (cPrime - storedC) a c s ∧
    SchnorrEq S.attrH (cPrime - storedC) a c' s' ∧ c ≠ c' ∧
    delta = extractWitness (c, s) (c', s')

/-- What is extracted opens both commitments to the same allowed role. -/
def Opened (S : Suite q G) (roles : List UInt64) (cPrime : G) (out : Option (ℕ × ZMod q))
    (shift : G → ZMod q → Prop) : Prop :=
  ∃ i w r, out = some (i, w) ∧ roles[i]? = some r ∧ cPrime = Rust.makeRoleCommitment S r w ∧
    ∀ storedC delta, shift storedC delta →
      storedC = Rust.makeRoleCommitment S r (w - delta)

theorem Opened.mono {S : Suite q G} {roles : List UInt64} {cPrime : G}
    {out : Option (ℕ × ZMod q)} {shift shift' : G → ZMod q → Prop}
    (h : Opened S roles cPrime out shift)
    (hshift : ∀ storedC delta, shift' storedC delta → shift storedC delta) :
    Opened S roles cPrime out shift' := by
  obtain ⟨i, w, r, hout, hr, hc, hall⟩ := h
  exact ⟨i, w, r, hout, hr, hc, fun storedC delta hs => hall storedC delta (hshift _ _ hs)⟩

/-- A fork of the role proof is opened, and a fork of the rerandomization proof carries the
opening over. -/
theorem RoleFork.opened {S : Suite q G} {roles : List UInt64} {cPrime : G}
    {out : Option (ℕ × ZMod q)} (h : RoleFork S roles cPrime out) :
    Opened S roles cPrime out (RerandFork S cPrime) := by
  obtain ⟨master, master', bs, bs', he, he', ha, hne, rfl⟩ := h
  have hsum : Branch.challengeSum bs ≠ Branch.challengeSum bs' := by
    rw [he.sum, he'.sum]
    exact hne
  obtain ⟨i, w, hout, hy⟩ := Branch.extract_spec he.accept he'.accept ha hsum
  rw [C.roleStatements, List.getElem?_map, Option.map_eq_some_iff] at hy
  obtain ⟨r, hr, hy⟩ := hy
  have hc : cPrime = Rust.makeRoleCommitment S r w := by
    rw [Rust.makeRoleCommitment, ← hy]
    abel
  refine ⟨i, w, r, hout, hr, hc, ?_⟩
  rintro storedC delta ⟨a, c, s, c', s', hs, hs', hcc, rfl⟩
  have hdiff := SchnorrEq.extract hs hs' hcc
  calc
    storedC = cPrime - (cPrime - storedC) := by abel
    _ = Rust.makeRoleCommitment S r w - extractWitness (c, s) (c', s') • S.attrH := by
      rw [hdiff, hc]
    _ = Rust.makeRoleCommitment S r (w - extractWitness (c, s) (c', s')) := by
      rw [Rust.makeRoleCommitment, Rust.makeRoleCommitment, sub_smul]
      abel

/-! ## Forks of the Rust verifiers -/

namespace Rust

variable [DecidableEq G]

/-- Two accepted role proofs with the same commitments and different master challenges. -/
def RoleFork (S S' : Suite q G) (roles : List UInt64) (cPrime : G) (out : Option (ℕ × ZMod q)) :
    Prop :=
  ∃ (b b' : RoleSetBinding G) (bs bs' : List (SetBranch q G)),
    (b.allowedRoles = roles ∧ b.cPrime = cPrime ∧ verifyRoleSetMembership S b bs = true) ∧
    (b'.allowedRoles = roles ∧ b'.cPrime = cPrime ∧ verifyRoleSetMembership S' b' bs' = true) ∧
    bs.map Branch.a = bs'.map Branch.a ∧
    roleSetChallenge S b (bs.map Branch.a) ≠ roleSetChallenge S' b' (bs'.map Branch.a) ∧
    out = Branch.extract (bs.map Branch.answers) (bs'.map Branch.answers)

/-- Two accepted rerandomization proofs with the same commitment and different challenges. -/
def RerandFork (S S' : Suite q G) (cPrime storedC : G) (delta : ZMod q) : Prop :=
  ∃ (pid pid' nonceC nonceC' : Bytes 32) (ephC ephC' : G) (p p' : SchnorrProof q G),
    verifyRerandomization S storedC cPrime pid nonceC ephC p = true ∧
    verifyRerandomization S' storedC cPrime pid' nonceC' ephC' p' = true ∧ p.a = p'.a ∧
    rerandChallenge S storedC cPrime pid nonceC ephC p.a ≠
      rerandChallenge S' storedC cPrime pid' nonceC' ephC' p'.a ∧
    delta = extractWitness (rerandChallenge S storedC cPrime pid nonceC ephC p.a, p.s)
      (rerandChallenge S' storedC cPrime pid' nonceC' ephC' p'.a, p'.s)

omit [Fact q.Prime] in
theorem roleEquations_of_verify {S : Suite q G} {b : RoleSetBinding G}
    {bs : List (SetBranch q G)} (h : verifyRoleSetMembership S b bs = true) :
    RoleEquations S b.allowedRoles b.cPrime (roleSetChallenge S b (bs.map Branch.a)) bs := by
  obtain ⟨hcount, hsum, hacc⟩ := verifyRoleSetMembership_iff.mp h
  exact ⟨hcount, hsum, hacc⟩

theorem RoleFork.equations {S S' : Suite q G} (hS : S.SameGroup S') {roles : List UInt64}
    {cPrime : G} {out : Option (ℕ × ZMod q)} (h : Rust.RoleFork S S' roles cPrime out) :
    ZkArche.RoleFork S roles cPrime out := by
  obtain ⟨b, b', bs, bs', ⟨hr, hc, hv⟩, ⟨hr', hc', hv'⟩, ha, hne, hout⟩ := h
  have he := roleEquations_of_verify hv
  have he' := (roleEquations_of_verify hv').of_sameGroup hS
  rw [hr, hc] at he
  rw [hr', hc'] at he'
  exact ⟨_, _, bs, bs', he, he', ha, hne, hout⟩

theorem RerandFork.equations {S S' : Suite q G} (hS : S.SameGroup S') {cPrime storedC : G}
    {delta : ZMod q} (h : Rust.RerandFork S S' cPrime storedC delta) :
    ZkArche.RerandFork S cPrime storedC delta := by
  obtain ⟨pid, pid', nonceC, nonceC', ephC, ephC', p, p', hv, hv', ha, hne, hdelta⟩ := h
  have he := of_decide_eq_true hv
  have he' := of_decide_eq_true hv'
  rw [hS.attrH, ← ha] at he'
  rw [← ha] at hne hdelta
  exact ⟨p.a, _, p.s, _, p'.s, he, he', hne, hdelta⟩

end Rust

/-! ## Forks of the C verifiers -/

namespace C

/-- A branch whose scalars are canonical encodings. -/
def SetBranch.Canonical (q : ℕ) (b : SetBranch) : Prop :=
  ∃ c s : ZMod q, b.c = encScalar c ∧ b.s = encScalar s

/-- The challenge and the response as scalars. -/
def SetBranch.answers (b : SetBranch) : ZMod q × ZMod q := (scalarOf b.c, scalarOf b.s)

/-- Two accepted role proofs with canonical scalars, the same commitments and different master
challenges. -/
def RoleFork (S S' : Suite q G) (roles : List UInt64) (cPrime : Bytes 32)
    (out : Option (ℕ × ZMod q)) : Prop :=
  ∃ (pid pid' nonceC nonceC' ephC ephC' : Bytes 32) (bs bs' : List SetBranch),
    (∀ b ∈ bs ++ bs', b.Canonical q) ∧
    authVerifyRoleSetMembership S bs roles cPrime pid nonceC ephC = true ∧
    authVerifyRoleSetMembership S' bs' roles cPrime pid' nonceC' ephC' = true ∧
    bs.map SetBranch.a = bs'.map SetBranch.a ∧
    roleSetMasterChallenge S roles cPrime (bs.map SetBranch.a) pid nonceC ephC ≠
      roleSetMasterChallenge S' roles cPrime (bs'.map SetBranch.a) pid' nonceC' ephC' ∧
    out = Branch.extract (bs.map SetBranch.answers) (bs'.map SetBranch.answers)

/-- Two accepted rerandomization proofs with canonical responses, the same commitment and
different challenges. -/
def RerandFork (S S' : Suite q G) (cPrime storedC : Bytes 32) (delta : ZMod q) : Prop :=
  ∃ (pid pid' nonceC nonceC' ephC ephC' c c' : Bytes 32) (p p' : SchnorrProof) (s s' : ZMod q),
    (p.s = encScalar s ∧ p'.s = encScalar s') ∧
    authVerifyRerandomization S p storedC cPrime pid nonceC ephC = true ∧
    authVerifyRerandomization S' p' storedC cPrime pid' nonceC' ephC' = true ∧ p.a = p'.a ∧
    rerandChallenge S pid nonceC ephC storedC cPrime p.a = .ok c ∧
    rerandChallenge S' pid' nonceC' ephC' storedC cPrime p'.a = .ok c' ∧ c ≠ c' ∧
    delta = extractWitness (scalarOf c, s) (scalarOf c', s')

theorem answers_encBranch (S : Suite q G) (br : Rust.SetBranch q G) :
    (encBranch S br).answers = br.answers := by
  simp only [SetBranch.answers, encBranch, scalarOf_encScalar S.order_le]
  rfl

/-- Accepted branches with canonical scalars encode branches that satisfy the equations. -/
theorem exists_encBranch {S : Suite q G} {bs : List SetBranch} {ys : List G}
    (hacc : List.Forall₂ (BranchAccepted S) bs ys) (hcanon : ∀ b ∈ bs, b.Canonical q) :
    ∃ brs, bs = brs.map (encBranch S) ∧ Branch.AllAccept S.attrH brs ys := by
  induction hacc with
  | nil => exact ⟨[], rfl, .nil⟩
  | @cons b y bs ys hb _ ih =>
      obtain ⟨brs, rfl, hbrs⟩ := ih fun b' hb' => hcanon b' (List.mem_cons_of_mem b hb')
      obtain ⟨c, s, hc, hs⟩ := hcanon b List.mem_cons_self
      obtain ⟨A, hA, hstrict⟩ := hb
      rw [hc, hs, clamped_encScalar S.order_le, clamped_encScalar S.order_le] at hstrict
      have henc : b = encBranch S ⟨A, c, s⟩ := by
        cases b
        simp only [encBranch, (S.decPoint_eq_some_iff _ _).mp hA]
        rw [SetBranch.mk.injEq]
        exact ⟨rfl, hc, hs⟩
      exact ⟨⟨A, c, s⟩ :: brs, by rw [List.map_cons, ← henc], .cons hstrict.eqn hbrs⟩

/-- An accepted role proof with canonical scalars satisfies the equations. -/
theorem roleEquations_of_verify {S : Suite q G} {bs : List SetBranch} {roles : List UInt64}
    {cPrime pid nonceC ephC : Bytes 32} {K : G} (hK : S.decPoint cPrime = some K)
    (h : authVerifyRoleSetMembership S bs roles cPrime pid nonceC ephC = true)
    (hcanon : ∀ b ∈ bs, b.Canonical q) :
    ∃ master brs, bs = brs.map (encBranch S) ∧ RoleEquations S roles K master brs ∧
      roleSetMasterChallenge S roles cPrime (bs.map SetBranch.a) pid nonceC ephC
        = .ok (encScalar master) := by
  obtain ⟨⟨hlen, -, -⟩, -, hsum, K', hK', hacc⟩ := authVerifyRoleSetMembership_iff.mp h
  obtain rfl : K' = K := Option.some.inj (hK'.symm.trans hK)
  have hys : bs.length = (roleStatements S K' roles).length := by
    rw [roleStatements, List.length_map, hlen]
  obtain ⟨brs, rfl, hbrs⟩ := exists_encBranch
    (List.forall₂_iff_zip.mpr ⟨hys, fun hm => hacc _ hm⟩) hcanon
  have hscalars : (brs.map (encBranch S)).map SetBranch.c = (brs.map Branch.c).map encScalar := by
    simp [encBranch]
  rw [hscalars, sumScalars_eq S.order_le] at hsum
  exact ⟨_, brs, rfl, ⟨by simpa using hlen, rfl, hbrs⟩, hsum⟩

theorem RoleFork.equations {S S' : Suite q G} (hS : S.SameGroup S') {roles : List UInt64}
    {cPrime : Bytes 32} {out : Option (ℕ × ZMod q)} (h : C.RoleFork S S' roles cPrime out) :
    ∃ K, S.decPoint cPrime = some K ∧ ZkArche.RoleFork S roles K out := by
  obtain ⟨pid, pid', nonceC, nonceC', ephC, ephC', bs, bs', hcanon, hv, hv', ha, hne, rfl⟩ := h
  obtain ⟨-, -, -, K, hK, -⟩ := authVerifyRoleSetMembership_iff.mp hv
  obtain ⟨m, brs, rfl, he, hm⟩ := roleEquations_of_verify hK hv
    fun b hb => hcanon b (List.mem_append_left _ hb)
  obtain ⟨m', brs', rfl, he', hm'⟩ := roleEquations_of_verify ((hS.decPoint cPrime).trans hK) hv'
    fun b hb => hcanon b (List.mem_append_right _ hb)
  refine ⟨K, hK, m, m', brs, brs', he, he'.of_sameGroup hS, ?_, ?_, ?_⟩
  · have hpoints : (brs.map Branch.a).map S.encPoint = (brs'.map Branch.a).map S.encPoint := by
      simpa only [List.map_map, Function.comp_def, encBranch, hS.encPoint] using ha
    exact List.map_injective_iff.mpr (fun _ _ => S.encPoint_inj) hpoints
  · intro hmm
    exact hne (by rw [hm, hm', hmm])
  · simp only [List.map_map, Function.comp_def, answers_encBranch]

/-- An accepted rerandomization proof with a canonical response satisfies its equation. -/
theorem schnorrEq_of_verifyRerandomization {S : Suite q G} {p : SchnorrProof} {K P : G}
    {storedC cPrime pid nonceC ephC c : Bytes 32} {s : ZMod q}
    (hK : S.decPoint cPrime = some K) (hP : S.decPoint storedC = some P)
    (hs : p.s = encScalar s) (hc : rerandChallenge S pid nonceC ephC storedC cPrime p.a = .ok c)
    (h : authVerifyRerandomization S p storedC cPrime pid nonceC ephC = true) :
    ∃ A, S.decPoint p.a = some A ∧ SchnorrEq S.attrH (K - P) A (scalarOf c) s := by
  have hsub : authPointSub S cPrime storedC = .ok (S.encPoint (K - P)) :=
    authPointSub_eq_ok_iff.mpr ⟨K, P, hK, hP, rfl⟩
  obtain ⟨x, rfl⟩ := challenge_canonical hc
  simp only [authVerifyRerandomization, hsub] at h
  obtain ⟨c', A, Q, hc', hA, hQ, hstrict⟩ := (verifySchnorr_iff attrH_mult_iff).mp h
  obtain rfl : encScalar x = c' := Except.ok.inj (hc.symm.trans hc')
  obtain rfl : K - P = Q := Option.some.inj ((S.decPoint_encPoint _).symm.trans hQ)
  have heqn := hstrict.eqn
  rw [hs, clamped_encScalar S.order_le, clamped_encScalar S.order_le] at heqn
  rw [scalarOf_encScalar S.order_le]
  exact ⟨A, hA, heqn⟩

/-- The stored commitment of a fork decodes. -/
theorem RerandFork.decodes {S S' : Suite q G} {cPrime storedC : Bytes 32} {delta : ZMod q}
    (h : C.RerandFork S S' cPrime storedC delta) : ∃ P, S.decPoint storedC = some P := by
  obtain ⟨pid, -, nonceC, -, ephC, -, -, -, p, -, -, -, -, hv, -⟩ := h
  unfold authVerifyRerandomization at hv
  split at hv
  next => cases hv
  next diff hdiff =>
    obtain ⟨-, P, -, hP, -⟩ := authPointSub_eq_ok_iff.mp hdiff
    exact ⟨P, hP⟩

theorem RerandFork.equations {S S' : Suite q G} (hS : S.SameGroup S') {cPrime storedC : Bytes 32}
    {K P : G} (hK : S.decPoint cPrime = some K) (hP : S.decPoint storedC = some P)
    {delta : ZMod q} (h : C.RerandFork S S' cPrime storedC delta) :
    ZkArche.RerandFork S K P delta := by
  obtain ⟨pid, pid', nonceC, nonceC', ephC, ephC', c, c', p, p', s, s', ⟨hs, hs'⟩, hv, hv', ha, hc,
    hc', hne, hdelta⟩ := h
  obtain ⟨A, hA, he⟩ := schnorrEq_of_verifyRerandomization hK hP hs hc hv
  obtain ⟨A', hA', he'⟩ := schnorrEq_of_verifyRerandomization ((hS.decPoint _).trans hK)
    ((hS.decPoint _).trans hP) hs' hc' hv'
  obtain rfl : A' = A := by
    rw [hS.decPoint, ← ha, hA] at hA'
    exact (Option.some.inj hA').symm
  rw [hS.attrH] at he'
  refine ⟨A', _, s, _, s', he, he', ?_, hdelta⟩
  obtain ⟨x, rfl⟩ := challenge_canonical hc
  obtain ⟨x', rfl⟩ := challenge_canonical hc'
  rw [scalarOf_encScalar S.order_le, scalarOf_encScalar S.order_le]
  rintro rfl
  exact hne rfl

end C

/-! ## Special soundness -/

/-- What a fork of the role proof gives away opens `c_prime` to an allowed role.  With a fork
of the rerandomization proof it opens the stored commitment to the same role.  So it is for the
equations with arbitrary challenges, for the Rust verifiers, and for the C verifiers on
canonical scalars. -/
theorem role_proofs_sound [DecidableEq G] (S S' : Suite q G) (hS : S.SameGroup S') :
    (∀ roles cPrime out, RoleFork S roles cPrime out →
      Opened S roles cPrime out (RerandFork S cPrime)) ∧
    (∀ roles cPrime out, Rust.RoleFork S S' roles cPrime out →
      Opened S roles cPrime out (Rust.RerandFork S S' cPrime)) ∧
    ∀ roles cPrime out, C.RoleFork S S' roles cPrime out →
      (∃ K, S.encPoint K = cPrime ∧ Opened S roles K out fun P delta =>
        C.RerandFork S S' cPrime (S.encPoint P) delta) ∧
      ∀ storedC delta, C.RerandFork S S' cPrime storedC delta → ∃ P, S.encPoint P = storedC := by
  refine ⟨fun _ _ _ => RoleFork.opened, ?_, ?_⟩
  · intro roles cPrime out h
    exact (h.equations hS).opened.mono fun _ _ => Rust.RerandFork.equations hS
  · intro roles cPrime out h
    obtain ⟨K, hK, hfork⟩ := h.equations hS
    refine ⟨⟨K, (S.decPoint_eq_some_iff _ _).mp hK, hfork.opened.mono fun P delta => ?_⟩, ?_⟩
    · exact C.RerandFork.equations hS hK (S.decPoint_encPoint P)
    · intro storedC delta hrerand
      obtain ⟨P, hP⟩ := hrerand.decodes
      exact ⟨P, (S.decPoint_eq_some_iff _ _).mp hP⟩

end Extract

/-! ## A fork of the small suite -/

/-- A second statement for the same roles and commitment, with another nonce. -/
def demoRebound : Rust.RoleSetBinding (ZMod 11) :=
  { demoBinding [1, 2] 2 with nonceC := byteString 31 8 }

/-- The proof of the second statement, with the draws of the first. -/
def demoReboundBranches : List (Rust.SetBranch 11 (ZMod 11)) :=
  match Rust.proveRoleSetMembership smallSuite (demoDraws 5) demoRebound 2 demoDeviceKey with
  | .ok bs => bs
  | .error _ => []

local instance factPrimeEleven : Fact (Nat.Prime 11) := ⟨Nat.prime_eleven⟩

theorem role_proofs_sound_demo :
    ∃ out, Rust.RoleFork smallSuite smallSuite [1, 2] demoRebound.cPrime out ∧
      Opened smallSuite [1, 2] demoRebound.cPrime out
        (Rust.RerandFork smallSuite smallSuite demoRebound.cPrime) := by
  have hfork : Rust.RoleFork smallSuite smallSuite [1, 2] demoRebound.cPrime
      (Branch.extract ((demoBranches [1, 2] 2 5).map Branch.answers)
        (demoReboundBranches.map Branch.answers)) := by
    refine ⟨demoBinding [1, 2] 2, demoRebound, demoBranches [1, 2] 2 5, demoReboundBranches,
      ⟨rfl, rfl, ?_⟩, ⟨rfl, rfl, ?_⟩, ?_, ?_, rfl⟩ <;> decide +kernel
  obtain ⟨-, hrust, -⟩ := role_proofs_sound smallSuite smallSuite ⟨rfl, rfl, rfl⟩
  exact ⟨_, hfork, hrust _ _ _ hfork⟩

end ZkArche
