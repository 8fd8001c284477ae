import ZkArche.Crypto.Transcript
import ZkArche.Lib.OrProver
import ZkArche.Wire.Header

/-!
# The proofs of the Rust crate

The zero-knowledge proofs of `crypto.rs`, over points and scalars.

Four Schnorr proofs share one shape: commit, hash a transcript that names the
statement, answer.  `schnorrProve` and `schnorrVerify` are that shape, and each
`prove_*` / `verify_*` pair applies it to its own domain and fields.  The
rerandomization proof has the same shape at the second generator.

The role proof is a disjunction over the allowed roles.  Branch `i` is the statement
that `c_prime - g * r_i` is a multiple of `h`.  The prover simulates every branch but
its own, hashes all commitments into one master challenge, and gives its own branch
the challenge that is left.

Randomness is a parameter.  A prover takes the 64 bytes it draws, and the role prover a
stream of such draws in the order it makes them.
-/

namespace ZkArche.Rust

variable {q : ℕ} {G : Type} [AddCommGroup G] [Module (ZMod q) G]

/-- `SchnorrProof`. -/
structure SchnorrProof (q : ℕ) (G : Type) where
  a : G
  s : ZMod q
deriving DecidableEq

/-- `SetBranch`. -/
abbrev SetBranch (q : ℕ) (G : Type) := Branch (ZMod q) G

/-- `SetupBinding`: what both enrollment proofs commit to. -/
structure SetupBinding (G : Type) where
  deviceId : Bytes 32
  devicePub : G
  serverPub : G
  clientNonce : Bytes 32
  serverNonce : Bytes 32
  setupChallenge : Bytes 16

/-- `RoleSetBinding`: the public side of the role proof. -/
structure RoleSetBinding (G : Type) where
  allowedRoles : List UInt64
  cPrime : G
  pid : Bytes 32
  nonceC : Bytes 32
  ephC : G

variable (S : Suite q G)

/-- `make_role_commitment`, at an encoded role code. -/
def makeRoleCommitment (roleCode : UInt64) (blind : ZMod q) : G :=
  (scalarOfU64 roleCode : ZMod q) • S.base + blind • S.attrH

/-! ## Schnorr proofs -/

/-- Commit at the generator `gen`, ask for the challenge, answer. -/
def schnorrProve (gen : G) (chal : G → ZMod q) (wide : Bytes 64) (x : ZMod q) :
    SchnorrProof q G :=
  let r : ZMod q := scalarOf wide
  let a := r • gen
  ⟨a, r + chal a * x⟩

/-- Check the Schnorr equation for the statement `P`. -/
def schnorrVerify [DecidableEq G] (gen : G) (chal : G → ZMod q) (P : G)
    (proof : SchnorrProof q G) : Bool :=
  decide (proof.s • gen = proof.a + chal proof.a • P)

/-- The fields of both enrollment transcripts. -/
def setupFields (role : String) (b : SetupBinding G) (a : G) : List Field :=
  [field "role" (ascii role),
    field "device_id" b.deviceId.val,
    field "device_pub" (S.encPoint b.devicePub).val,
    field "server_pub" (S.encPoint b.serverPub).val,
    field "a" (S.encPoint a).val,
    field "client_nonce" b.clientNonce.val,
    field "server_nonce" b.serverNonce.val,
    field "setup_challenge" b.setupChallenge.val]

/-- The challenge of the enrollment client. -/
def setupClientChallenge (b : SetupBinding G) (a : G) : ZMod q :=
  challenge S tSetup (setupFields S "client" b a)

/-- The challenge of the enrollment server. -/
def setupServerChallenge (b : SetupBinding G) (a : G) : ZMod q :=
  challenge S tSetupServer (setupFields S "server" b a)

/-- The challenge of the authenticating client. -/
def authClientChallenge (pubkey : G) (pid nonceC : Bytes 32) (ephC a : G) : ZMod q :=
  challenge S tClientV2
    [field "pid" pid.val,
      field "pubkey" (S.encPoint pubkey).val,
      field "a" (S.encPoint a).val,
      field "nonce_c" nonceC.val,
      field "eph_c" (S.encPoint ephC).val]

/-- The challenge of the authenticating server. -/
def authServerChallenge (serverPub : G) (nonceS : Bytes 32) (ephS a : G) : ZMod q :=
  challenge S tServer
    [field "pubkey" (S.encPoint serverPub).val,
      field "a" (S.encPoint a).val,
      field "nonce_s" nonceS.val,
      field "eph_s" (S.encPoint ephS).val]

/-- The challenge of the rerandomization proof. -/
def rerandChallenge (storedC cPrime : G) (pid nonceC : Bytes 32) (ephC a : G) : ZMod q :=
  challenge S tRoleRerand
    [field "pid" pid.val,
      field "nonce_c" nonceC.val,
      field "eph_c" (S.encPoint ephC).val,
      field "stored_c" (S.encPoint storedC).val,
      field "c_prime" (S.encPoint cPrime).val,
      field "a" (S.encPoint a).val]

/-- `prove_setup_client`. -/
def proveSetupClient (wide : Bytes 64) (x : ZMod q) (b : SetupBinding G) : SchnorrProof q G :=
  schnorrProve S.base (setupClientChallenge S b) wide x

/-- `prove_setup_server`. -/
def proveSetupServer (wide : Bytes 64) (serverSk : ZMod q) (b : SetupBinding G) :
    SchnorrProof q G :=
  schnorrProve S.base (setupServerChallenge S b) wide serverSk

/-- `prove_auth_client`. -/
def proveAuthClient (wide : Bytes 64) (x : ZMod q) (pid nonceC : Bytes 32) (ephC : G) :
    SchnorrProof q G :=
  schnorrProve S.base (authClientChallenge S (x • S.base) pid nonceC ephC) wide x

/-- `prove_auth_server`. -/
def proveAuthServer (wide : Bytes 64) (serverSk : ZMod q) (nonceS : Bytes 32) (ephS : G) :
    SchnorrProof q G :=
  schnorrProve S.base (authServerChallenge S (serverSk • S.base) nonceS ephS) wide serverSk

/-- `rerandomize_commitment`: the new commitment, its blind, and the shift. -/
def rerandomizeCommitment (deltaWide : Bytes 64) (storedC : G) (storedBlind : ZMod q) :
    G × ZMod q × ZMod q :=
  let delta : ZMod q := scalarOf deltaWide
  (storedC + delta • S.attrH, storedBlind + delta, delta)

/-- `prove_rerandomization`. -/
def proveRerandomization (wide : Bytes 64) (storedC cPrime : G) (delta : ZMod q)
    (pid nonceC : Bytes 32) (ephC : G) : SchnorrProof q G :=
  schnorrProve S.attrH (rerandChallenge S storedC cPrime pid nonceC ephC) wide delta

section Verify

variable [DecidableEq G]

/-- `verify_setup_client`. -/
def verifySetupClient (b : SetupBinding G) (proof : SchnorrProof q G) : Bool :=
  schnorrVerify S.base (setupClientChallenge S b) b.devicePub proof

/-- `verify_setup_server`. -/
def verifySetupServer (b : SetupBinding G) (proof : SchnorrProof q G) : Bool :=
  schnorrVerify S.base (setupServerChallenge S b) b.serverPub proof

/-- `verify_auth_client`. -/
def verifyAuthClient (devicePub : G) (pid nonceC : Bytes 32) (ephC : G)
    (proof : SchnorrProof q G) : Bool :=
  schnorrVerify S.base (authClientChallenge S devicePub pid nonceC ephC) devicePub proof

/-- `verify_auth_server`. -/
def verifyAuthServer (serverPub : G) (nonceS : Bytes 32) (ephS : G)
    (proof : SchnorrProof q G) : Bool :=
  schnorrVerify S.base (authServerChallenge S serverPub nonceS ephS) serverPub proof

/-- `verify_rerandomization`. -/
def verifyRerandomization (storedC cPrime : G) (pid nonceC : Bytes 32) (ephC : G)
    (proof : SchnorrProof q G) : Bool :=
  schnorrVerify S.attrH (rerandChallenge S storedC cPrime pid nonceC ephC) (cPrime - storedC)
    proof

end Verify

/-! ## The role proof -/

/-- `Y_i = c_prime - g * r_i`. -/
def yPoints (b : RoleSetBinding G) : List G :=
  b.allowedRoles.map fun r => b.cPrime - (scalarOfU64 r : ZMod q) • S.base

/-- The transcript fields of the role proof: the binding, the roles, the commitments. -/
def roleSetFields (b : RoleSetBinding G) (as : List G) : List Field :=
  [field "pid" b.pid.val,
    field "nonce_c" b.nonceC.val,
    field "eph_c" (S.encPoint b.ephC).val,
    field "c_prime" (S.encPoint b.cPrime).val]
  ++ b.allowedRoles.mapIdx (fun i r => field ("r_" ++ toString i) (u64LE r))
  ++ as.mapIdx (fun i a => field ("A_" ++ toString i) (S.encPoint a).val)

/-- The master challenge. -/
def roleSetChallenge (b : RoleSetBinding G) (as : List G) : ZMod q :=
  challenge S tRoleSet (roleSetFields S b as)

/-- The commitment loop of the prover.  `i` is the branch, `k` the number of draws made so
far, `t` the true branch.  The second component is `w_true`. -/
def roleBranches (h : G) (t : ℕ) (wide : ℕ → Bytes 64) :
    ℕ → ℕ → List G → List (SetBranch q G) × ZMod q
  | _, _, [] => ([], 0)
  | i, k, y :: ys =>
      if i = t then
        let w : ZMod q := scalarOf (wide k)
        (⟨w • h, 0, 0⟩ :: (roleBranches h t wide (i + 1) (k + 1) ys).1, w)
      else
        let c : ZMod q := scalarOf (wide k)
        let s : ZMod q := scalarOf (wide (k + 1))
        let rest := roleBranches h t wide (i + 1) (k + 2) ys
        (⟨s • h - c • y, c, s⟩ :: rest.1, rest.2)

/-- `prove_role_set_membership`.  A role outside the list is a panic. -/
def proveRoleSetMembership (wide : ℕ → Bytes 64) (b : RoleSetBinding G) (roleCode : UInt64)
    (blindPrime : ZMod q) : Except Stop (List (SetBranch q G)) :=
  match b.allowedRoles.idxOf? roleCode with
  | none => .error (.panic "role not in allowed_roles")
  | some t =>
      let (bs, w) := roleBranches S.attrH t wide 0 0 (yPoints S b)
      let master := roleSetChallenge S b (bs.map Branch.a)
      .ok (Branch.answer master w blindPrime t bs)

/-- `verify_role_set_membership`. -/
def verifyRoleSetMembership [DecidableEq G] (b : RoleSetBinding G)
    (branches : List (SetBranch q G)) : Bool :=
  if branches.length ≠ b.allowedRoles.length then false
  else if (branches.map Branch.c).sum ≠ roleSetChallenge S b (branches.map Branch.a) then false
  else (branches.zip (yPoints S b)).all fun (br, y) =>
    decide (br.s • S.attrH = br.a + br.c • y)

/-! ## Completeness -/

section Completeness

variable [DecidableEq G]

theorem schnorrVerify_schnorrProve (gen : G) (chal : G → ZMod q) (wide : Bytes 64)
    (x : ZMod q) : schnorrVerify gen chal (x • gen) (schnorrProve gen chal wide x) = true :=
  decide_eq_true (SchnorrEq.honest gen x _ _)

theorem verifyAuthClient_prove (wide : Bytes 64) (x : ZMod q) (pid nonceC : Bytes 32)
    (ephC : G) :
    verifyAuthClient S (x • S.base) pid nonceC ephC (proveAuthClient S wide x pid nonceC ephC)
      = true :=
  schnorrVerify_schnorrProve _ _ _ _

theorem verifyAuthServer_prove (wide : Bytes 64) (sk : ZMod q) (nonceS : Bytes 32)
    (ephS : G) :
    verifyAuthServer S (sk • S.base) nonceS ephS (proveAuthServer S wide sk nonceS ephS)
      = true :=
  schnorrVerify_schnorrProve _ _ _ _

/-- The shift between the two commitments is what the rerandomization proof knows. -/
theorem verifyRerandomization_prove (wide deltaWide : Bytes 64) (storedC : G)
    (blind : ZMod q) (pid nonceC : Bytes 32) (ephC : G) :
    verifyRerandomization S storedC (rerandomizeCommitment S deltaWide storedC blind).1 pid
      nonceC ephC
      (proveRerandomization S wide storedC (rerandomizeCommitment S deltaWide storedC blind).1
        (rerandomizeCommitment S deltaWide storedC blind).2.2 pid nonceC ephC) = true := by
  have hdiff : (rerandomizeCommitment S deltaWide storedC blind).1 - storedC
      = (rerandomizeCommitment S deltaWide storedC blind).2.2 • S.attrH := by
    simp [rerandomizeCommitment]
  rw [verifyRerandomization, hdiff]
  exact schnorrVerify_schnorrProve _ _ _ _

omit [DecidableEq G] in
/-- The loop is the commitment phase of a disjunction. -/
theorem roleBranches_eq_commit (h : G) (t : ℕ) (wide : ℕ → Bytes 64) (i k : ℕ) (ys : List G) :
    roleBranches (q := q) h t wide i k ys
      = Branch.commit h t (fun k => scalarOf (wide k)) i k ys := by
  induction ys generalizing i k with
  | nil => rfl
  | cons y ys ih =>
      unfold roleBranches Branch.commit
      rw [ih, ih]

omit [DecidableEq G] in
/-- The loop builds one branch per role. -/
@[simp] theorem roleBranches_length (h : G) (t : ℕ) (wide : ℕ → Bytes 64) (i k : ℕ)
    (ys : List G) : (roleBranches (q := q) h t wide i k ys).1.length = ys.length := by
  rw [roleBranches_eq_commit, Branch.commit_length]

omit [DecidableEq G] in
/-- The prover is the prover of a disjunction. -/
theorem proveRoleSetMembership_eq {wide : ℕ → Bytes 64} {b : RoleSetBinding G}
    {roleCode : UInt64} {blindPrime : ZMod q} {t : ℕ}
    (ht : b.allowedRoles.idxOf? roleCode = some t) :
    proveRoleSetMembership S wide b roleCode blindPrime
      = .ok (Branch.prove S.attrH (roleSetChallenge S b) blindPrime t
          (fun k => scalarOf (wide k)) (yPoints S b)) := by
  simp only [proveRoleSetMembership, ht, roleBranches_eq_commit, Branch.prove]

omit [DecidableEq G] in
/-- The statement of the true branch is known to the prover. -/
theorem yPoints_true {b : RoleSetBinding G} {roleCode : UInt64} {blindPrime : ZMod q} {t : ℕ}
    (hc : b.cPrime = makeRoleCommitment S roleCode blindPrime)
    (ht : b.allowedRoles.idxOf? roleCode = some t) :
    (yPoints S b)[t]? = some (blindPrime • S.attrH) := by
  obtain ⟨htlt, hrole⟩ := List.idxOf?_eq_some_iff.mp ht
  have hat : b.allowedRoles[t]? = some roleCode := by
    rw [List.getElem?_eq_getElem htlt]
    simpa using hrole.1
  simp [yPoints, List.getElem?_map, hat, hc, makeRoleCommitment]

/-- The role proof of an allowed role is accepted. -/
theorem verifyRoleSetMembership_prove {wide : ℕ → Bytes 64} {b : RoleSetBinding G}
    {roleCode : UInt64} {blindPrime : ZMod q} {branches : List (SetBranch q G)}
    (hc : b.cPrime = makeRoleCommitment S roleCode blindPrime)
    (hp : proveRoleSetMembership S wide b roleCode blindPrime = .ok branches) :
    verifyRoleSetMembership S b branches = true := by
  cases ht : b.allowedRoles.idxOf? roleCode with
  | none =>
      rw [proveRoleSetMembership, ht] at hp
      cases hp
  | some t =>
      rw [proveRoleSetMembership_eq S ht, Except.ok.injEq] at hp
      obtain ⟨hacc, hsum⟩ := Branch.prove_complete (roleSetChallenge S b)
        (fun k => scalarOf (wide k)) (yPoints_true S hc ht)
      rw [hp] at hacc hsum
      rw [Branch.AllAccept, List.forall₂_iff_zip] at hacc
      rw [Branch.challengeSum] at hsum
      have hlen : branches.length = b.allowedRoles.length := by
        rw [hacc.1, yPoints, List.length_map]
      unfold verifyRoleSetMembership
      rw [if_neg (not_not.mpr hlen), if_neg (not_not.mpr hsum), List.all_eq_true]
      rintro ⟨br, y⟩ hmem
      exact decide_eq_true (hacc.2 hmem)

end Completeness

end ZkArche.Rust
