import ZkArche.Crypto.ProofsRust
import ZkArche.Wire.PayloadsC

/-!
# The proofs of the C library

The proofs of `proofs.c`, over encoded points and scalars.  They have the shapes of the
Rust proofs, with a failure wherever libsodium reports one: a scalar multiplication whose
result is the identity, and a point that does not decode.  A prover returns the error.  A
verifier returns 0.

`proveSchnorr` and `verifySchnorr` are the shape of the Schnorr proofs.  The provers of
AUTH compute their own public key between commitment and challenge, so their challenge
function does that first.

Randomness is a parameter, as in the `_with_bytes` variants of the source.  The role
prover takes the successive 64-byte pieces of its buffer.
-/

namespace ZkArche.C

variable {q : ℕ} {G : Type} [AddCommGroup G] [Module (ZMod q) G] (S : Suite q G)

/-! ## Schnorr proofs -/

/-- Commit with `mul`, ask for the challenge, answer `s = r + c * x`. -/
def proveSchnorr (q : ℕ) (mul chal : Bytes 32 → Except AuthErr (Bytes 32)) (wideR : Bytes 64)
    (x : Bytes 32) : Except AuthErr SchnorrProof := do
  let r := authScalarFromWide q wideR
  let a ← mul r
  let c ← chal a
  let cx := authScalarMul q c x
  return ⟨a, authScalarAdd q r cx⟩

/-- Check `g * s == a + P * c`.  Any failure on the way is a rejection. -/
def verifySchnorr (mul chal : Bytes 32 → Except AuthErr (Bytes 32)) (P : Bytes 32)
    (proof : SchnorrProof) : Bool :=
  let check : Except AuthErr Bool := do
    let c ← chal proof.a
    let gs ← mul proof.s
    let pc ← authScalarmult S c P
    let rhs ← authPointAdd S proof.a pc
    return decide (gs = rhs)
  match check with
  | .ok b => b
  | .error _ => false

/-- The fields of both enrollment transcripts. -/
def setupFields (role : String) (deviceId devicePub serverPub a clientNonce serverNonce : Bytes 32)
    (setupChallenge : Bytes 16) : List Field :=
  [field "role" (ascii role),
    field "device_id" deviceId.val,
    field "device_pub" devicePub.val,
    field "server_pub" serverPub.val,
    field "a" a.val,
    field "client_nonce" clientNonce.val,
    field "server_nonce" serverNonce.val,
    field "setup_challenge" setupChallenge.val]

/-- `setup_client_challenge`. -/
def setupClientChallenge (deviceId devicePub serverPub clientNonce serverNonce : Bytes 32)
    (setupChallenge : Bytes 16) (a : Bytes 32) : Except AuthErr (Bytes 32) :=
  challenge S tSetup
    (setupFields "client" deviceId devicePub serverPub a clientNonce serverNonce setupChallenge)

/-- `setup_server_challenge`. -/
def setupServerChallenge (deviceId devicePub serverPub clientNonce serverNonce : Bytes 32)
    (setupChallenge : Bytes 16) (a : Bytes 32) : Except AuthErr (Bytes 32) :=
  challenge S tSetupServer
    (setupFields "server" deviceId devicePub serverPub a clientNonce serverNonce setupChallenge)

/-- `auth_client_challenge`. -/
def authClientChallenge (pubkey pid nonceC ephC a : Bytes 32) : Except AuthErr (Bytes 32) :=
  challenge S tClientV2
    [field "pid" pid.val,
      field "pubkey" pubkey.val,
      field "a" a.val,
      field "nonce_c" nonceC.val,
      field "eph_c" ephC.val]

/-- `auth_server_challenge`. -/
def authServerChallenge (serverPub nonceS ephS a : Bytes 32) : Except AuthErr (Bytes 32) :=
  challenge S tServer
    [field "pubkey" serverPub.val,
      field "a" a.val,
      field "nonce_s" nonceS.val,
      field "eph_s" ephS.val]

/-- `rerand_challenge`. -/
def rerandChallenge (pid nonceC ephC storedC cPrime a : Bytes 32) : Except AuthErr (Bytes 32) :=
  challenge S tRoleRerand
    [field "pid" pid.val,
      field "nonce_c" nonceC.val,
      field "eph_c" ephC.val,
      field "stored_c" storedC.val,
      field "c_prime" cPrime.val,
      field "a" a.val]

/-- `auth_prove_setup_client_with_bytes`. -/
def authProveSetupClient (wideR : Bytes 64)
    (x deviceId devicePub serverPub clientNonce serverNonce : Bytes 32)
    (setupChallenge : Bytes 16) : Except AuthErr SchnorrProof :=
  proveSchnorr q (authScalarmultBase S)
    (setupClientChallenge S deviceId devicePub serverPub clientNonce serverNonce setupChallenge)
    wideR x

/-- `auth_verify_setup_client`. -/
def authVerifySetupClient (proof : SchnorrProof)
    (deviceId devicePub serverPub clientNonce serverNonce : Bytes 32)
    (setupChallenge : Bytes 16) : Bool :=
  verifySchnorr S (authScalarmultBase S)
    (setupClientChallenge S deviceId devicePub serverPub clientNonce serverNonce setupChallenge)
    devicePub proof

/-- `auth_prove_setup_server_with_bytes`. -/
def authProveSetupServer (wideR : Bytes 64)
    (serverSk deviceId devicePub serverPub clientNonce serverNonce : Bytes 32)
    (setupChallenge : Bytes 16) : Except AuthErr SchnorrProof :=
  proveSchnorr q (authScalarmultBase S)
    (setupServerChallenge S deviceId devicePub serverPub clientNonce serverNonce setupChallenge)
    wideR serverSk

/-- `auth_verify_setup_server`. -/
def authVerifySetupServer (proof : SchnorrProof)
    (serverPub deviceId devicePub clientNonce serverNonce : Bytes 32)
    (setupChallenge : Bytes 16) : Bool :=
  verifySchnorr S (authScalarmultBase S)
    (setupServerChallenge S deviceId devicePub serverPub clientNonce serverNonce setupChallenge)
    serverPub proof

/-- `auth_prove_auth_client_with_bytes`. -/
def authProveAuthClient (wideR : Bytes 64) (x pid nonceC ephC : Bytes 32) :
    Except AuthErr SchnorrProof :=
  let chal a := do
    let pubkey ← authScalarmultBase S x
    authClientChallenge S pubkey pid nonceC ephC a
  proveSchnorr q (authScalarmultBase S) chal wideR x

/-- `auth_verify_auth_client`. -/
def authVerifyAuthClient (proof : SchnorrProof) (devicePub pid nonceC ephC : Bytes 32) : Bool :=
  verifySchnorr S (authScalarmultBase S) (authClientChallenge S devicePub pid nonceC ephC)
    devicePub proof

/-- `auth_prove_auth_server_with_bytes`. -/
def authProveAuthServer (wideR : Bytes 64) (serverSk nonceS ephS : Bytes 32) :
    Except AuthErr SchnorrProof :=
  let chal a := do
    let serverPub ← authScalarmultBase S serverSk
    authServerChallenge S serverPub nonceS ephS a
  proveSchnorr q (authScalarmultBase S) chal wideR serverSk

/-- `auth_verify_auth_server`. -/
def authVerifyAuthServer (proof : SchnorrProof) (serverPub nonceS ephS : Bytes 32) : Bool :=
  verifySchnorr S (authScalarmultBase S) (authServerChallenge S serverPub nonceS ephS)
    serverPub proof

/-! ## Role commitments -/

/-- `auth_make_role_commitment`. -/
def authMakeRoleCommitment (roleCode : UInt64) (blind : Bytes 32) :
    Except AuthErr (Bytes 32) := do
  let gRole ← authScalarmultBase S (authScalarFromU64 roleCode)
  let hBlind ← authScalarmult S blind (authAttrH S)
  authPointAdd S gRole hBlind

/-- `auth_rerandomize_commitment`: the new commitment and its blind. -/
def authRerandomizeCommitment (storedC storedBlind delta : Bytes 32) :
    Except AuthErr (Bytes 32 × Bytes 32) := do
  let hDelta ← authScalarmult S delta (authAttrH S)
  let cPrime ← authPointAdd S storedC hDelta
  return (cPrime, authScalarAdd q storedBlind delta)

/-- `auth_prove_rerandomization_with_bytes`. -/
def authProveRerandomization (wideR : Bytes 64) (storedC cPrime delta pid nonceC ephC : Bytes 32) :
    Except AuthErr SchnorrProof :=
  proveSchnorr q (fun r => authScalarmult S r (authAttrH S))
    (rerandChallenge S pid nonceC ephC storedC cPrime) wideR delta

/-- `auth_verify_rerandomization`: the statement is `c_prime - stored_c`. -/
def authVerifyRerandomization (proof : SchnorrProof)
    (storedC cPrime pid nonceC ephC : Bytes 32) : Bool :=
  match authPointSub S cPrime storedC with
  | .error _ => false
  | .ok diff =>
      verifySchnorr S (fun s => authScalarmult S s (authAttrH S))
        (rerandChallenge S pid nonceC ephC storedC cPrime) diff proof

/-! ## The role proof -/

/-- `Y_i = c_prime - g * r_i`, for every role. -/
def roleYs (cPrime : Bytes 32) : List UInt64 → Except AuthErr (List (Bytes 32))
  | [] => .ok []
  | r :: rs => do
      let gr ← authScalarmultBase S (authScalarFromU64 r)
      let y ← authPointSub S cPrime gr
      let ys ← roleYs cPrime rs
      return y :: ys

/-- The fields of `role_set_master_challenge`. -/
def roleSetFields (roles : List UInt64) (cPrime : Bytes 32) (as : List (Bytes 32))
    (pid nonceC ephC : Bytes 32) : List Field :=
  [field "pid" pid.val,
    field "nonce_c" nonceC.val,
    field "eph_c" ephC.val,
    field "c_prime" cPrime.val]
  ++ roles.mapIdx (fun i r => field ("r_" ++ toString i) (u64LE r))
  ++ as.mapIdx (fun i a => field ("A_" ++ toString i) a.val)

/-- `role_set_master_challenge`. -/
def roleSetMasterChallenge (roles : List UInt64) (cPrime : Bytes 32) (as : List (Bytes 32))
    (pid nonceC ephC : Bytes 32) : Except AuthErr (Bytes 32) :=
  challenge S tRoleSet (roleSetFields roles cPrime as pid nonceC ephC)

/-- The commitment loop of the prover.  `i` is the branch, `k` the number of 64-byte pieces
consumed so far, `t` the true branch.  The second component is `w_true`. -/
def commitBranches (t : ℕ) (wide : ℕ → Bytes 64) :
    ℕ → ℕ → List (Bytes 32) → Except AuthErr (List SetBranch × Bytes 32)
  | _, _, [] => .ok ([], Bytes.zero 32)
  | i, k, y :: ys =>
      if i = t then do
        let w := authScalarFromWide q (wide k)
        let a ← authScalarmult S w (authAttrH S)
        let rest ← commitBranches t wide (i + 1) (k + 1) ys
        return (⟨a, Bytes.zero 32, Bytes.zero 32⟩ :: rest.1, w)
      else do
        let ci := authScalarFromWide q (wide k)
        let si := authScalarFromWide q (wide (k + 1))
        let hs ← authScalarmult S si (authAttrH S)
        let yc ← authScalarmult S ci y
        let a ← authPointSub S hs yc
        let rest ← commitBranches t wide (i + 1) (k + 2) ys
        return (⟨a, ci, si⟩ :: rest.1, rest.2)

/-- The sum loops of prover and verifier. -/
def sumScalars (q : ℕ) (cs : List (Bytes 32)) : Bytes 32 :=
  cs.foldl (authScalarAdd q) (Bytes.zero 32)

/-- `auth_prove_role_set_membership`. -/
def authProveRoleSetMembership (wide : ℕ → Bytes 64) (roles : List UInt64) (cPrime : Bytes 32)
    (roleCode : UInt64) (blindPrime pid nonceC ephC : Bytes 32) :
    Except AuthErr (List SetBranch) := do
  ensure (roles.length ≠ 0 ∧ roles.length ≤ maxRoles) .invalidArgument
  match roles.idxOf? roleCode with
  | none => .error .roleNotPermitted
  | some t =>
      let ys ← roleYs S cPrime roles
      let (bs, w) ← commitBranches S t wide 0 0 ys
      let master ← roleSetMasterChallenge S roles cPrime (bs.map SetBranch.a) pid nonceC ephC
      let sumSim := sumScalars q ((bs.eraseIdx t).map SetBranch.c)
      let cTrue := authScalarSub q master sumSim
      let cb := authScalarMul q cTrue blindPrime
      return bs.modify t fun b => ⟨b.a, cTrue, authScalarAdd q w cb⟩

/-- The per-branch equations of the verifier: `h * s_i == A_i + Y_i * c_i`. -/
def checkBranches : List SetBranch → List (Bytes 32) → Except AuthErr Bool
  | b :: bs, y :: ys => do
      let hs ← authScalarmult S b.s (authAttrH S)
      let yc ← authScalarmult S b.c y
      let rhs ← authPointAdd S b.a yc
      if hs = rhs then checkBranches bs ys else return false
  | _, _ => .ok true

/-- `auth_verify_role_set_membership`. -/
def authVerifyRoleSetMembership (branches : List SetBranch) (roles : List UInt64)
    (cPrime pid nonceC ephC : Bytes 32) : Bool :=
  if branches.length ≠ roles.length ∨ roles.length = 0 ∨ roles.length > maxRoles then false
  else
    let check : Except AuthErr Bool := do
      let ys ← roleYs S cPrime roles
      let master ← roleSetMasterChallenge S roles cPrime (branches.map SetBranch.a) pid nonceC
        ephC
      if sumScalars q (branches.map SetBranch.c) = master then checkBranches S branches ys
      else return false
    match check with
    | .ok b => b
    | .error _ => false

end ZkArche.C
