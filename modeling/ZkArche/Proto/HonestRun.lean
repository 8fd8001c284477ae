import Mathlib.Algebra.Field.ZMod
import Mathlib.Algebra.Module.Torsion.Field
import ZkArche.Crypto.RoleParity
import ZkArche.Proto.ClientC
import ZkArche.Proto.ServerC
import ZkArche.Proto.ServerSpecRust

/-!
# An honest authentication

The values of an authentication between a device and a server that follow the protocol, over
points and scalars: the AUTH_1 of the device, the AUTH_2 of the server and the confirmation
that both derive.  They are functions of the secrets, the allowed roles and the random bytes
(`Honest`), and do not mention who computes them.

`NonDegenerate` says that no zero scalar and no identity point occurs among them.  The proofs
then verify in both libraries.  The two parties multiply their ephemeral secrets in either
order and arrive at the same confirmation.
-/

namespace ZkArche

/-- The secrets of a device and a server, the allowed roles, and the random bytes of both. -/
structure Honest (q : ℕ) where
  x : ZMod q
  sk : ZMod q
  roleCode : UInt64
  blind : ZMod q
  allowedRoles : List UInt64
  client : C.Auth1Draws
  server : C.Auth2Draws

namespace Honest

variable {q : ℕ} {G : Type} [AddCommGroup G] [Module (ZMod q) G] (S : Suite q G) (h : Honest q)

/-! ## The values -/

/-- The public key of the device. -/
def devicePub : G := h.x • S.base

/-- The public key of the server. -/
def serverPub : G := h.sk • S.base

/-- The ephemeral secret of the device. -/
def ephSecret : ZMod q := scalarOf h.client.eph

/-- The ephemeral point of the device. -/
def ephC : G := h.ephSecret • S.base

/-- The pseudonym. -/
def pid : Bytes 32 :=
  Rust.computePid S (h.devicePub S) h.client.nonce (h.ephC S) (h.serverPub S)

/-- The role commitment that the device enrolled with. -/
def commitment : G := Rust.makeRoleCommitment S h.roleCode h.blind

/-- The shift of the commitment. -/
def delta : ZMod q := scalarOf h.client.delta

/-- The shifted commitment. -/
def cPrime : G := h.commitment S + h.delta • S.attrH

/-- What the role proof commits to. -/
def binding : Rust.RoleSetBinding G :=
  ⟨h.allowedRoles, h.cPrime S, h.pid S, h.client.nonce, h.ephC S⟩

/-- The client proof. -/
def clientProof : Rust.SchnorrProof q G :=
  Rust.proveAuthClient S h.client.proof h.x (h.pid S) h.client.nonce (h.ephC S)

/-- The rerandomization proof. -/
def rerandProof : Rust.SchnorrProof q G :=
  Rust.proveRerandomization S h.client.rerand (h.commitment S) (h.cPrime S) h.delta (h.pid S)
    h.client.nonce (h.ephC S)

/-- The role proof. -/
def branches : List (Rust.SetBranch q G) :=
  match Rust.proveRoleSetMembership S h.client.role (h.binding S) h.roleCode
      (h.blind + h.delta) with
  | .ok bs => bs
  | .error _ => []

/-- The AUTH_1. -/
def auth1 : Rust.Auth1 q G :=
  ⟨h.pid S, h.clientProof S, h.client.nonce, h.ephC S, h.cPrime S, h.rerandProof S, h.branches S⟩

/-- The ephemeral secret of the server. -/
def ephSecretS : ZMod q := scalarOf h.server.eph

/-- The ephemeral point of the server. -/
def ephS : G := h.ephSecretS • S.base

/-- The server proof. -/
def serverProof : Rust.SchnorrProof q G :=
  Rust.proveAuthServer S h.server.proof h.sk h.server.nonce (h.ephS S)

/-- The random bytes of the server, as the Rust server names them. -/
def serverDraws : Rust.Auth2Draws := ⟨h.server.nonce, h.server.eph, h.server.proof⟩

/-- The confirmation. -/
def confirmation : Confirmation := Rust.serverConfirmation S h.sk (h.auth1 S) h.serverDraws

/-- The AUTH_2. -/
def auth2 : Rust.Auth2 q G :=
  ⟨h.serverPub S, h.serverProof S, h.server.nonce, h.ephS S, (h.confirmation S).tag S .s2c⟩

/-- The challenge of the client proof. -/
def clientChallenge : ZMod q :=
  Rust.authClientChallenge S (h.devicePub S) (h.pid S) h.client.nonce (h.ephC S)
    (h.clientProof S).a

/-- The challenge of the rerandomization proof. -/
def rerandChallenge : ZMod q :=
  Rust.rerandChallenge S (h.commitment S) (h.cPrime S) (h.pid S) h.client.nonce (h.ephC S)
    (h.rerandProof S).a

/-- The challenge of the server proof. -/
def serverChallenge : ZMod q :=
  Rust.authServerChallenge S (h.serverPub S) h.server.nonce (h.ephS S) (h.serverProof S).a

/-! ## Degenerate values -/

/-- No value is degenerate: no scalar or challenge is zero, and no point that is sent or
multiplied is the identity. -/
structure NonDegenerate : Prop where
  base : S.base ≠ 0
  attrH : S.attrH ≠ 0
  x : h.x ≠ 0
  sk : h.sk ≠ 0
  ephSecret : h.ephSecret ≠ 0
  ephSecretS : h.ephSecretS ≠ 0
  delta : h.delta ≠ 0
  roles : ∀ r ∈ h.allowedRoles, (scalarOfU64 r : ZMod q) ≠ 0
  cPrime : h.cPrime S ≠ 0
  client : (h.clientProof S).a ≠ 0 ∧ h.clientChallenge S ≠ 0 ∧ (h.clientProof S).s ≠ 0
  rerand : (h.rerandProof S).a ≠ 0 ∧ h.rerandChallenge S ≠ 0 ∧ (h.rerandProof S).s ≠ 0
  server : (h.serverProof S).a ≠ 0 ∧ h.serverChallenge S ≠ 0 ∧ (h.serverProof S).s ≠ 0
  branches : ∀ b ∈ h.branches S, b.a ≠ 0 ∧ b.c ≠ 0 ∧ b.s ≠ 0
  statements : ∀ y ∈ Rust.yPoints S (h.binding S), y ≠ 0

/-! ## Products -/

variable {S h}

section

variable [Fact q.Prime]

namespace NonDegenerate

variable (hn : h.NonDegenerate S)
include hn

theorem devicePub : h.devicePub S ≠ 0 := smul_ne_zero hn.x hn.base

theorem serverPub : h.serverPub S ≠ 0 := smul_ne_zero hn.sk hn.base

theorem ephC : h.ephC S ≠ 0 := smul_ne_zero hn.ephSecret hn.base

theorem ephS : h.ephS S ≠ 0 := smul_ne_zero hn.ephSecretS hn.base

theorem shared : h.ephSecret • h.ephS S ≠ 0 := smul_ne_zero hn.ephSecret hn.ephS

theorem shift : h.delta • S.attrH ≠ 0 := smul_ne_zero hn.delta hn.attrH

theorem role {r : UInt64} (hr : r ∈ h.allowedRoles) : (scalarOfU64 r : ZMod q) • S.base ≠ 0 :=
  smul_ne_zero (hn.roles r hr) hn.base

/-! ## Proofs -/

theorem client_strict : C.StrictEq S.base (h.devicePub S) (h.clientProof S).a
    (h.clientChallenge S) (h.clientProof S).s where
  response := smul_ne_zero hn.client.2.2 hn.base
  share := smul_ne_zero hn.client.2.1 hn.devicePub
  eqn := SchnorrEq.honest _ _ _ _

theorem server_strict : C.StrictEq S.base (h.serverPub S) (h.serverProof S).a
    (h.serverChallenge S) (h.serverProof S).s where
  response := smul_ne_zero hn.server.2.2 hn.base
  share := smul_ne_zero hn.server.2.1 hn.serverPub
  eqn := SchnorrEq.honest _ _ _ _

theorem rerand_strict : C.StrictEq S.attrH (h.cPrime S - h.commitment S) (h.rerandProof S).a
    (h.rerandChallenge S) (h.rerandProof S).s := by
  have hshift : h.cPrime S - h.commitment S = h.delta • S.attrH := add_sub_cancel_left _ _
  rw [hshift]
  refine ⟨smul_ne_zero hn.rerand.2.2 hn.attrH, smul_ne_zero hn.rerand.2.1 hn.shift, ?_⟩
  exact SchnorrEq.honest _ _ _ _

end NonDegenerate

end

/-! ## The role proof -/

theorem cPrime_eq : h.cPrime S = Rust.makeRoleCommitment S h.roleCode (h.blind + h.delta) := by
  rw [cPrime, commitment, Rust.makeRoleCommitment, Rust.makeRoleCommitment, add_smul, add_assoc]

/-- The branch of the role of the device. -/
theorem exists_idxOf? (hrole : h.roleCode ∈ h.allowedRoles) :
    ∃ t, (h.binding S).allowedRoles.idxOf? h.roleCode = some t := by
  apply Option.ne_none_iff_exists'.mp
  intro hnone
  exact List.idxOf?_eq_none_iff.mp hnone hrole

theorem proveRoleSetMembership_eq (hrole : h.roleCode ∈ h.allowedRoles) :
    Rust.proveRoleSetMembership S h.client.role (h.binding S) h.roleCode (h.blind + h.delta)
      = .ok (h.branches S) := by
  obtain ⟨t, ht⟩ := exists_idxOf? (S := S) hrole
  have hp : ∃ bs, Rust.proveRoleSetMembership S h.client.role (h.binding S) h.roleCode
      (h.blind + h.delta) = .ok bs := by
    rw [Rust.proveRoleSetMembership, ht]
    exact ⟨_, rfl⟩
  obtain ⟨bs, hbs⟩ := hp
  rw [branches, hbs]

theorem roleSetHolds [DecidableEq G] (hrole : h.roleCode ∈ h.allowedRoles) :
    RoleSetHolds S (h.binding S) (h.branches S) :=
  verifyRoleSetMembership_iff.mp
    (Rust.verifyRoleSetMembership_prove S cPrime_eq (proveRoleSetMembership_eq hrole))

section

variable [Fact q.Prime]

namespace NonDegenerate

variable (hn : h.NonDegenerate S)
include hn

theorem not_roleSetDegenerate : ¬ RoleSetDegenerate S (h.binding S) (h.branches S) := by
  rintro (⟨r, hr, hz⟩ | ⟨p, hp, hz | hz⟩)
  · exact hn.role hr hz
  · exact smul_ne_zero (hn.branches p.1 (List.of_mem_zip hp).1).2.2 hn.attrH hz
  · exact smul_ne_zero (hn.branches p.1 (List.of_mem_zip hp).1).2.1
      (hn.statements p.2 (List.of_mem_zip hp).2) hz

/-- The commitment loop of the C prover multiplies nothing to the identity: it works on the
branches of the proof, except that the true one has no challenge and no response yet. -/
theorem committable {t : ℕ} (ht : (h.binding S).allowedRoles.idxOf? h.roleCode = some t) :
    C.Committable S t 0
      (Rust.roleBranches (q := q) S.attrH t h.client.role 0 0 (Rust.yPoints S (h.binding S))).1
      (Rust.yPoints S (h.binding S)) := by
  intro j br y hbr hy
  set bs := (Rust.roleBranches (q := q) S.attrH t h.client.role 0 0
    (Rust.yPoints S (h.binding S))).1 with hbs
  have hanswer : ∃ c s : ZMod q, h.branches S = bs.modify t fun b => ⟨b.a, c, s⟩ := by
    simp only [Honest.branches, Rust.proveRoleSetMembership, ht]
    exact ⟨_, _, rfl⟩
  obtain ⟨c, s, hf⟩ := hanswer
  have hget : (h.branches S)[j]? = some (if t = j then ⟨br.a, c, s⟩ else br) := by
    rw [hf, List.getElem?_modify, hbr]
    rfl
  have hregular := hn.branches _ (List.mem_of_getElem? hget)
  rw [Nat.zero_add]
  by_cases hjt : j = t
  · rw [if_pos hjt.symm] at hregular
    rw [if_pos hjt]
    exact hregular.1
  · rw [if_neg (Ne.symm hjt)] at hregular
    rw [if_neg hjt]
    exact ⟨smul_ne_zero hregular.2.2 hn.attrH,
      smul_ne_zero hregular.2.1 (hn.statements y (List.mem_of_getElem? hy))⟩

/-! ## Messages -/

/-- The Rust decoder accepts the AUTH_1. -/
theorem auth1_proper [DecidableEq G] (hrole : h.roleCode ∈ h.allowedRoles)
    (h8 : h.allowedRoles.length ≤ maxRoles) : (h.auth1 S).Proper where
  a := hn.client.1
  ephC := hn.ephC
  cPrime := hn.cPrime
  rerandA := hn.rerand.1
  branches := fun b hb => (hn.branches b hb).1
  count := by
    have hcount : (h.branches S).length = h.allowedRoles.length := (roleSetHolds hrole).count
    have h8' : h.allowedRoles.length ≤ 8 := h8
    show (h.branches S).length < 256 ^ 2
    omega

/-- The Rust decoder accepts the AUTH_2. -/
theorem auth2_proper : (h.auth2 S).Proper where
  serverPub := hn.serverPub
  a := hn.server.1
  ephS := hn.ephS

end NonDegenerate

end

end Honest

end ZkArche
