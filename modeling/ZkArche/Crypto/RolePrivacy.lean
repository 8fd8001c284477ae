import ZkArche.Crypto.RoleParity

/-!
# What a role proof hides

A commitment opens to every role.  A prover that holds an opening for one allowed role and a
prover that holds an opening for another one build the same proofs: there is a bijection of
their randomness under which the proofs are equal.  Nothing is assumed about the hash function.

The randomness of the prover is the list of scalars it draws, one for its own role and two for
every other one.  `proveFromScalars` is the prover as a function of them, and every run is of
that form (`proveRoleSetMembership_scalars`).
-/

namespace ZkArche.Rust

variable {q : ℕ} {G : Type} [AddCommGroup G] [Module (ZMod q) G]

/-- The scalars that the role prover draws, in order. -/
abbrev RoleRandomness (q : ℕ) (b : RoleSetBinding G) :=
  Fin (2 * b.allowedRoles.length - 1) → ZMod q

/-- The 64 bytes of the least residue. -/
def wideOf (x : ZMod q) : Bytes 64 := ⟨natLE 64 x.val, natLE_length _ _⟩

theorem scalarOf_wideOf [NeZero q] (hq : q ≤ 2 ^ 255) (x : ZMod q) :
    (scalarOf (wideOf x) : ZMod q) = x := by
  have hlt : x.val < 256 ^ 64 := (val_lt_two_pow hq x).trans (by decide)
  rw [scalarOf, wideOf, leNat_natLE hlt]
  exact ZMod.natCast_zmod_val x

/-- `prove_role_set_membership_with_rng` as a function of the scalars it draws. -/
def proveFromScalars (S : Suite q G) (b : RoleSetBinding G) (roleCode : UInt64)
    (blindPrime : ZMod q) (ω : RoleRandomness q b) : Except Stop (List (SetBranch q G)) :=
  proveRoleSetMembership S (fun k => wideOf (Branch.extend ω k)) b roleCode blindPrime

theorem yPoints_length (S : Suite q G) (b : RoleSetBinding G) :
    (yPoints S b).length = b.allowedRoles.length := List.length_map _

variable [NeZero q] {S : Suite q G} {b : RoleSetBinding G}

theorem proveFromScalars_eq {roleCode : UInt64} {blindPrime : ZMod q} {t : ℕ}
    (ht : b.allowedRoles.idxOf? roleCode = some t) (ω : RoleRandomness q b) :
    proveFromScalars S b roleCode blindPrime ω
      = .ok (Branch.prove S.attrH (roleSetChallenge S b) blindPrime t (Branch.extend ω)
          (yPoints S b)) := by
  simp only [proveFromScalars, proveRoleSetMembership_eq S ht, scalarOf_wideOf S.order_le]

/-- A run of the prover depends on the scalars it draws. -/
theorem proveRoleSetMembership_scalars {roleCode : UInt64} {blindPrime : ZMod q}
    (hrole : roleCode ∈ b.allowedRoles) (hc : b.cPrime = makeRoleCommitment S roleCode blindPrime)
    (wide : ℕ → Bytes 64) :
    proveRoleSetMembership S wide b roleCode blindPrime
      = proveFromScalars S b roleCode blindPrime fun i => scalarOf (wide i) := by
  obtain ⟨t, ht⟩ := Option.isSome_iff_exists.mp (List.isSome_idxOf?.mpr hrole)
  rw [proveFromScalars_eq ht, proveRoleSetMembership_eq S ht]
  congr 1
  apply Branch.prove_congr (yPoints_true S hc ht)
  intro k hk
  rw [yPoints_length] at hk
  rw [Branch.extend, dif_pos hk]

/-- Two provers with openings for two allowed roles build the same proofs from corresponding
randomness. -/
theorem exists_randomness_bijection {role role' : UInt64} {blind blind' : ZMod q}
    (hrole : role ∈ b.allowedRoles) (hrole' : role' ∈ b.allowedRoles)
    (hc : b.cPrime = makeRoleCommitment S role blind)
    (hc' : b.cPrime = makeRoleCommitment S role' blind') :
    ∃ e : RoleRandomness q b ≃ RoleRandomness q b, ∀ ω, ∃ branches,
      proveFromScalars S b role blind ω = .ok branches ∧
        proveFromScalars S b role' blind' (e ω) = .ok branches := by
  obtain ⟨t, ht⟩ := Option.isSome_iff_exists.mp (List.isSome_idxOf?.mpr hrole)
  obtain ⟨t', ht'⟩ := Option.isSome_iff_exists.mp (List.isSome_idxOf?.mpr hrole')
  have hm : 2 * b.allowedRoles.length - 1 = 2 * (yPoints S b).length - 1 := by
    rw [yPoints_length]
  have hx := yPoints_true S hc ht
  have hx' := yPoints_true S hc' ht'
  refine ⟨Branch.rearrangeEquiv (roleSetChallenge S b) hm hx hx', fun ω => ?_⟩
  rw [proveFromScalars_eq ht, proveFromScalars_eq ht']
  exact ⟨_, rfl, congrArg Except.ok (Branch.prove_rearrange hm hx hx' ω)⟩

/-- Role privacy.  Openings of `c_prime` to two allowed roles lead to the same proofs, each of
them equally often.  If `h` generates the group, there is an opening to every role. -/
theorem role_proof_private (S : Suite q G) (b : RoleSetBinding G) {j k : ℕ} {role role' : UInt64}
    {blind blind' : ZMod q} (hj : b.allowedRoles[j]? = some role)
    (hk : b.allowedRoles[k]? = some role') (hc : b.cPrime = makeRoleCommitment S role blind)
    (hc' : b.cPrime = makeRoleCommitment S role' blind') :
    (∃ e : RoleRandomness q b ≃ RoleRandomness q b, ∀ ω, ∃ branches,
      proveFromScalars S b role blind ω = .ok branches ∧
        proveFromScalars S b role' blind' (e ω) = .ok branches) ∧
    (∀ result, Nonempty ({ω // proveFromScalars S b role blind ω = result} ≃
      {ω // proveFromScalars S b role' blind' ω = result})) ∧
    (∀ wide, proveRoleSetMembership S wide b role blind
        = (proveFromScalars S b role blind fun i => scalarOf (wide i)) ∧
      proveRoleSetMembership S wide b role' blind'
        = proveFromScalars S b role' blind' fun i => scalarOf (wide i)) ∧
    ((∀ P : G, ∃ x : ZMod q, P = x • S.attrH) →
      ∀ r, ∃ x, b.cPrime = makeRoleCommitment S r x) := by
  have hrole := List.mem_of_getElem? hj
  have hrole' := List.mem_of_getElem? hk
  obtain ⟨e, he⟩ := exists_randomness_bijection hrole hrole' hc hc'
  have hsame : ∀ ω, proveFromScalars S b role blind ω
      = proveFromScalars S b role' blind' (e ω) := by
    intro ω
    obtain ⟨branches, h1, h2⟩ := he ω
    rw [h1, h2]
  refine ⟨⟨e, he⟩, fun result => ⟨e.subtypeEquiv fun ω => ?_⟩, fun wide => ⟨?_, ?_⟩, ?_⟩
  · rw [hsame]
  · exact proveRoleSetMembership_scalars hrole hc wide
  · exact proveRoleSetMembership_scalars hrole' hc' wide
  · intro hgen r
    obtain ⟨x, hx⟩ := hgen (b.cPrime - (scalarOfU64 r : ZMod q) • S.base)
    refine ⟨x, ?_⟩
    rw [makeRoleCommitment, ← hx]
    abel

/-- A commitment that opens to role 2 with the blind 3 and to role 1 with the blind 9. -/
theorem role_proof_private_demo :
    ∃ e : RoleRandomness 11 (demoBinding [1, 2] 2) ≃ RoleRandomness 11 (demoBinding [1, 2] 2),
      ∀ ω, ∃ branches,
        proveFromScalars smallSuite (demoBinding [1, 2] 2) 2 demoDeviceKey ω = .ok branches ∧
        proveFromScalars smallSuite (demoBinding [1, 2] 2) 1 (demoDeviceKey * demoDeviceKey) (e ω)
          = .ok branches :=
  (role_proof_private smallSuite (demoBinding [1, 2] 2) (j := 1) (k := 0) rfl rfl rfl
    (by decide +kernel)).1

end ZkArche.Rust
