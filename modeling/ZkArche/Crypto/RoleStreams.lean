import ZkArche.Crypto.RoleParity
import ZkArche.Crypto.TranscriptParity

/-!
# The role provers on a byte stream

`auth_prove_role_set_membership_with_bytes` takes its randomness from a buffer, 64 bytes at a
time.  `prove_role_set_membership_with_rng` asks a generator for 64 bytes at a time.  Fed with
the same stream, both read the same pieces in the same order, hash the same transcript and
build the same branches.

The loops of the two provers are written here over the buffer and over the generator.  They do
what the loops over a sequence of pieces do (`C.commitBranchesFrom_eq`,
`Rust.roleBranchesWithRng_eq`), so that the agreement of those carries over.
-/

namespace ZkArche

/-- The 64 bytes of a buffer from an offset on.  A read past the end would give zeros. -/
def wideAt (buf : List UInt8) (offset : ℕ) : Bytes 64 :=
  ⟨(buf.drop offset ++ List.replicate 64 0).take 64, by simp⟩

/-- The number of pieces that `n` branches from the `i`-th on take. -/
def drawCount (t : ℕ) : ℕ → ℕ → ℕ
  | _, 0 => 0
  | i, n + 1 => (if i = t then 1 else 2) + drawCount t (i + 1) n

theorem drawCount_past {t i : ℕ} (n : ℕ) (hi : t < i) : drawCount t i n = 2 * n := by
  induction n generalizing i with
  | zero => rfl
  | succ n ih =>
      rw [drawCount, if_neg (by omega), ih (by omega)]
      omega

theorem drawCount_upto {t i n : ℕ} (hi : i ≤ t) (ht : t < i + n) :
    drawCount t i n = 2 * n - 1 := by
  induction n generalizing i with
  | zero => omega
  | succ n ih =>
      rw [drawCount]
      by_cases hit : i = t
      · rw [if_pos hit, drawCount_past n (by omega)]
        omega
      · rw [if_neg hit, ih (by omega) (by omega)]
        omega

variable {q : ℕ} {G : Type} [AddCommGroup G] [Module (ZMod q) G] (S : Suite q G)

/-! ## The C prover -/

namespace C

/-- What the commitment loop leaves: the branches, `w_true`, `consumed`, and the pieces it has
read. -/
structure Commits where
  branches : List SetBranch
  wTrue : Bytes 32
  consumed : ℕ
  read : List (Bytes 64)

/-- The commitment loop over the buffer. -/
def commitBranchesFrom (t : ℕ) (wideBytes : List UInt8) :
    ℕ → ℕ → List (Bytes 32) → Except AuthErr Commits
  | _, consumed, [] => .ok ⟨[], Bytes.zero 32, consumed, []⟩
  | i, consumed, y :: ys =>
      if i = t then do
        let w := authScalarFromWide q (wideAt wideBytes consumed)
        let a ← authScalarmult S w (authAttrH S)
        let rest ← commitBranchesFrom t wideBytes (i + 1) (consumed + 64) ys
        return ⟨⟨a, Bytes.zero 32, Bytes.zero 32⟩ :: rest.branches, w, rest.consumed,
          wideAt wideBytes consumed :: rest.read⟩
      else do
        let ci := authScalarFromWide q (wideAt wideBytes consumed)
        let si := authScalarFromWide q (wideAt wideBytes (consumed + 64))
        let hs ← authScalarmult S si (authAttrH S)
        let yc ← authScalarmult S ci y
        let a ← authPointSub S hs yc
        let rest ← commitBranchesFrom t wideBytes (i + 1) (consumed + 64 + 64) ys
        return ⟨⟨a, ci, si⟩ :: rest.branches, rest.wTrue, rest.consumed,
          wideAt wideBytes consumed :: wideAt wideBytes (consumed + 64) :: rest.read⟩

/-- `auth_prove_role_set_membership_with_bytes`, with `consumed` and the pieces read. -/
def authProveRoleSetMembershipWithBytes (wideBytes : List UInt8) (roles : List UInt64)
    (cPrime : Bytes 32) (roleCode : UInt64) (blindPrime pid nonceC ephC : Bytes 32) :
    Except AuthErr (List SetBranch × ℕ × List (Bytes 64)) := do
  ensure (roles.length ≠ 0 ∧ roles.length ≤ maxRoles) .invalidArgument
  match roles.idxOf? roleCode with
  | none => .error .roleNotPermitted
  | some t =>
      ensure (64 + 2 * 64 * (roles.length - 1) ≤ wideBytes.length) .invalidArgument
      let ys ← roleYs S cPrime roles
      let r ← commitBranchesFrom S t wideBytes 0 0 ys
      let master ← roleSetMasterChallenge S roles cPrime (r.branches.map SetBranch.a) pid nonceC
        ephC
      let sumSim := sumScalars q ((r.branches.eraseIdx t).map SetBranch.c)
      let cTrue := authScalarSub q master sumSim
      let cb := authScalarMul q cTrue blindPrime
      return (r.branches.modify t fun b => ⟨b.a, cTrue, authScalarAdd q r.wTrue cb⟩, r.consumed,
        r.read)

/-- The pieces of a buffer, by number. -/
def pieces (wideBytes : List UInt8) (k : ℕ) : Bytes 64 := wideAt wideBytes (64 * k)

theorem wideAt_mul (wideBytes : List UInt8) (k : ℕ) :
    wideAt wideBytes (64 * k) = pieces wideBytes k := rfl

/-- The loop over the buffer is the loop over its pieces. -/
theorem commitBranchesFrom_eq (t : ℕ) (wideBytes : List UInt8) (i k : ℕ) (ys : List (Bytes 32)) :
    commitBranchesFrom S t wideBytes i (64 * k) ys
      = (commitBranches S t (pieces wideBytes) i k ys).map fun r =>
          ⟨r.1, r.2, 64 * (k + drawCount t i ys.length),
            (List.range' k (drawCount t i ys.length)).map (pieces wideBytes)⟩ := by
  induction ys generalizing i k with
  | nil => rfl
  | cons y ys ih =>
      rw [commitBranchesFrom, commitBranches, List.length_cons, drawCount]
      by_cases hit : i = t
      · have hcount : k + (1 + drawCount t (i + 1) ys.length)
            = k + 1 + drawCount t (i + 1) ys.length := by omega
        rw [if_pos hit, if_pos hit, if_pos hit, show 64 * k + 64 = 64 * (k + 1) by omega, ih,
          hcount, Nat.add_comm 1, List.range'_succ]
        simp only [wideAt_mul]
        cases authScalarmult S (authScalarFromWide q (pieces wideBytes k)) (authAttrH S) with
        | error e => rfl
        | ok a =>
            cases commitBranches S t (pieces wideBytes) (i + 1) (k + 1) ys with
            | error e => rfl
            | ok r => rfl
      · have hcount : k + (2 + drawCount t (i + 1) ys.length)
            = k + 2 + drawCount t (i + 1) ys.length := by omega
        rw [if_neg hit, if_neg hit, if_neg hit, show 64 * k + 64 + 64 = 64 * (k + 2) by omega,
          show 64 * k + 64 = 64 * (k + 1) by omega, ih, hcount, Nat.add_comm 2, List.range'_succ,
          List.range'_succ]
        simp only [wideAt_mul]
        cases authScalarmult S (authScalarFromWide q (pieces wideBytes (k + 1))) (authAttrH S) with
        | error e => rfl
        | ok hs =>
            cases authScalarmult S (authScalarFromWide q (pieces wideBytes k)) y with
            | error e => rfl
            | ok yc =>
                simp only [Except.ok_bind']
                cases authPointSub S hs yc with
                | error e => rfl
                | ok a =>
                    cases commitBranches S t (pieces wideBytes) (i + 1) (k + 2) ys with
                    | error e => rfl
                    | ok r => rfl

/-- The prover over a buffer is the prover over its pieces, and reads all of them. -/
theorem authProveRoleSetMembershipWithBytes_ok {wideBytes : List UInt8} {roles : List UInt64}
    {cPrime : Bytes 32} {roleCode : UInt64} {blindPrime pid nonceC ephC : Bytes 32}
    {bs : List SetBranch} {consumed : ℕ} {read : List (Bytes 64)}
    (h : authProveRoleSetMembershipWithBytes S wideBytes roles cPrime roleCode blindPrime pid
      nonceC ephC = .ok (bs, consumed, read)) :
    (∃ K, S.decPoint cPrime = some K) ∧
    authProveRoleSetMembership S (pieces wideBytes) roles cPrime roleCode blindPrime pid nonceC
      ephC = .ok bs ∧
    consumed = 64 * (2 * roles.length - 1) ∧
    read = (List.range (2 * roles.length - 1)).map (pieces wideBytes) := by
  simp only [authProveRoleSetMembershipWithBytes, Except.bind_eq_ok_iff, ensure_eq_ok_iff] at h
  obtain ⟨-, hsize, h⟩ := h
  split at h
  next => cases h
  next t ht =>
    simp only [Except.bind_eq_ok_iff, ensure_eq_ok_iff] at h
    obtain ⟨-, -, ys, hys, r, hr, master, hm, hout⟩ := h
    obtain ⟨K, hK⟩ := decPoint_of_roleYs hys (List.ne_nil_of_length_pos
      (Nat.pos_of_ne_zero hsize.1))
    have hlen : ys.length = roles.length := by
      obtain ⟨-, rfl⟩ := (roleYs_eq_ok_iff hK).mp hys
      rw [List.length_map, roleStatements, List.length_map]
    have hcount : drawCount t 0 ys.length = 2 * roles.length - 1 := by
      rw [hlen]
      exact drawCount_upto (Nat.zero_le t) (by
        rw [Nat.zero_add]
        exact (List.idxOf?_eq_some_iff.mp ht).1)
    have hfrom := commitBranchesFrom_eq S t wideBytes 0 0 ys
    rw [Nat.mul_zero, hr, hcount] at hfrom
    cases hcommit : commitBranches S t (pieces wideBytes) 0 0 ys with
    | error e =>
        rw [hcommit] at hfrom
        cases hfrom
    | ok r' =>
        rw [hcommit] at hfrom
        obtain rfl := Except.ok.inj hfrom
        simp only [Except.pure_eq_ok, Except.ok.injEq, Prod.mk.injEq] at hout
        obtain ⟨rfl, rfl, rfl⟩ := hout
        refine ⟨⟨K, hK⟩, ?_, by rw [Nat.zero_add], by rw [List.range_eq_range']⟩
        simp only [authProveRoleSetMembership, ensure_pos hsize, Except.ok_bind', ht, hys, hcommit,
          hm]
        rfl

/-- The blind is reduced before it is used. -/
theorem authProveRoleSetMembership_blind [NeZero q] (wide : ℕ → Bytes 64) (roles : List UInt64)
    (cPrime : Bytes 32) (roleCode : UInt64) (blindPrime pid nonceC ephC : Bytes 32) :
    authProveRoleSetMembership S wide roles cPrime roleCode
        (encScalar (scalarOf blindPrime : ZMod q)) pid nonceC ephC
      = authProveRoleSetMembership S wide roles cPrime roleCode blindPrime pid nonceC ephC := by
  simp only [authProveRoleSetMembership, authScalarMul, scalarOf_encScalar S.order_le]

end C

/-! ## The Rust prover -/

namespace Rust

section Rng

variable {ρ : Type} (fillBytes : ρ → Bytes 64 × ρ)

/-- The commitment loop over a generator. -/
def roleBranchesWithRng (h : G) (t : ℕ) : ℕ → ρ → List G → (List (SetBranch q G) × ZMod q) × ρ
  | _, rng, [] => (([], 0), rng)
  | i, rng, y :: ys =>
      if i = t then
        let (wide, rng) := fillBytes rng
        let w : ZMod q := scalarOf wide
        let (rest, rng) := roleBranchesWithRng h t (i + 1) rng ys
        ((⟨w • h, 0, 0⟩ :: rest.1, w), rng)
      else
        let (wideC, rng) := fillBytes rng
        let c : ZMod q := scalarOf wideC
        let (wideS, rng) := fillBytes rng
        let s : ZMod q := scalarOf wideS
        let (rest, rng) := roleBranchesWithRng h t (i + 1) rng ys
        ((⟨s • h - c • y, c, s⟩ :: rest.1, rest.2), rng)

/-- `prove_role_set_membership_with_rng`, with the generator it leaves. -/
def proveRoleSetMembershipWithRng (rng : ρ) (b : RoleSetBinding G) (roleCode : UInt64)
    (blindPrime : ZMod q) : Except Stop (List (SetBranch q G) × ρ) :=
  match b.allowedRoles.idxOf? roleCode with
  | none => .error (.panic "role not in allowed_roles")
  | some t =>
      let ((bs, w), rng) := roleBranchesWithRng fillBytes S.attrH t 0 rng (yPoints S b)
      let master := roleSetChallenge S b (bs.map Branch.a)
      .ok (Branch.answer master w blindPrime t bs, rng)

variable {fillBytes}

/-- The loop over a generator is the loop over the pieces it hands out. -/
theorem roleBranchesWithRng_eq {wide : ℕ → Bytes 64} {after : ℕ → ρ}
    (hfill : ∀ k, fillBytes (after k) = (wide k, after (k + 1))) (h : G) (t i k : ℕ)
    (ys : List G) :
    roleBranchesWithRng (q := q) fillBytes h t i (after k) ys
      = (roleBranches h t wide i k ys, after (k + drawCount t i ys.length)) := by
  induction ys generalizing i k with
  | nil => rfl
  | cons y ys ih =>
      rw [roleBranchesWithRng, roleBranches, List.length_cons, drawCount]
      by_cases hit : i = t
      · simp only [hit, if_true, hfill, ih]
        rw [show k + 1 + drawCount t (t + 1) ys.length
          = k + (1 + drawCount t (t + 1) ys.length) by omega]
      · simp only [hit, if_false, hfill, ih]
        rw [show k + 1 + 1 + drawCount t (i + 1) ys.length
          = k + (2 + drawCount t (i + 1) ys.length) by omega]

end Rng

/-- A generator that hands out a stream, with the pieces handed out so far. -/
structure StreamRng where
  rest : List UInt8
  read : List (Bytes 64)

/-- Hand out 64 bytes. -/
def StreamRng.fillBytes (r : StreamRng) : Bytes 64 × StreamRng :=
  (wideAt r.rest 0, ⟨r.rest.drop 64, r.read ++ [wideAt r.rest 0]⟩)

/-- The generator after a number of pieces of the stream. -/
def StreamRng.after (stream : List UInt8) (k : ℕ) : StreamRng :=
  ⟨stream.drop (64 * k), (List.range k).map (C.pieces stream)⟩

theorem StreamRng.fillBytes_after (stream : List UInt8) (k : ℕ) :
    (StreamRng.after stream k).fillBytes = (C.pieces stream k, StreamRng.after stream (k + 1)) := by
  have hpiece : wideAt (stream.drop (64 * k)) 0 = C.pieces stream k := rfl
  simp only [fillBytes, after, hpiece, List.drop_drop, List.range_succ, List.map_append,
    List.map_cons, List.map_nil, Nat.mul_succ]

theorem proveRoleSetMembership_length {wide : ℕ → Bytes 64} {b : RoleSetBinding G}
    {roleCode : UInt64} {blindPrime : ZMod q} {branches : List (SetBranch q G)}
    (h : proveRoleSetMembership S wide b roleCode blindPrime = .ok branches) :
    branches.length = b.allowedRoles.length := by
  unfold proveRoleSetMembership at h
  split at h
  next => cases h
  next t ht =>
    rw [← Except.ok.inj h]
    simp [Branch.answer, yPoints]

/-- The prover over a stream is the prover over its pieces. -/
theorem proveRoleSetMembershipWithRng_eq {stream : List UInt8} {b : RoleSetBinding G}
    {roleCode : UInt64} {blindPrime : ZMod q} {branches : List (SetBranch q G)}
    (h : proveRoleSetMembership S (C.pieces stream) b roleCode blindPrime = .ok branches) :
    proveRoleSetMembershipWithRng S StreamRng.fillBytes ⟨stream, []⟩ b roleCode blindPrime
      = .ok (branches, StreamRng.after stream (2 * b.allowedRoles.length - 1)) := by
  unfold proveRoleSetMembership at h
  split at h
  next => cases h
  next t ht =>
    have hcount : drawCount t 0 (yPoints S b).length = 2 * b.allowedRoles.length - 1 := by
      rw [yPoints, List.length_map]
      exact drawCount_upto (Nat.zero_le t) (by
        rw [Nat.zero_add]
        exact (List.idxOf?_eq_some_iff.mp ht).1)
    have hloop := roleBranchesWithRng_eq (q := q) (StreamRng.fillBytes_after stream) S.attrH t 0 0
      (yPoints S b)
    rw [Nat.zero_add, hcount] at hloop
    rw [show StreamRng.after stream 0 = ⟨stream, []⟩ from rfl] at hloop
    rw [← Except.ok.inj h]
    simp only [proveRoleSetMembershipWithRng, ht, hloop]

end Rust

/-! ## Both -/

/-- Both provers hash the same bytes, for the same master challenge. -/
structure SameRoleTranscript (b : Rust.RoleSetBinding G) (as : List G) (buf : List UInt8) :
    Prop where
  rust : Rust.Transcript.build tRoleSet (Rust.roleSetFields S b as) = .ok ⟨buf⟩
  c : C.transcriptOf tRoleSet (C.roleSetFields b.allowedRoles (S.encPoint b.cPrime)
    (as.map S.encPoint) b.pid b.nonceC (S.encPoint b.ephC)) = .ok ⟨buf, false⟩
  hashRust : Rust.roleSetChallenge S b as = Rust.challengeScalar S buf
  hashC : C.roleSetMasterChallenge S b.allowedRoles (S.encPoint b.cPrime) (as.map S.encPoint)
    b.pid b.nonceC (S.encPoint b.ephC) = C.authTranscriptChallenge S ⟨buf, false⟩

theorem sameRoleTranscript {b : Rust.RoleSetBinding G} {as : List G}
    (hr : b.allowedRoles.length ≤ maxRoles) (ha : as.length ≤ maxRoles) :
    SameRoleTranscript S b as (transcript tRoleSet (Rust.roleSetFields S b as)) := by
  obtain ⟨hcount, hshort⟩ := C.roleSetFields_short S b hr ha
  have hd : tRoleSet.length ≤ 255 := by decide
  have hsmall : ∀ f ∈ Rust.roleSetFields S b as, f.Small := fun f hf => (hshort f hf).small
  have hC := C.transcriptOf_eq hd hsmall (transcript_length_le hd hcount hshort)
  rw [← C.roleSetFields_eq] at hC
  refine ⟨Rust.Transcript.build_eq hd hsmall, ?_, rfl, ?_⟩
  · rw [hC, C.roleSetFields_eq]
  · show C.challenge S tRoleSet (C.roleSetFields b.allowedRoles (S.encPoint b.cPrime)
      (as.map S.encPoint) b.pid b.nonceC (S.encPoint b.ephC)) = _
    rw [C.challenge, hC, Except.ok_bind', C.roleSetFields_eq]

/-- Whenever the C prover succeeds, the Rust prover fed with the same stream builds the same
branches.  Both read the whole stream, in the same pieces and in the same order, and hash the
same transcript. -/
theorem role_provers_agree [NeZero q] (S : Suite q G) (roles : List UInt64)
    (cPrime blindPrime pid nonceC : Bytes 32) (ephC : G) (roleCode : UInt64)
    (stream : List UInt8) (hlen : stream.length = 64 + 128 * (roles.length - 1))
    {bs : List C.SetBranch} {consumed : ℕ} {read : List (Bytes 64)}
    (h : C.authProveRoleSetMembershipWithBytes S stream roles cPrime roleCode blindPrime pid nonceC
      (S.encPoint ephC) = .ok (bs, consumed, read)) :
    ∃ K branches, S.encPoint K = cPrime ∧
      Rust.proveRoleSetMembershipWithRng S Rust.StreamRng.fillBytes ⟨stream, []⟩
        ⟨roles, K, pid, nonceC, ephC⟩ roleCode (scalarOf blindPrime) = .ok (branches, ⟨[], read⟩) ∧
      bs = branches.map (C.encBranch S) ∧ consumed = stream.length ∧
      ∃ buf, SameRoleTranscript S ⟨roles, K, pid, nonceC, ephC⟩ (branches.map Branch.a) buf := by
  obtain ⟨⟨K, hK⟩, hC, hconsumed, hread⟩ := C.authProveRoleSetMembershipWithBytes_ok S h
  obtain rfl : S.encPoint K = cPrime := (S.decPoint_eq_some_iff _ _).mp hK
  have hsize : roles.length ≠ 0 ∧ roles.length ≤ maxRoles := by
    simp only [C.authProveRoleSetMembership, Except.bind_eq_ok_iff, ensure_eq_ok_iff] at hC
    exact hC.choose_spec.1
  have hall : 64 * (2 * roles.length - 1) = stream.length := by omega
  rw [← C.authProveRoleSetMembership_blind] at hC
  obtain ⟨branches, hp, hbs⟩ :=
    proveRoleSetMembership_of_C (b := ⟨roles, K, pid, nonceC, ephC⟩) hC
  have hrng := Rust.proveRoleSetMembershipWithRng_eq S hp
  have hafter : Rust.StreamRng.after stream (2 * roles.length - 1) = ⟨[], read⟩ := by
    rw [Rust.StreamRng.after, hall, List.drop_length, hread]
  rw [hafter] at hrng
  have hcount : (branches.map Branch.a).length ≤ maxRoles := by
    rw [List.length_map, Rust.proveRoleSetMembership_length S hp]
    exact hsize.2
  exact ⟨K, branches, rfl, hrng, hbs, hconsumed.trans hall, _, sameRoleTranscript S hsize.2 hcount⟩

/-- The stream of a prover for one of two roles. -/
def demoStream : List UInt8 :=
  (byteString 63 5).val ++ (byteString 63 6).val ++ (byteString 63 6).val

theorem role_provers_agree_demo :
    ∃ r, C.authProveRoleSetMembershipWithBytes smallSuite demoStream [1, 2]
      (smallSuite.encPoint (demoBinding [1, 2] 2).cPrime) 2 (encScalar demoDeviceKey)
      (byteString 31 1) (byteString 31 9) (smallSuite.encPoint demoServerKey) = .ok r ∧
      r.2.1 = demoStream.length := by
  have hok : (C.authProveRoleSetMembershipWithBytes smallSuite demoStream [1, 2]
      (smallSuite.encPoint (demoBinding [1, 2] 2).cPrime) 2 (encScalar demoDeviceKey)
      (byteString 31 1) (byteString 31 9) (smallSuite.encPoint demoServerKey)).isOk = true := by
    decide +kernel
  cases h : C.authProveRoleSetMembershipWithBytes smallSuite demoStream [1, 2]
      (smallSuite.encPoint (demoBinding [1, 2] 2).cPrime) 2 (encScalar demoDeviceKey)
      (byteString 31 1) (byteString 31 9) (smallSuite.encPoint demoServerKey) with
  | error e =>
      rw [h] at hok
      cases hok
  | ok r =>
      obtain ⟨bs, consumed, read⟩ := r
      obtain ⟨K, branches, -, -, -, hconsumed, -⟩ := role_provers_agree smallSuite [1, 2]
        (smallSuite.encPoint (demoBinding [1, 2] 2).cPrime) (encScalar demoDeviceKey)
        (byteString 31 1) (byteString 31 9) demoServerKey 2 demoStream (by simp [demoStream]) h
      exact ⟨_, rfl, hconsumed⟩

/-! ## Completeness -/

namespace Rust

section

variable {ρ : Type} (fillBytes : ρ → Bytes 64 × ρ)

/-- The generator after a number of draws. -/
def rngAfter (rng : ρ) (k : ℕ) : ρ := (fun r => (fillBytes r).2)^[k] rng

/-- The draws of a generator. -/
def rngDraws (rng : ρ) (k : ℕ) : Bytes 64 := (fillBytes (rngAfter fillBytes rng k)).1

/-- `prove_rerandomization_with_rng`, with the generator it leaves. -/
def proveRerandomizationWithRng (rng : ρ) (storedC cPrime : G) (delta : ZMod q)
    (pid nonceC : Bytes 32) (ephC : G) : SchnorrProof q G × ρ :=
  let (wide, rng) := fillBytes rng
  (proveRerandomization S wide storedC cPrime delta pid nonceC ephC, rng)

theorem fillBytes_rngAfter (rng : ρ) (k : ℕ) :
    fillBytes (rngAfter fillBytes rng k) =
      (rngDraws fillBytes rng k, rngAfter fillBytes rng (k + 1)) := by
  rw [rngAfter, rngAfter, Function.iterate_succ_apply']
  rfl

/-- The prover over a generator is the prover over its draws. -/
theorem proveRoleSetMembershipWithRng_eq_draws (rng : ρ) {b : RoleSetBinding G}
    {roleCode : UInt64} {blindPrime : ZMod q} {branches : List (SetBranch q G)}
    (h : proveRoleSetMembership S (rngDraws fillBytes rng) b roleCode blindPrime = .ok branches) :
    ∃ rng', proveRoleSetMembershipWithRng S fillBytes rng b roleCode blindPrime =
      .ok (branches, rng') := by
  unfold proveRoleSetMembership at h
  split at h
  next => cases h
  next t ht =>
    have hloop := roleBranchesWithRng_eq (q := q) (fillBytes_rngAfter fillBytes rng) S.attrH
      t 0 0 (yPoints S b)
    rw [show rngAfter fillBytes rng 0 = rng from rfl] at hloop
    rw [← Except.ok.inj h]
    simp only [proveRoleSetMembershipWithRng, ht, hloop]
    exact ⟨_, rfl⟩

variable [DecidableEq G]

/-- The role proof of an allowed role is accepted, whatever the generator hands out. -/
theorem verifyRoleSetMembership_proveWithRng (rng : ρ) {b : RoleSetBinding G} {roleCode : UInt64}
    (hrole : roleCode ∈ b.allowedRoles) {blindPrime : ZMod q}
    (hc : b.cPrime = makeRoleCommitment S roleCode blindPrime) :
    ∃ branches rng',
      proveRoleSetMembershipWithRng S fillBytes rng b roleCode blindPrime = .ok (branches, rng') ∧
      verifyRoleSetMembership S b branches = true := by
  cases ht : b.allowedRoles.idxOf? roleCode with
  | none => exact absurd hrole (List.idxOf?_eq_none_iff.mp ht)
  | some t =>
      have hp : proveRoleSetMembership S (rngDraws fillBytes rng) b roleCode blindPrime = _ :=
        proveRoleSetMembership_eq S ht
      obtain ⟨rng', hrng⟩ := proveRoleSetMembershipWithRng_eq_draws S fillBytes rng hp
      exact ⟨_, rng', hrng, verifyRoleSetMembership_prove S hc hp⟩

omit [DecidableEq G] in
/-- A commitment that is shifted commits to the same role. -/
theorem rerandomizeCommitment_makeRoleCommitment (deltaWide : Bytes 64) (roleCode : UInt64)
    (blind : ZMod q) :
    (rerandomizeCommitment S deltaWide (makeRoleCommitment S roleCode blind) blind).1 =
      makeRoleCommitment S roleCode
        (rerandomizeCommitment S deltaWide (makeRoleCommitment S roleCode blind) blind).2.1 := by
  simp only [rerandomizeCommitment, makeRoleCommitment, add_smul, add_assoc]

end

/-- The role proof of an allowed role is accepted.  So are the proofs of an AUTH_1, for the
commitment that was shifted and for the shift. -/
theorem role_proofs_complete {ρ : Type} (S : Suite q G) [DecidableEq G]
    (fillBytes : ρ → Bytes 64 × ρ) (rng : ρ) (roles : List UInt64) (roleCode : UInt64)
    (hrole : roleCode ∈ roles) (blind : ZMod q) (pid nonceC : Bytes 32) (ephC : G)
    (deltaWide : Bytes 64) :
    let storedC := makeRoleCommitment S roleCode blind
    let shifted := rerandomizeCommitment S deltaWide storedC blind
    (∃ branches rng', proveRoleSetMembershipWithRng S fillBytes rng
        ⟨roles, storedC, pid, nonceC, ephC⟩ roleCode blind = .ok (branches, rng') ∧
      verifyRoleSetMembership S ⟨roles, storedC, pid, nonceC, ephC⟩ branches = true) ∧
    (∃ branches rng', proveRoleSetMembershipWithRng S fillBytes rng
        ⟨roles, shifted.1, pid, nonceC, ephC⟩ roleCode shifted.2.1 = .ok (branches, rng') ∧
      verifyRoleSetMembership S ⟨roles, shifted.1, pid, nonceC, ephC⟩ branches = true) ∧
    verifyRerandomization S storedC shifted.1 pid nonceC ephC
      (proveRerandomizationWithRng S fillBytes rng storedC shifted.1 shifted.2.2 pid nonceC
        ephC).1 = true := by
  refine ⟨?_, ?_, ?_⟩
  · exact verifyRoleSetMembership_proveWithRng S fillBytes rng hrole rfl
  · exact verifyRoleSetMembership_proveWithRng S fillBytes rng hrole
      (rerandomizeCommitment_makeRoleCommitment S deltaWide roleCode blind)
  · exact verifyRerandomization_prove S (fillBytes rng).1 deltaWide _ blind pid nonceC ephC

/-- A role that is allowed twice. -/
theorem role_proofs_complete_repeated :
    ∃ branches rng', proveRoleSetMembershipWithRng smallSuite StreamRng.fillBytes ⟨demoStream, []⟩
        ⟨[2, 1, 2], makeRoleCommitment smallSuite 2 demoDeviceKey, byteString 31 1,
          byteString 31 9, demoServerKey⟩ 2 demoDeviceKey = .ok (branches, rng') ∧
      verifyRoleSetMembership smallSuite
        ⟨[2, 1, 2], makeRoleCommitment smallSuite 2 demoDeviceKey, byteString 31 1,
          byteString 31 9, demoServerKey⟩ branches = true :=
  (role_proofs_complete smallSuite StreamRng.fillBytes ⟨demoStream, []⟩ [2, 1, 2] 2 (by decide)
    demoDeviceKey (byteString 31 1) (byteString 31 9) demoServerKey (byteString 63 7)).1

end Rust

end ZkArche
