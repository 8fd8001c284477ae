import ZkArche.Panics.Crypto

/-!
# The Rust role proof with its panics

`prove_role_set_membership` fills three vectors by index, one entry per allowed role, and reads the
branches out of them at the end.  `verify_role_set_membership` indexes the statements by the position
of a branch.  Both hash a transcript whose labels contain the index of a role.

Every index is in range: the vectors have one entry per role, and the verifier looks at the branches
only when there are as many of them (`verifyBranches_eq`, `commitLoop_eq`, `collectBranches_eq`).
What is left are two panics of the prover.  The role must be in the list, and the labels must stay
below 256 bytes.
-/

namespace ZkArche.Rust.Checked

variable {q : ℕ} {G : Type} [AddCommGroup G] [Module (ZMod q) G] (S : Suite q G)

/-! ## The transcript -/

/-- The master challenge. -/
def roleSetChallenge (b : RoleSetBinding G) (as : List G) : Except Stop (ZMod q) :=
  challenge S tRoleSet (roleSetFields S b as)

/-- The largest number of roles whose proof fits a packet. -/
def maxProvableRoles : ℕ := 18

theorem roleLabel_small : ∀ i < maxProvableRoles, (ascii ("r_" ++ toString i)).length ≤ 255 ∧
    (ascii ("A_" ++ toString i)).length ≤ 255 := by
  decide

theorem roleSetChallenge_eq {b : RoleSetBinding G} (as : List G)
    (hr : b.allowedRoles.length ≤ maxProvableRoles) (ha : as.length ≤ maxProvableRoles) :
    roleSetChallenge S b as = .ok (Rust.roleSetChallenge S b as) := by
  refine challenge_eq S (by decide) ?_
  intro f hf
  simp only [roleSetFields, List.mem_append, List.mem_cons, List.not_mem_nil, or_false,
    List.mem_mapIdx] at hf
  obtain ((rfl | rfl | rfl | rfl) | ⟨i, hi, rfl⟩) | ⟨i, hi, rfl⟩ := hf
  · exact (field_short (by decide) (by simp)).small
  · exact (field_short (by decide) (by simp)).small
  · exact (field_short (by decide) (by simp)).small
  · exact (field_short (by decide) (by simp)).small
  · exact ⟨(roleLabel_small i (by omega)).1, by simp [field, u64LE]⟩
  · exact ⟨(roleLabel_small i (by omega)).2, by simp [field]⟩

/-! ## The verifier -/

section

variable [DecidableEq G]

/-- The loop over the branches, from the branch `i` on. -/
def verifyBranches (h : G) (ys : List G) : ℕ → List (SetBranch q G) → Except Stop Bool
  | _, [] => .ok true
  | i, br :: brs => do
      let y ← orPanic (SliceOp.index ys i)
      if br.s • h ≠ br.a + br.c • y then return false
      else verifyBranches h ys (i + 1) brs

/-- `verify_role_set_membership`. -/
def verifyRoleSetMembership (b : RoleSetBinding G) (branches : List (SetBranch q G)) :
    Except Stop Bool := do
  let h ← attrH S
  if branches.length ≠ b.allowedRoles.length then return false
  else
    let master ← roleSetChallenge S b (branches.map Branch.a)
    if (branches.map Branch.c).sum ≠ master then return false
    else verifyBranches h (yPoints S b) 0 branches

/-- With as many statements as branches every index is in range. -/
theorem verifyBranches_eq {h : G} {ys : List G} {i : ℕ} {brs : List (SetBranch q G)}
    (hlen : i + brs.length = ys.length) :
    verifyBranches h ys i brs = .ok ((brs.zip (ys.drop i)).all fun x =>
      decide (x.1.s • h = x.1.a + x.1.c • x.2)) := by
  induction brs generalizing i with
  | nil => simp [verifyBranches]
  | cons br brs ih =>
      rw [List.length_cons] at hlen
      have hi : i < ys.length := by omega
      rw [verifyBranches, SliceOp.index_of_lt hi, orPanic_ok, Except.ok_bind',
        List.drop_eq_getElem_cons hi, List.zip_cons_cons, List.all_cons]
      by_cases heq : br.s • h = br.a + br.c • ys[i]
      · rw [if_neg (not_not.mpr heq), ih (by omega), decide_eq_true heq, Bool.true_and]
      · rw [if_pos heq, decide_eq_false heq, Bool.false_and]
        rfl

theorem verifyRoleSetMembership_eq {b : RoleSetBinding G}
    (hr : b.allowedRoles.length ≤ maxProvableRoles) (branches : List (SetBranch q G)) :
    verifyRoleSetMembership S b branches = .ok (Rust.verifyRoleSetMembership S b branches) := by
  rw [verifyRoleSetMembership, attrH_eq, Except.ok_bind', Rust.verifyRoleSetMembership]
  by_cases hlen : branches.length = b.allowedRoles.length
  · rw [if_neg (not_not.mpr hlen), if_neg (not_not.mpr hlen),
      roleSetChallenge_eq S _ hr (by simpa [hlen] using hr), Except.ok_bind']
    by_cases hsum : (branches.map Branch.c).sum = Rust.roleSetChallenge S b (branches.map Branch.a)
    · rw [if_neg (not_not.mpr hsum), if_neg (not_not.mpr hsum),
        verifyBranches_eq (by simp [yPoints, hlen]), List.drop_zero]
    · rw [if_pos hsum, if_pos hsum]
      rfl
  · rw [if_pos hlen, if_pos hlen]
    rfl

end

/-! ## The prover -/

/-- The vectors of the prover, and `w_true`. -/
structure Vectors (q : ℕ) (G : Type) where
  aPoints : List G
  cVals : List (ZMod q)
  sVals : List (ZMod q)
  wTrue : ZMod q

/-- The commitment loop over the indices of `ys`.  `n` branches are left, `i` is the next one, and
`k` draws have been made. -/
def commitLoop (h : G) (t : ℕ) (wide : ℕ → Bytes 64) (ys : List G) :
    ℕ → ℕ → ℕ → Vectors q G → Except Stop (Vectors q G)
  | 0, _, _, v => .ok v
  | n + 1, i, k, v =>
      if i = t then do
        let w : ZMod q := scalarOf (wide k)
        let aPoints ← orPanic (SliceOp.store v.aPoints i (w • h))
        commitLoop h t wide ys n (i + 1) (k + 1) ⟨aPoints, v.cVals, v.sVals, w⟩
      else do
        let c : ZMod q := scalarOf (wide k)
        let s : ZMod q := scalarOf (wide (k + 1))
        let y ← orPanic (SliceOp.index ys i)
        let aPoints ← orPanic (SliceOp.store v.aPoints i (s • h - c • y))
        let cVals ← orPanic (SliceOp.store v.cVals i c)
        let sVals ← orPanic (SliceOp.store v.sVals i s)
        commitLoop h t wide ys n (i + 1) (k + 2) ⟨aPoints, cVals, sVals, v.wTrue⟩

/-- The branches at the given indices. -/
def collectBranches (aPoints : List G) (cVals sVals : List (ZMod q)) :
    List ℕ → Except Stop (List (SetBranch q G))
  | [] => .ok []
  | i :: is => do
      let a ← orPanic (SliceOp.index aPoints i)
      let c ← orPanic (SliceOp.index cVals i)
      let s ← orPanic (SliceOp.index sVals i)
      let rest ← collectBranches aPoints cVals sVals is
      return ⟨a, c, s⟩ :: rest

/-- The challenges of all branches but one. -/
def simulatedChallenges (cVals : List (ZMod q)) (t : ℕ) : List (ZMod q) :=
  (cVals.zipIdx.filter fun p => p.2 ≠ t).map Prod.fst

/-- `prove_role_set_membership`. -/
def proveRoleSetMembership (wide : ℕ → Bytes 64) (b : RoleSetBinding G) (roleCode : UInt64)
    (blindPrime : ZMod q) : Except Stop (List (SetBranch q G)) := do
  let h ← attrH S
  let n := b.allowedRoles.length
  let t ← match b.allowedRoles.idxOf? roleCode with
    | some t => .ok t
    | none => .error (.panic "role not in allowed_roles")
  let v ← commitLoop h t wide (yPoints S b) n 0 0
    ⟨List.replicate n 0, List.replicate n 0, List.replicate n 0, 0⟩
  let master ← roleSetChallenge S b v.aPoints
  let cTrue := master - (simulatedChallenges v.cVals t).sum
  let sTrue := v.wTrue + cTrue * blindPrime
  let cVals ← orPanic (SliceOp.store v.cVals t cTrue)
  let sVals ← orPanic (SliceOp.store v.sVals t sTrue)
  collectBranches v.aPoints cVals sVals (List.range n)

/-- The vectors when some branches are done and `n` are not. -/
def Vectors.filled (bs : List (SetBranch q G)) (n : ℕ) (w : ZMod q) : Vectors q G :=
  ⟨bs.map Branch.a ++ List.replicate n 0, bs.map Branch.c ++ List.replicate n 0,
    bs.map Branch.s ++ List.replicate n 0, w⟩

/-- Storing the first entry that is not done. -/
theorem store_filled {α : Type} (xs : List α) {i : ℕ} (hi : xs.length = i) (n : ℕ) (z x : α) :
    SliceOp.store (xs ++ List.replicate (n + 1) z) i x = .ok (xs ++ [x] ++ List.replicate n z) := by
  have hlt : i < (xs ++ List.replicate (n + 1) z).length := by simp [hi]
  rw [SliceOp.store_of_lt hlt, List.set_append_right _ _ (by omega), hi, Nat.sub_self,
    List.replicate_succ, List.set_cons_zero, List.append_assoc]
  rfl

theorem skip_filled {α : Type} (xs : List α) (n : ℕ) (z : α) :
    xs ++ List.replicate (n + 1) z = xs ++ [z] ++ List.replicate n z := by
  rw [List.replicate_succ, List.append_assoc]
  rfl

/-- The loop fills in the branches.  Before the true branch `w_true` is still zero, and after it
the loop leaves it alone. -/
theorem commitLoop_eq (h : G) (t : ℕ) (wide : ℕ → Bytes 64) (ys : List G) {n i : ℕ} (k : ℕ)
    (bs : List (SetBranch q G)) {w : ZMod q} (hbs : bs.length = i) (hn : i + n = ys.length)
    (hw : i ≤ t → w = 0) :
    commitLoop h t wide ys n i k (Vectors.filled bs n w) =
      .ok (Vectors.filled (bs ++ (roleBranches h t wide i k (ys.drop i)).1) 0
        (if i ≤ t then (roleBranches (q := q) h t wide i k (ys.drop i)).2 else w)) := by
  induction n generalizing i k bs w with
  | zero =>
      have hnil : ys.drop i = [] := List.drop_eq_nil_of_le (by omega)
      rw [commitLoop, hnil, roleBranches, List.append_nil]
      by_cases hit : i ≤ t
      · rw [if_pos hit, hw hit]
      · rw [if_neg hit]
  | succ n ih =>
      have hi : i < ys.length := by omega
      rw [commitLoop, List.drop_eq_getElem_cons hi, roleBranches]
      by_cases hit : i = t
      · have hpast : ¬ i + 1 ≤ t := by omega
        have hrec := ih (i := i + 1) (k + 1) (bs ++ [⟨(scalarOf (wide k) : ZMod q) • h, 0, 0⟩])
          (w := scalarOf (wide k)) (by simp [hbs]) (by omega) (fun hle => absurd hle hpast)
        rw [if_neg hpast] at hrec
        simp only [Vectors.filled, List.map_append, List.map_cons, List.map_nil] at hrec
        simp only [if_pos hit, if_pos (Nat.le_of_eq hit), Vectors.filled,
          store_filled (bs.map Branch.a) (by simpa using hbs), orPanic_ok, Except.ok_bind',
          skip_filled (bs.map Branch.c), skip_filled (bs.map Branch.s), hrec]
        simp
      · have hrec := ih (i := i + 1) (k + 2)
          (bs ++ [⟨(scalarOf (wide (k + 1)) : ZMod q) • h - (scalarOf (wide k) : ZMod q) • ys[i],
            scalarOf (wide k), scalarOf (wide (k + 1))⟩])
          (w := w) (by simp [hbs]) (by omega) (fun hle => hw (by omega))
        have hiff : i + 1 ≤ t ↔ i ≤ t := by omega
        simp only [Vectors.filled, List.map_append, List.map_cons, List.map_nil, hiff] at hrec
        simp only [if_neg hit, Vectors.filled, SliceOp.index_of_lt hi,
          store_filled (bs.map Branch.a) (by simpa using hbs),
          store_filled (bs.map Branch.c) (by simpa using hbs),
          store_filled (bs.map Branch.s) (by simpa using hbs), orPanic_ok, Except.ok_bind', hrec]
        simp

omit [AddCommGroup G] [Module (ZMod q) G] in
/-- Reading the branches out of vectors that hold them. -/
theorem collectBranches_eq (bs : List (SetBranch q G)) :
    collectBranches (bs.map Branch.a) (bs.map Branch.c) (bs.map Branch.s) (List.range bs.length) =
      .ok bs := by
  have hfrom : ∀ n i, i + n = bs.length → collectBranches (bs.map Branch.a) (bs.map Branch.c)
      (bs.map Branch.s) (List.range' i n) = .ok (bs.drop i) := by
    intro n
    induction n with
    | zero =>
        intro i hi
        rw [List.drop_eq_nil_of_le (by omega)]
        rfl
    | succ n ih =>
        intro i hi
        have hlt : i < bs.length := by omega
        rw [List.range'_succ, collectBranches, SliceOp.index_of_lt (by simpa using hlt),
          SliceOp.index_of_lt (by simpa using hlt), SliceOp.index_of_lt (by simpa using hlt),
          ih (i + 1) (by omega), List.drop_eq_getElem_cons hlt]
        simp only [orPanic_ok, Except.ok_bind', List.getElem_map, Except.pure_eq_ok]
  rw [List.range_eq_range', hfrom bs.length 0 (Nat.zero_add _), List.drop_zero]

omit [AddCommGroup G] [Module (ZMod q) G] in
theorem simulatedChallenges_map (bs : List (SetBranch q G)) (t : ℕ) :
    simulatedChallenges (bs.map Branch.c) t = (bs.eraseIdx t).map Branch.c := by
  have hoff : ∀ (cs : List (ZMod q)) (i t : ℕ),
      ((cs.zipIdx i).filter fun p => p.2 ≠ i + t).map Prod.fst = cs.eraseIdx t := by
    intro cs
    induction cs with
    | nil =>
        intro i t
        rfl
    | cons c cs ih =>
        intro i t
        cases t with
        | zero =>
            have hall : ∀ p ∈ cs.zipIdx (i + 1), p.2 ≠ i := by
              intro p hp
              have := List.le_snd_of_mem_zipIdx hp
              omega
            simp only [List.zipIdx_cons, Nat.add_zero, List.eraseIdx_cons_zero]
            rw [List.filter_cons_of_neg (by simp), List.filter_eq_self.mpr fun p hp => decide_eq_true (hall p hp),
              List.zipIdx_map_fst]
        | succ t =>
            rw [List.zipIdx_cons, List.filter_cons_of_pos (by simp), List.map_cons,
              List.eraseIdx_cons_succ, ← ih (i + 1) t]
            simp only [Nat.add_assoc, Nat.add_comm 1 t]
  have h := hoff (bs.map Branch.c) 0 t
  simp only [Nat.zero_add] at h
  rw [simulatedChallenges, h, List.eraseIdx_map]

/-- A field that a modification sets to a constant. -/
theorem map_modify_eq_set {α β : Type} {f : α → α} {g : α → β} {k : β} (h : ∀ a, g (f a) = k)
    (xs : List α) (t : ℕ) : (xs.modify t f).map g = (xs.map g).set t k := by
  apply List.ext_getElem
  · simp
  · intro i h1 h2
    simp only [List.getElem_map, List.getElem_modify, List.getElem_set]
    split
    next => exact h _
    next => rfl

/-- The loop, from vectors of zeros on. -/
theorem commitLoop_zeros (h : G) (t : ℕ) (wide : ℕ → Bytes 64) {ys : List G} {n : ℕ}
    (hn : ys.length = n) :
    commitLoop h t wide ys n 0 0
        ⟨List.replicate n 0, List.replicate n 0, List.replicate n 0, (0 : ZMod q)⟩ =
      .ok (Vectors.filled (roleBranches (q := q) h t wide 0 0 ys).1 0
        (roleBranches (q := q) h t wide 0 0 ys).2) := by
  have hloop := commitLoop_eq (q := q) h t wide ys (i := 0) 0 [] (w := 0) rfl
    ((Nat.zero_add n).trans hn.symm) (fun _ => rfl)
  rwa [if_pos (Nat.zero_le t), List.drop_zero, List.nil_append] at hloop

omit [AddCommGroup G] [Module (ZMod q) G] in
/-- The branches read out after the true one is stored are the answer. -/
theorem collectBranches_answer (master w blind : ZMod q) (t : ℕ) (bs : List (SetBranch q G)) :
    collectBranches (bs.map Branch.a)
        ((bs.map Branch.c).set t (master - ((bs.eraseIdx t).map Branch.c).sum))
        ((bs.map Branch.s).set t (w + (master - ((bs.eraseIdx t).map Branch.c).sum) * blind))
        (List.range bs.length) = .ok (Branch.answer master w blind t bs) := by
  have hlength : (Branch.answer master w blind t bs).length = bs.length := by
    rw [Branch.answer, List.length_modify]
  have hc : (Branch.answer master w blind t bs).map Branch.c =
      (bs.map Branch.c).set t (master - ((bs.eraseIdx t).map Branch.c).sum) :=
    map_modify_eq_set (g := Branch.c) (by simp [Branch.challengeSum]) bs t
  have hs : (Branch.answer master w blind t bs).map Branch.s = (bs.map Branch.s).set t
      (w + (master - ((bs.eraseIdx t).map Branch.c).sum) * blind) :=
    map_modify_eq_set (g := Branch.s) (by simp [Branch.challengeSum]) bs t
  have hout := collectBranches_eq (Branch.answer master w blind t bs)
  rwa [Branch.map_a_answer, hc, hs, hlength] at hout

/-- The prover of a role in the list hashes its commitments and completes its own branch. -/
theorem proveRoleSetMembership_of_mem {wide : ℕ → Bytes 64} {b : RoleSetBinding G}
    {roleCode : UInt64} {blindPrime : ZMod q} {t : ℕ}
    (ht : b.allowedRoles.idxOf? roleCode = some t) :
    proveRoleSetMembership S wide b roleCode blindPrime = (do
      let r := roleBranches S.attrH t wide 0 0 (yPoints S b)
      let master ← roleSetChallenge S b (r.1.map Branch.a)
      return Branch.answer master r.2 blindPrime t r.1) := by
  have htlt : t < b.allowedRoles.length := (List.idxOf?_eq_some_iff.mp ht).1
  have hloop := commitLoop_zeros (q := q) S.attrH t wide
    (show (yPoints S b).length = b.allowedRoles.length by simp [yPoints])
  have hlen : (roleBranches (q := q) S.attrH t wide 0 0 (yPoints S b)).1.length =
      b.allowedRoles.length := by simp [yPoints]
  simp only [proveRoleSetMembership, attrH_eq, Except.ok_bind', ht, hloop]
  generalize roleBranches (q := q) S.attrH t wide 0 0 (yPoints S b) = r at hlen
  simp only [Vectors.filled, List.replicate_zero, List.append_nil]
  cases roleSetChallenge S b (r.1.map Branch.a) with
  | error e => rfl
  | ok master =>
      have hstore : ∀ (xs : List (ZMod q)) (x : ZMod q), xs.length = b.allowedRoles.length →
          SliceOp.store xs t x = .ok (xs.set t x) := fun xs x hxs =>
        SliceOp.store_of_lt (by rw [hxs]; exact htlt) x
      rw [Except.ok_bind', Except.ok_bind', simulatedChallenges_map,
        hstore _ _ (by rw [List.length_map, hlen]), hstore _ _ (by rw [List.length_map, hlen]),
        orPanic_ok, orPanic_ok, Except.ok_bind', Except.ok_bind', Except.pure_eq_ok, ← hlen]
      exact collectBranches_answer master r.2 blindPrime t r.1

/-- A role outside the list is a panic. -/
theorem proveRoleSetMembership_of_not_mem {b : RoleSetBinding G} {roleCode : UInt64}
    (ht : b.allowedRoles.idxOf? roleCode = none) (wide : ℕ → Bytes 64) (blindPrime : ZMod q) :
    proveRoleSetMembership S wide b roleCode blindPrime =
      .error (.panic "role not in allowed_roles") := by
  simp only [proveRoleSetMembership, attrH_eq, Except.ok_bind', ht]
  rfl

/-- With few enough roles the prover is the prover without panics, a role outside the list apart,
which is a panic of both. -/
theorem proveRoleSetMembership_eq {b : RoleSetBinding G}
    (hr : b.allowedRoles.length ≤ maxProvableRoles) (wide : ℕ → Bytes 64) (roleCode : UInt64)
    (blindPrime : ZMod q) : proveRoleSetMembership S wide b roleCode blindPrime =
      Rust.proveRoleSetMembership S wide b roleCode blindPrime := by
  cases ht : b.allowedRoles.idxOf? roleCode with
  | none => rw [proveRoleSetMembership_of_not_mem S ht, Rust.proveRoleSetMembership, ht]
  | some t =>
      rw [proveRoleSetMembership_of_mem S ht, Rust.proveRoleSetMembership, ht]
      simp only [roleSetChallenge_eq S ((roleBranches S.attrH t wide 0 0
        (yPoints S b)).1.map Branch.a) hr (by simpa [yPoints] using hr)]
      rfl

/-- However many roles there are, the prover panics or builds one branch per role. -/
theorem proveRoleSetMembership_cases (wide : ℕ → Bytes 64) (b : RoleSetBinding G)
    (roleCode : UInt64) (blindPrime : ZMod q) :
    (∃ m, proveRoleSetMembership S wide b roleCode blindPrime = .error (.panic m)) ∨
    roleCode ∈ b.allowedRoles ∧ ∃ bs, proveRoleSetMembership S wide b roleCode blindPrime = .ok bs ∧
      bs.length = b.allowedRoles.length := by
  cases ht : b.allowedRoles.idxOf? roleCode with
  | none => exact .inl ⟨_, proveRoleSetMembership_of_not_mem S ht wide blindPrime⟩
  | some t =>
      rw [proveRoleSetMembership_of_mem S ht]
      have hfail := challenge_failsWith S tRoleSet (roleSetFields S b
        ((roleBranches (q := q) S.attrH t wide 0 0 (yPoints S b)).1.map Branch.a))
      simp only [roleSetChallenge]
      cases hc : challenge S tRoleSet (roleSetFields S b
          ((roleBranches (q := q) S.attrH t wide 0 0 (yPoints S b)).1.map Branch.a)) with
      | error e =>
          obtain ⟨m, rfl⟩ := hfail e hc
          exact .inl ⟨m, rfl⟩
      | ok master =>
          refine .inr ⟨?_, _, rfl, by simp [Branch.answer, yPoints]⟩
          obtain ⟨hlt, heq, -⟩ := List.idxOf?_eq_some_iff.mp ht
          exact heq ▸ List.getElem_mem hlt

end ZkArche.Rust.Checked
