import ZkArche.Lib.SigmaAlgebra

/-!
# The prover of a disjunction

The prover of a disjunction draws one nonce for the branch it has a witness for and two values
for every other branch, in the order of the branches.  `prove` is the whole prover, with the
master challenge an arbitrary function of the commitments.

A proof that satisfies the equations has exactly one preimage for each witness.  `drawsOf`
reads it off the proof: the two draws of a simulated branch are its challenge and response, and
the nonce of the true branch is `s - c * x`.  So the draws of a prover with one witness can be
rearranged into draws of a prover with another one, which then builds the same proof
(`prove_rearrange`).  The proofs do not tell the two provers apart.
-/

namespace Branch

variable {R G : Type} [CommRing R] [AddCommGroup G] [Module R G]

/-! ## The prover -/

/-- The commitments.  `i` is the next branch and `k` the number of draws made so far.  The
second component is the nonce of the true branch `t`. -/
def commit (h : G) (t : ℕ) (draw : ℕ → R) : ℕ → ℕ → List G → List (Branch R G) × R
  | _, _, [] => ([], 0)
  | i, k, y :: ys =>
      if i = t then
        (⟨draw k • h, 0, 0⟩ :: (commit h t draw (i + 1) (k + 1) ys).1, draw k)
      else
        let rest := commit h t draw (i + 1) (k + 2) ys
        (⟨draw (k + 1) • h - draw k • y, draw k, draw (k + 1)⟩ :: rest.1, rest.2)

/-- The proof of a prover with the witness `x` for the branch `t`. -/
def prove (h : G) (master : List G → R) (x : R) (t : ℕ) (draw : ℕ → R) (ys : List G) :
    List (Branch R G) :=
  let r := commit h t draw 0 0 ys
  answer (master (r.1.map Branch.a)) r.2 x t r.1

@[simp] theorem commit_length (h : G) (t : ℕ) (draw : ℕ → R) (i k : ℕ) (ys : List G) :
    (commit h t draw i k ys).1.length = ys.length := by
  induction ys generalizing i k with
  | nil => rfl
  | cons y ys ih =>
      unfold commit
      split <;> simp [ih]

/-- Every branch but the true one satisfies its equation, and the true one commits to the
nonce. -/
theorem commit_spec (h : G) (t : ℕ) (draw : ℕ → R) (i k : ℕ) (ys : List G) (j : ℕ)
    (br : Branch R G) (y : G) (hb : (commit h t draw i k ys).1[j]? = some br)
    (hy : ys[j]? = some y) :
    if i + j = t then br.a = (commit h t draw i k ys).2 • h
    else SchnorrEq h y br.a br.c br.s := by
  induction ys generalizing i k j with
  | nil => simp at hy
  | cons y₀ ys ih =>
      unfold commit at hb ⊢
      cases j with
      | zero =>
          simp only [List.getElem?_cons_zero, Option.some.injEq] at hy
          subst hy
          by_cases hit : i = t
          · simp only [hit, if_true, List.getElem?_cons_zero, Option.some.injEq] at hb
            subst hb
            simp [hit]
          · simp only [hit, if_false, List.getElem?_cons_zero, Option.some.injEq] at hb
            subst hb
            simpa [hit] using SchnorrEq.simulated h _ _ _
      | succ j =>
          rw [List.getElem?_cons_succ] at hy
          by_cases hit : i = t
          · -- past the true branch every later index differs from it
            simp only [hit, if_true, List.getElem?_cons_succ] at hb
            have h1 := ih (t + 1) (k + 1) j hb hy
            have hne : ¬ t + 1 + j = t := by omega
            have hne' : ¬ i + (j + 1) = t := by omega
            rw [if_neg hne] at h1
            rw [if_neg hne']
            exact h1
          · simp only [hit, if_false, List.getElem?_cons_succ] at hb
            have h1 := ih (i + 1) (k + 2) j hb hy
            rw [show i + 1 + j = i + (j + 1) by omega] at h1
            simpa only [hit, if_false] using h1

omit [AddCommGroup G] [Module R G] in
theorem map_a_answer (master w x : R) (t : ℕ) (bs : List (Branch R G)) :
    (answer master w x t bs).map Branch.a = bs.map Branch.a := by
  apply List.ext_getElem
  · simp [answer]
  · intro n h1 h2
    simp only [answer, List.getElem_map, List.getElem_modify]
    split <;> rfl

/-- The prover builds a proof of the disjunction. -/
theorem prove_complete {h : G} (master : List G → R) (draw : ℕ → R) {x : R} {t : ℕ}
    {ys : List G} (hx : ys[t]? = some (x • h)) :
    AllAccept h (prove h master x t draw ys) ys ∧
      challengeSum (prove h master x t draw ys)
        = master ((prove h master x t draw ys).map Branch.a) := by
  have ht : t < ys.length := (List.getElem?_eq_some_iff.mp hx).1
  have hprep : Prepared h (commit h t draw 0 0 ys).2 x t (commit h t draw 0 0 ys).1 ys := by
    refine ⟨commit_length h t draw 0 0 ys, ?_⟩
    intro i br y hb hy
    have h1 := commit_spec h t draw 0 0 ys i br y hb hy
    rw [Nat.zero_add] at h1
    by_cases hit : i = t
    · rw [if_pos hit] at h1 ⊢
      rw [hit, hx] at hy
      exact ⟨h1, (Option.some.inj hy).symm⟩
    · rwa [if_neg hit] at h1 ⊢
  obtain ⟨hacc, hsum⟩ := answer_complete (master ((commit h t draw 0 0 ys).1.map Branch.a))
    (by rwa [commit_length]) hprep
  refine ⟨hacc, hsum.trans ?_⟩
  rw [prove, map_a_answer]

/-! ## The draws behind a proof -/

/-- The draws with which the prover with the witness `x` for the branch `t` builds the proof. -/
def drawsOf (x : R) (t : ℕ) : ℕ → List (Branch R G) → List R
  | _, [] => []
  | i, b :: bs =>
      if i = t then (b.s - b.c * x) :: drawsOf x t (i + 1) bs
      else b.c :: b.s :: drawsOf x t (i + 1) bs

omit [AddCommGroup G] [Module R G] in
theorem drawsOf_length_past (x : R) {t i : ℕ} (bs : List (Branch R G)) (hi : t < i) :
    (drawsOf x t i bs).length = 2 * bs.length := by
  induction bs generalizing i with
  | nil => rfl
  | cons b bs ih =>
      have hne : ¬ i = t := by omega
      rw [drawsOf, if_neg hne, List.length_cons, List.length_cons, ih (by omega), List.length_cons]
      omega

omit [AddCommGroup G] [Module R G] in
theorem drawsOf_length (x : R) {j : ℕ} (i : ℕ) {bs : List (Branch R G)} (hj : j < bs.length) :
    (drawsOf x (i + j) i bs).length = 2 * bs.length - 1 := by
  induction bs generalizing i j with
  | nil => simp at hj
  | cons b bs ih =>
      rw [List.length_cons] at hj ⊢
      cases j with
      | zero =>
          rw [Nat.add_zero, drawsOf, if_pos rfl, List.length_cons,
            drawsOf_length_past x bs (Nat.lt_succ_self i)]
          omega
      | succ j =>
          have hne : ¬ i = i + (j + 1) := by omega
          have hrest := @ih j (i + 1) (by omega)
          rw [show i + 1 + j = i + (j + 1) by omega] at hrest
          rw [drawsOf, if_neg hne, List.length_cons, List.length_cons, hrest]
          omega

/-- The draws from the `k`-th on are these. -/
def DrawsAt (draw : ℕ → R) (k : ℕ) (ds : List R) : Prop := ∀ m d, ds[m]? = some d → draw (k + m) = d

omit [CommRing R] in
theorem DrawsAt.head {draw : ℕ → R} {k : ℕ} {d : R} {ds : List R} (h : DrawsAt draw k (d :: ds)) :
    draw k = d := h 0 d rfl

omit [CommRing R] in
theorem DrawsAt.tail {draw : ℕ → R} {k : ℕ} {d : R} {ds : List R} (h : DrawsAt draw k (d :: ds)) :
    DrawsAt draw (k + 1) ds := by
  intro m d' hm
  rw [Nat.add_assoc, Nat.add_comm 1 m]
  exact h (m + 1) d' hm

/-- A simulated branch is rebuilt from its challenge and response. -/
theorem eq_simulated {h y : G} {b : Branch R G} (hb : SchnorrEq h y b.a b.c b.s) :
    (⟨b.s • h - b.c • y, b.c, b.s⟩ : Branch R G) = b := by
  have ha : b.s • h - b.c • y = b.a := by
    unfold SchnorrEq at hb
    rw [hb, add_sub_cancel_right]
  rw [ha]

/-- Past the true branch the commitments of the rebuilt proof are the proof. -/
theorem commit_past {h : G} {x : R} {t : ℕ} {draw : ℕ → R} {bs : List (Branch R G)}
    {ys : List G} (hacc : AllAccept h bs ys) {i k : ℕ} (hi : t < i)
    (hd : DrawsAt draw k (drawsOf x t i bs)) : commit h t draw i k ys = (bs, 0) := by
  induction hacc generalizing i k with
  | nil => rfl
  | @cons b y bs ys hb _ ih =>
      have hne : ¬ i = t := by omega
      rw [drawsOf, if_neg hne] at hd
      rw [commit, if_neg hne, ih (by omega) hd.tail.tail, hd.head, hd.tail.head, eq_simulated hb]

/-- Up to the true branch they are the proof, with the answer of the true branch missing. -/
theorem commit_upto {h : G} {x : R} {j : ℕ} {draw : ℕ → R} {bs : List (Branch R G)}
    {ys : List G} (hacc : AllAccept h bs ys) {i k : ℕ} (hx : ys[j]? = some (x • h))
    (hd : DrawsAt draw k (drawsOf x (i + j) i bs)) :
    ∃ b, bs[j]? = some b ∧
      commit h (i + j) draw i k ys = (bs.modify j fun b => ⟨b.a, 0, 0⟩, b.s - b.c * x) := by
  induction hacc generalizing i j k with
  | nil => simp at hx
  | @cons b y bs ys hb hacc ih =>
      cases j with
      | zero =>
          refine ⟨b, rfl, ?_⟩
          simp only [List.getElem?_cons_zero, Option.some.injEq] at hx
          rw [Nat.add_zero] at hd ⊢
          rw [drawsOf, if_pos rfl] at hd
          have ha : (b.s - b.c * x) • h = b.a := by
            unfold SchnorrEq at hb
            rw [sub_smul, mul_smul, ← hx, hb, add_sub_cancel_right]
          rw [commit, if_pos rfl, commit_past hacc (Nat.lt_succ_self i) hd.tail, hd.head, ha]
          rfl
      | succ j =>
          have hne : ¬ i = i + (j + 1) := by omega
          rw [drawsOf, if_neg hne] at hd
          rw [List.getElem?_cons_succ] at hx
          rw [show i + (j + 1) = i + 1 + j by omega] at hd hne ⊢
          obtain ⟨b', hb', hrest⟩ := ih hx hd.tail.tail
          refine ⟨b', hb', ?_⟩
          rw [commit, if_neg hne, hrest, hd.head, hd.tail.head, eq_simulated hb]
          rfl

omit [CommRing R] [AddCommGroup G] [Module R G] in
theorem modify_eq_self_of {f : Branch R G → Branch R G} {t : ℕ} {bs : List (Branch R G)}
    (h : ∀ b, bs[t]? = some b → f b = b) : bs.modify t f = bs := by
  apply List.ext_getElem?
  intro n
  rw [List.getElem?_modify]
  by_cases hn : t = n
  · subst hn
    cases hb : bs[t]? with
    | none => rfl
    | some b => simp [h b hb]
  · simp [hn]

/-- The prover rebuilds an accepted proof from its draws. -/
theorem prove_of_drawsOf {h : G} {master : List G → R} {x : R} {t : ℕ} {draw : ℕ → R}
    {bs : List (Branch R G)} {ys : List G} (hacc : AllAccept h bs ys)
    (hsum : challengeSum bs = master (bs.map Branch.a)) (hx : ys[t]? = some (x • h))
    (hd : DrawsAt draw 0 (drawsOf x t 0 bs)) : prove h master x t draw ys = bs := by
  have hd' : DrawsAt draw 0 (drawsOf x (0 + t) 0 bs) := by rwa [Nat.zero_add]
  obtain ⟨b, hb, hcommit⟩ := commit_upto hacc hx hd'
  rw [Nat.zero_add] at hcommit
  have hmap : (bs.modify t fun b => (⟨b.a, 0, 0⟩ : Branch R G)).map Branch.a = bs.map Branch.a := by
    apply List.ext_getElem
    · simp
    · intro n h1 h2
      simp only [List.getElem_map, List.getElem_modify]
      split <;> rfl
  have hsame : ∀ b', bs[t]? = some b' → b' = b := by
    intro b' hb'
    exact Option.some.inj (hb'.symm.trans hb)
  -- the challenge left for the true branch is the one it had
  have hleft : challengeSum bs - challengeSum (bs.eraseIdx t) = b.c := by
    have hmod := challengeSum_modify b.c b.s t bs (List.getElem?_eq_some_iff.mp hb).1
    rw [modify_eq_self_of fun b' hb' => by rw [hsame b' hb']] at hmod
    rw [hmod, add_sub_cancel_right]
  rw [prove, hcommit, answer, List.eraseIdx_modify_of_eq, hmap, ← hsum, hleft,
    List.modify_modify_eq]
  apply modify_eq_self_of
  intro b' hb'
  simp [hsame b' hb']

theorem drawsOf_commit_past (h : G) (x : R) {t : ℕ} (draw : ℕ → R) {i : ℕ} (k : ℕ)
    (ys : List G) (hi : t < i) :
    drawsOf x t i (commit h t draw i k ys).1 = (List.range' k (2 * ys.length)).map draw := by
  induction ys generalizing i k with
  | nil => rfl
  | cons y ys ih =>
      have hne : ¬ i = t := by omega
      have hlen : 2 * (y :: ys).length = 2 * ys.length + 1 + 1 := by
        rw [List.length_cons]
        omega
      rw [commit, if_neg hne, drawsOf, if_neg hne, ih (k + 2) (by omega), hlen, List.range'_succ,
        List.range'_succ]
      rfl

theorem drawsOf_answer_upto (h : G) (x c : R) {j : ℕ} (draw : ℕ → R) (i k : ℕ) (ys : List G)
    (hj : j < ys.length) :
    drawsOf x (i + j) i ((commit h (i + j) draw i k ys).1.modify j fun b =>
        ⟨b.a, c, (commit h (i + j) draw i k ys).2 + c * x⟩)
      = (List.range' k (2 * ys.length - 1)).map draw := by
  induction ys generalizing i j k with
  | nil => simp at hj
  | cons y ys ih =>
      rw [List.length_cons] at hj
      cases j with
      | zero =>
          have hlen : 2 * (y :: ys).length - 1 = 2 * ys.length + 1 := by
            rw [List.length_cons]
            omega
          rw [Nat.add_zero, commit, if_pos rfl, List.modify_zero_cons, drawsOf, if_pos rfl,
            drawsOf_commit_past h x draw (k + 1) ys (Nat.lt_succ_self i), hlen, List.range'_succ,
            add_sub_cancel_right]
          rfl
      | succ j =>
          have hne : ¬ i = i + (j + 1) := by omega
          have hlen : 2 * (y :: ys).length - 1 = 2 * ys.length - 1 + 1 + 1 := by
            rw [List.length_cons]
            omega
          have hrest := @ih j (i + 1) (k + 2) (by omega)
          rw [show i + 1 + j = i + (j + 1) by omega] at hrest
          rw [commit, if_neg hne, List.modify_succ_cons, drawsOf, if_neg hne, hlen,
            List.range'_succ, List.range'_succ]
          simp only [List.map_cons]
          rw [hrest]

/-- The draws behind the proof of a prover are its draws. -/
theorem drawsOf_prove {h : G} {master : List G → R} {x : R} {t : ℕ} (draw : ℕ → R)
    {ys : List G} (ht : t < ys.length) :
    drawsOf x t 0 (prove h master x t draw ys) = (List.range (2 * ys.length - 1)).map draw := by
  have hdraws := drawsOf_answer_upto h x (master ((commit h t draw 0 0 ys).1.map Branch.a)
    - challengeSum ((commit h t draw 0 0 ys).1.eraseIdx t)) draw 0 0 ys ht
  rw [Nat.zero_add] at hdraws
  rw [List.range_eq_range', ← hdraws]
  rfl

/-- A proof depends on one draw for the true branch and two for every other one. -/
theorem prove_congr {h : G} {master : List G → R} {x : R} {t : ℕ} {draw draw' : ℕ → R}
    {ys : List G} (hx : ys[t]? = some (x • h))
    (hd : ∀ k < 2 * ys.length - 1, draw' k = draw k) :
    prove h master x t draw' ys = prove h master x t draw ys := by
  obtain ⟨hacc, hsum⟩ := prove_complete master draw hx
  apply prove_of_drawsOf hacc hsum hx
  rw [drawsOf_prove draw (List.getElem?_eq_some_iff.mp hx).1]
  intro m d hm
  rw [List.getElem?_map, Option.map_eq_some_iff] at hm
  obtain ⟨k, hk, rfl⟩ := hm
  obtain ⟨hlt, rfl⟩ := List.getElem?_eq_some_iff.mp hk
  rw [List.getElem_range, Nat.zero_add]
  exact hd m (by simpa using hlt)

/-! ## Provers with different witnesses -/

/-- Finitely many draws, and zero after them. -/
def extend {m : ℕ} (ω : Fin m → R) (k : ℕ) : R := if hk : k < m then ω ⟨k, hk⟩ else 0

/-- The draws with which the second prover builds the proof of the first. -/
def rearrange {m : ℕ} (h : G) (master : List G → R) (ys : List G) (x : R) (t : ℕ) (x' : R)
    (t' : ℕ) (ω : Fin m → R) : Fin m → R :=
  fun i => (drawsOf x' t' 0 (prove h master x t (extend ω) ys)).getD i 0

variable {h : G} {master : List G → R} {ys : List G} {x x' : R} {t t' m : ℕ}

/-- The second prover builds the proof of the first. -/
theorem prove_rearrange (hm : m = 2 * ys.length - 1) (hx : ys[t]? = some (x • h))
    (hx' : ys[t']? = some (x' • h)) (ω : Fin m → R) :
    prove h master x' t' (extend (rearrange h master ys x t x' t' ω)) ys
      = prove h master x t (extend ω) ys := by
  obtain ⟨hacc, hsum⟩ := prove_complete master (extend ω) hx
  apply prove_of_drawsOf hacc hsum hx'
  have hlen : (drawsOf x' t' 0 (prove h master x t (extend ω) ys)).length = m := by
    have ht' : t' < (prove h master x t (extend ω) ys).length := by
      rw [hacc.length_eq]
      exact (List.getElem?_eq_some_iff.mp hx').1
    have hdraws := drawsOf_length x' 0 ht'
    rwa [Nat.zero_add, hacc.length_eq, ← hm] at hdraws
  intro n d hn
  have hlt : n < m := by
    rw [← hlen]
    exact (List.getElem?_eq_some_iff.mp hn).1
  rw [Nat.zero_add, extend, dif_pos hlt, rearrange, List.getD_eq_getElem?_getD, hn]
  rfl

/-- Rearranging back gives the draws of the first prover. -/
theorem rearrange_rearrange (hm : m = 2 * ys.length - 1) (hx : ys[t]? = some (x • h))
    (hx' : ys[t']? = some (x' • h)) (ω : Fin m → R) :
    rearrange h master ys x' t' x t (rearrange h master ys x t x' t' ω) = ω := by
  have ht : t < ys.length := (List.getElem?_eq_some_iff.mp hx).1
  funext i
  have hi : (List.range (2 * ys.length - 1))[i.val]? = some i.val := by
    rw [← hm]
    exact List.getElem?_range i.isLt
  rw [rearrange, prove_rearrange hm hx hx', drawsOf_prove _ ht, List.getD_eq_getElem?_getD,
    List.getElem?_map, hi]
  simp [extend]

/-- The draws of one prover correspond to the draws of the other with the same proof. -/
def rearrangeEquiv (master : List G → R) (hm : m = 2 * ys.length - 1)
    (hx : ys[t]? = some (x • h)) (hx' : ys[t']? = some (x' • h)) : (Fin m → R) ≃ (Fin m → R) where
  toFun := rearrange h master ys x t x' t'
  invFun := rearrange h master ys x' t' x t
  left_inv := rearrange_rearrange hm hx hx'
  right_inv := rearrange_rearrange hm hx' hx

end Branch
