import Mathlib.Algebra.Field.Basic
import Mathlib.Algebra.GroupWithZero.Action.Units
import Mathlib.Algebra.Module.Basic
import Mathlib.Algebra.BigOperators.Group.List.Basic
import Mathlib.Tactic.Abel

/-!
# The algebra of Schnorr proofs and their disjunctions

Over a module `G` of a commutative ring `R`, a *Schnorr equation* for a statement `P` at
the generator `g` is `s • g = a + c • P`, for a commitment `a`, a challenge `c` and a
response `s`.  A prover who knows `x` with `P = x • g` answers any challenge
(`SchnorrEq.honest`).  A prover who picks challenge and response first can satisfy the
equation for any statement (`SchnorrEq.simulated`).

A *disjunction* of statements is proved by one equation per statement whose challenges
add up to a master challenge.  The prover simulates every branch but one, and the
challenge left for the true branch is what the sum requires.  `answer` completes such a
list of branches and `answer_complete` says that the result satisfies every equation and
has the right sum.

Over a field two answers to one commitment give the witness away (`SchnorrEq.extract`).  Two
proofs of a disjunction with the same commitments and different sums differ in some branch,
and that branch gives its witness away (`Branch.extract_spec`).
-/

/-- The verifier's equation of a Schnorr proof. -/
def SchnorrEq {R G : Type} [CommRing R] [AddCommGroup G] [Module R G] (g P a : G) (c s : R) :
    Prop :=
  s • g = a + c • P

namespace SchnorrEq

variable {R G : Type} [CommRing R] [AddCommGroup G] [Module R G]

/-- Knowing the discrete logarithm answers every challenge. -/
theorem honest (g : G) (x r c : R) : SchnorrEq g (x • g) (r • g) c (r + c * x) := by
  unfold SchnorrEq
  rw [add_smul, mul_smul]

/-- Choosing challenge and response first satisfies the equation for any statement. -/
theorem simulated (g P : G) (c s : R) : SchnorrEq g P (s • g - c • P) c s := by
  unfold SchnorrEq
  rw [sub_add_cancel]

end SchnorrEq

/-! ## Disjunctions -/

/-- One branch of a disjunction: commitment, challenge and response. -/
structure Branch (R G : Type) where
  a : G
  c : R
  s : R
deriving DecidableEq

namespace Branch

variable {R G : Type} [CommRing R] [AddCommGroup G] [Module R G]

/-- Every branch satisfies the equation of its statement. -/
def AllAccept (h : G) (bs : List (Branch R G)) (ys : List G) : Prop :=
  List.Forall₂ (fun b y => SchnorrEq h y b.a b.c b.s) bs ys

/-- The sum of the challenges. -/
def challengeSum (bs : List (Branch R G)) : R := (bs.map Branch.c).sum

/-- Complete the branch `t`: its challenge is what the others leave of `master`, and its
response is that of a prover with nonce `w` and witness `x`. -/
def answer (master w x : R) (t : ℕ) (bs : List (Branch R G)) : List (Branch R G) :=
  let cTrue := master - challengeSum (bs.eraseIdx t)
  bs.modify t fun b => ⟨b.a, cTrue, w + cTrue * x⟩

/-- Every branch but `t` satisfies its equation, and the branch `t` commits to `w` for the
statement `x • h`. -/
def Prepared (h : G) (w x : R) (t : ℕ) (bs : List (Branch R G)) (ys : List G) : Prop :=
  bs.length = ys.length ∧
    ∀ i b y, bs[i]? = some b → ys[i]? = some y →
      if i = t then b.a = w • h ∧ y = x • h else SchnorrEq h y b.a b.c b.s

omit [AddCommGroup G] [Module R G] in
theorem challengeSum_modify (c s : R) :
    ∀ (t : ℕ) (bs : List (Branch R G)), t < bs.length →
      challengeSum (bs.modify t fun b => ⟨b.a, c, s⟩) = c + challengeSum (bs.eraseIdx t)
  | 0, b :: bs, _ => by simp [challengeSum]
  | t + 1, b :: bs, h => by
      have ih := challengeSum_modify c s t bs (by simpa using h)
      simp only [challengeSum] at ih ⊢
      simp only [List.modify_succ_cons, List.map_cons, List.sum_cons, List.eraseIdx_cons_succ,
        ih]
      abel

/-- Completing a prepared list gives a proof of the disjunction. -/
theorem answer_complete (master : R) {h : G} {w x : R} {t : ℕ} {bs : List (Branch R G)}
    {ys : List G} (ht : t < bs.length) (hp : Prepared h w x t bs ys) :
    AllAccept h (answer master w x t bs) ys ∧ challengeSum (answer master w x t bs) = master := by
  constructor
  · rw [AllAccept, List.forall₂_iff_get]
    refine ⟨by simp [answer, hp.1], ?_⟩
    intro i hi hy
    have hi' : i < bs.length := by simpa [answer] using hi
    have hb := hp.2 i bs[i] ys[i] (List.getElem?_eq_getElem hi') (List.getElem?_eq_getElem hy)
    simp only [answer, List.get_eq_getElem, List.getElem_modify]
    by_cases hit : t = i
    · subst hit
      rw [if_pos rfl] at hb ⊢
      obtain ⟨ha, hyx⟩ := hb
      rw [ha, hyx]
      exact SchnorrEq.honest h x w _
    · rw [if_neg (Ne.symm hit)] at hb
      rw [if_neg hit]
      exact hb
  · rw [answer, challengeSum_modify _ _ t bs ht]
    abel

end Branch

/-! ## Extraction -/

section Extraction

variable {R G : Type} [Field R] [AddCommGroup G] [Module R G]

/-- The witness that two answers `(c, s)` to one commitment give away. -/
def extractWitness (x x' : R × R) : R := (x.2 - x'.2) / (x.1 - x'.1)

theorem SchnorrEq.extract {g P a : G} {c s c' s' : R} (h : SchnorrEq g P a c s)
    (h' : SchnorrEq g P a c' s') (hne : c ≠ c') : P = extractWitness (c, s) (c', s') • g := by
  have hdiff : (c - c') • P = (s - s') • g := by
    unfold SchnorrEq at h h'
    rw [sub_smul, sub_smul, h, h']
    abel
  have hne0 : c - c' ≠ 0 := sub_ne_zero.mpr hne
  calc
    P = (c - c')⁻¹ • (c - c') • P := (inv_smul_smul₀ hne0 P).symm
    _ = (c - c')⁻¹ • (s - s') • g := by rw [hdiff]
    _ = extractWitness (c, s) (c', s') • g := by
      rw [extractWitness, div_eq_inv_mul, mul_smul]

namespace Branch

/-- The challenge and the response. -/
def answers (b : Branch R G) : R × R := (b.c, b.s)

/-- The first branch whose two challenges differ, with the witness it gives away. -/
def extract [DecidableEq R] : List (R × R) → List (R × R) → Option (ℕ × R)
  | x :: xs, x' :: xs' =>
      if x.1 = x'.1 then (extract xs xs').map fun r => (r.1 + 1, r.2)
      else some (0, extractWitness x x')
  | _, _ => none

/-- Two proofs with the same commitments and different sums give a witness away. -/
theorem extract_spec [DecidableEq R] {h : G} {bs bs' : List (Branch R G)} {ys : List G}
    (hacc : AllAccept h bs ys) (hacc' : AllAccept h bs' ys)
    (ha : bs.map Branch.a = bs'.map Branch.a) (hsum : challengeSum bs ≠ challengeSum bs') :
    ∃ i w, extract (bs.map answers) (bs'.map answers) = some (i, w) ∧ ys[i]? = some (w • h) := by
  induction hacc generalizing bs' with
  | nil =>
      cases hacc'
      exact absurd rfl hsum
  | @cons b y bs ys hb hacc ih =>
      cases hacc' with
      | @cons b' _ bs' _ hb' hacc' =>
          simp only [List.map_cons, List.cons.injEq] at ha
          rw [List.map_cons, List.map_cons, extract]
          by_cases hc : b.c = b'.c
          · -- equal challenges here, so the rest of the sums differ
            have hrest : challengeSum bs ≠ challengeSum bs' := by
              intro he
              apply hsum
              simp only [challengeSum, List.map_cons, List.sum_cons] at he ⊢
              rw [hc, he]
            obtain ⟨i, w, hi, hy⟩ := ih hacc' ha.2 hrest
            refine ⟨i + 1, w, ?_, ?_⟩
            · rw [if_pos (show (answers b).1 = (answers b').1 from hc), hi]
              rfl
            · rw [List.getElem?_cons_succ]
              exact hy
          · refine ⟨0, extractWitness (answers b) (answers b'), ?_, ?_⟩
            · rw [if_neg (show ¬ (answers b).1 = (answers b').1 from hc)]
            · rw [List.getElem?_cons_zero]
              rw [← ha.1] at hb'
              exact congrArg some (SchnorrEq.extract hb hb' hc)

end Branch

end Extraction
