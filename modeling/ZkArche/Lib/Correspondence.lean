import Mathlib.Data.List.Basic
import Mathlib.Tactic.Push

/-!
# Correspondence between events of a history

Some events of a history *open* a key with a record, and some *close* a key.  A key is open
with a record when an event opened it and no later event opened it again or closed it
(`Open`).  A history corresponds when every event that uses a key finds it open, with a
record that suits the event (`Corresponds`).

If the closing events use their keys, they are mapped to the latest earlier events that
opened them, and no two of them to the same one (`Corresponds.exists_matching`).

Histories are listed newest first.  Positions count from the oldest event.
-/

namespace Correspondence

variable {ε κ ρ : Type} (opens : ε → Option (κ × ρ)) (closes : ε → Option κ)

/-- The event concerns the key: it opens it, with whatever record, or closes it. -/
def Touches (k : κ) (e : ε) : Prop := (∃ r, opens e = some (k, r)) ∨ closes e = some k

/-- The key is open with the record. -/
def Open : List ε → κ → ρ → Prop
  | [], _, _ => False
  | e :: h, k, r => opens e = some (k, r) ∨ (¬ Touches opens closes k e ∧ Open h k r)

/-- Every event that uses a key finds it open with a suitable record. -/
def Corresponds (uses : ε → κ → Prop) (ok : ρ → ε → Prop) : List ε → Prop
  | [] => True
  | e :: h => (∀ k, uses e k → ∃ r, Open opens closes h k r ∧ ok r e) ∧ Corresponds uses ok h

/-- The event at position `j` is the latest before position `i` that opened the key, and the
key was not closed in between. -/
structure Opener (run : List ε) (k : κ) (r : ρ) (i j : ℕ) : Prop where
  earlier : j < i
  opened : ∃ x, run[j]? = some x ∧ opens x = some (k, r)
  latest : ∀ n y, j < n → n < i → run[n]? = some y → ¬ Touches opens closes k y

variable {opens closes} {uses : ε → κ → Prop} {ok : ρ → ε → Prop}

/-- An event that does not concern the key leaves it open. -/
theorem Open.skip {h : List ε} {k : κ} {r : ρ} {e : ε} (ho : Open opens closes h k r)
    (he : ¬ Touches opens closes k e) : Open opens closes (e :: h) k r := .inr ⟨he, ho⟩

theorem not_touches {e : ε} {k : κ} (hop : ∀ r, opens e ≠ some (k, r))
    (hcl : closes e ≠ some k) : ¬ Touches opens closes k e := by
  rintro (⟨r, h⟩ | h)
  · exact hop r h
  · exact hcl h

variable (opens closes) in
/-- Whatever a store holds is open. -/
def Stored (h : List ε) (holds : κ → ρ → Prop) : Prop :=
  ∀ k r, holds k r → Open opens closes h k r

/-- What a store holds after an event was opened by it, or was held before and is not
concerned. -/
theorem Stored.step {h : List ε} {holds holds' : κ → ρ → Prop} {e : ε}
    (hs : Stored opens closes h holds)
    (hstep : ∀ k r, holds' k r → opens e = some (k, r) ∨
      holds k r ∧ (∀ r', opens e ≠ some (k, r')) ∧ closes e ≠ some k) :
    Stored opens closes (e :: h) holds' := by
  intro k r hk
  obtain ho | ⟨hk, hop, hcl⟩ := hstep k r hk
  · exact .inl ho
  · exact (hs k r hk).skip (not_touches hop hcl)

/-- An open key has an opener. -/
theorem Open.opener {h : List ε} {k : κ} {r : ρ} (ho : Open opens closes h k r) :
    ∃ j, Opener opens closes h.reverse k r h.length j := by
  induction h with
  | nil => exact ho.elim
  | cons e h ih =>
      have hlast : (e :: h).reverse[h.length]? = some e := by
        rw [List.reverse_cons, List.getElem?_append_right (by simp)]
        simp
      have hinit : ∀ n, n < h.length → (e :: h).reverse[n]? = h.reverse[n]? := by
        intro n hn
        rw [List.reverse_cons, List.getElem?_append_left (by simpa using hn)]
      obtain ho | ⟨hne, ho⟩ := ho
      · refine ⟨h.length, by simp, ⟨e, hlast, ho⟩, ?_⟩
        intro n y h1 h2
        simp only [List.length_cons] at h2
        omega
      · obtain ⟨j, hj, ⟨x, hx, hop⟩, hl⟩ := ih ho
        refine ⟨j, Nat.lt_succ_of_lt hj, ⟨x, by rw [hinit j hj]; exact hx, hop⟩, ?_⟩
        intro n y h1 h2 hy
        rcases Nat.lt_or_eq_of_le (Nat.le_of_lt_succ h2) with hlt | rfl
        · rw [hinit n hlt] at hy
          exact hl n y h1 hlt hy
        · rw [hlast] at hy
          cases hy
          exact hne

/-- A longer history has the same openers. -/
theorem Opener.cons {h : List ε} {e : ε} {k : κ} {r : ρ} {i j : ℕ} (hi : i ≤ h.length)
    (ho : Opener opens closes h.reverse k r i j) :
    Opener opens closes (e :: h).reverse k r i j := by
  have hinit : ∀ n, n < i → (e :: h).reverse[n]? = h.reverse[n]? := by
    intro n hn
    rw [List.reverse_cons, List.getElem?_append_left (by simp; omega)]
  obtain ⟨hlt, ⟨x, hx, hop⟩, hl⟩ := ho
  refine ⟨hlt, ⟨x, by rw [hinit j hlt]; exact hx, hop⟩, ?_⟩
  intro n y h1 h2 hy
  rw [hinit n h2] at hy
  exact hl n y h1 h2 hy

/-- Every event that uses a key has an opener that suits it. -/
theorem Corresponds.opener {h : List ε} (hc : Corresponds opens closes uses ok h) {i : ℕ}
    {e : ε} {k : κ} (he : h.reverse[i]? = some e) (hk : uses e k) :
    ∃ r j, ok r e ∧ Opener opens closes h.reverse k r i j := by
  induction h with
  | nil => simp at he
  | cons e' h ih =>
      rcases Nat.lt_or_ge i h.length with hlt | hge
      · rw [List.reverse_cons, List.getElem?_append_left (by simpa using hlt)] at he
        obtain ⟨r, j, hok, ho⟩ := ih hc.2 he
        exact ⟨r, j, hok, ho.cons (Nat.le_of_lt hlt)⟩
      · have hi : i = h.length := by
          have := (List.getElem?_eq_some_iff.mp he).1
          simp only [List.length_reverse, List.length_cons] at this
          omega
        subst hi
        rw [List.reverse_cons, List.getElem?_append_right (by simp)] at he
        simp only [List.length_reverse, Nat.sub_self, List.getElem?_cons_zero,
          Option.some.injEq] at he
        subst he
        obtain ⟨r, ho, hok⟩ := hc.1 k hk
        obtain ⟨j, hj⟩ := ho.opener
        exact ⟨r, j, hok, hj.cons (Nat.le_refl _)⟩

variable (opens closes ok) in
/-- An injective map from the closing events of a run to events that opened their keys. -/
structure Matching (run : List ε) (f : ℕ → ℕ) : Prop where
  opener : ∀ i e k, run[i]? = some e → closes e = some k →
    ∃ r, ok r e ∧ Opener opens closes run k r i (f i)
  injective : ∀ i i' e e' k k', run[i]? = some e → run[i']? = some e' → closes e = some k →
    closes e' = some k' → f i = f i' → i = i'

/-- Two closing events with one opener are one event: the earlier would have closed the key
before the later. -/
theorem Opener.unique {run : List ε} {k k' : κ} {r r' : ρ} {i i' j : ℕ} {e e' : ε}
    (h : Opener opens closes run k r i j) (h' : Opener opens closes run k' r' i' j)
    (he : run[i]? = some e) (he' : run[i']? = some e') (hk : closes e = some k)
    (hk' : closes e' = some k') : i = i' := by
  have hkk : k = k' := by
    obtain ⟨x, hx, hop⟩ := h.opened
    obtain ⟨x', hx', hop'⟩ := h'.opened
    rw [hx, Option.some.injEq] at hx'
    subst hx'
    rw [hop, Option.some.injEq, Prod.mk.injEq] at hop'
    exact hop'.1
  subst hkk
  rcases Nat.lt_trichotomy i i' with hlt | heq | hgt
  · exact absurd (.inr hk) (h'.latest i e h.earlier hlt he)
  · exact heq
  · exact absurd (.inr hk') (h.latest i' e' h'.earlier hgt he')

/-- A history that corresponds has a matching. -/
theorem Corresponds.exists_matching {h : List ε} (hc : Corresponds opens closes uses ok h)
    (huses : ∀ e k, closes e = some k → uses e k) :
    ∃ f, Matching opens closes ok h.reverse f := by
  classical
  have hex : ∀ i, ∃ j, ∀ e k, h.reverse[i]? = some e → closes e = some k →
      ∃ r, ok r e ∧ Opener opens closes h.reverse k r i j := by
    intro i
    by_cases hcl : ∃ e k, h.reverse[i]? = some e ∧ closes e = some k
    · obtain ⟨e, k, he, hk⟩ := hcl
      obtain ⟨r, j, hok, ho⟩ := hc.opener he (huses e k hk)
      refine ⟨j, ?_⟩
      intro e' k' he' hk'
      rw [he, Option.some.injEq] at he'
      subst he'
      rw [hk, Option.some.injEq] at hk'
      subst hk'
      exact ⟨r, hok, ho⟩
    · push Not at hcl
      exact ⟨0, fun e k he hk => absurd hk (hcl e k he)⟩
  choose f hf using hex
  refine ⟨f, hf, ?_⟩
  intro i i' e e' k k' he he' hk hk' hff
  obtain ⟨r, -, ho⟩ := hf i e k he hk
  obtain ⟨r', -, ho'⟩ := hf i' e' k' he' hk'
  rw [← hff] at ho'
  exact ho.unique ho' he he' hk hk'

end Correspondence
