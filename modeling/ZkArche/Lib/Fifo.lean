import Mathlib.Data.List.Nodup
import Mathlib.Data.List.TakeDrop

/-!
# Bounded first-in first-out memories

A queue of capacity `cap` remembers the newest `cap` entries of a history
(`push_window`).  A history is *fresh* when each entry was not among the `cap` entries
before it, which is what a memory that refuses what it remembers produces.  In a fresh
history two equal entries have at least `cap` pairwise different other entries between
them (`Fresh.separated`).  `Tracks` is the invariant of a memory beside its history.

Histories are listed newest first, queues oldest first.
-/

namespace Fifo

variable {α : Type}

/-- Append an entry, dropping the oldest when the queue is full. -/
def push (cap : ℕ) (l : List α) (k : α) : List α :=
  (if l.length < cap then l else l.tail) ++ [k]

/-- The newest `cap` entries of a history, oldest first. -/
def window (cap : ℕ) (h : List α) : List α := (h.take cap).reverse

@[simp] theorem mem_window {cap : ℕ} {h : List α} {k : α} :
    k ∈ window cap h ↔ k ∈ h.take cap := List.mem_reverse

/-- The queue holds the window, whatever is pushed. -/
theorem push_window {cap : ℕ} (hcap : 0 < cap) (h : List α) (k : α) :
    push cap (window cap h) k = window cap (k :: h) := by
  obtain ⟨c, rfl⟩ : ∃ c, cap = c + 1 := ⟨cap - 1, by omega⟩
  rw [window, push, window, List.take_succ_cons, List.reverse_cons]
  congr 1
  split
  next hlt =>
    have hlen : h.length ≤ c := by
      simp only [List.length_reverse, List.length_take] at hlt
      omega
    rw [List.take_of_length_le hlen, List.take_of_length_le (by omega)]
  next hge =>
    have hlen : c < h.length := by
      simp only [List.length_reverse, List.length_take] at hge
      omega
    rw [List.tail_reverse, List.take_succ_eq_append_getElem hlen, List.dropLast_concat]

/-- No entry of the history was among the `cap` entries before it. -/
def Fresh (cap : ℕ) : List α → Prop
  | [] => True
  | k :: h => k ∉ h.take cap ∧ Fresh cap h

theorem Fresh.of_append {cap : ℕ} {a b : List α} (h : Fresh cap (a ++ b)) : Fresh cap b := by
  induction a with
  | nil => exact h
  | cons x a ih => exact ih h.2

/-- A stretch of at most `cap` entries of a fresh history has no repetition. -/
theorem Fresh.nodup_take {cap n : ℕ} {h : List α} (hf : Fresh cap h) (hn : n ≤ cap) :
    (h.take n).Nodup := by
  induction h generalizing n with
  | nil => simp
  | cons k h ih =>
      cases n with
      | zero => simp
      | succ n =>
          rw [List.take_succ_cons, List.nodup_cons]
          refine ⟨?_, ih hf.2 (by omega)⟩
          intro hk
          exact hf.1 (List.take_subset_take_left h (by omega) hk)

/-- Between two equal entries of a history lie `cap` pairwise different other entries. -/
def Separated (cap : ℕ) (h : List α) : Prop :=
  ∀ a b c k, h = a ++ k :: (b ++ k :: c) →
    ∃ d : List α, d.Sublist b ∧ d.length = cap ∧ d.Nodup ∧ k ∉ d

/-- A fresh history is separated. -/
theorem Fresh.separated {cap : ℕ} {h : List α} (hf : Fresh cap h) : Separated cap h := by
  rintro a b c k rfl
  obtain ⟨hk, hrest⟩ := hf.of_append
  have hlen : cap ≤ b.length := by
    by_contra hlt
    apply hk
    rw [List.take_append, List.mem_append]
    right
    obtain ⟨m, hm⟩ : ∃ m, cap - b.length = m + 1 := ⟨cap - b.length - 1, by omega⟩
    rw [hm]
    simp
  have htake : (b ++ k :: c).take cap = b.take cap := List.take_append_of_le_length hlen
  refine ⟨b.take cap, List.take_sublist cap b, ?_, ?_, by rwa [htake] at hk⟩
  · rw [List.length_take, Nat.min_eq_left hlen]
  · rw [← htake]
    exact hrest.nodup_take (Nat.le_refl cap)

/-- The queue remembers the newest entries of a fresh history. -/
structure Tracks (cap : ℕ) (h l : List α) : Prop where
  window : l = window cap h
  fresh : Fresh cap h

theorem Tracks.nil (cap : ℕ) : Tracks cap ([] : List α) [] := ⟨by simp [Fifo.window], trivial⟩

/-- A new entry joins the history and the queue. -/
theorem Tracks.push {cap : ℕ} (hcap : 0 < cap) {h l : List α} (t : Tracks cap h l) {k : α}
    (hk : k ∉ l) : Tracks cap (k :: h) (Fifo.push cap l k) := by
  obtain ⟨rfl, hfresh⟩ := t
  rw [mem_window] at hk
  exact ⟨push_window hcap h k, hk, hfresh⟩

end Fifo
