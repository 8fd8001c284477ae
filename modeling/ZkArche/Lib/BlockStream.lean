import Mathlib.Data.List.Basic

/-!
# Streams of blocks

A sequence of blocks, all of one length, read as one stream.  `blocks T n` is the front of the
stream that the first `n` blocks make up.  A front of `k` elements is the same whichever number of
blocks it is taken from, as long as they reach it (`take_blocks_eq`).

A buffer is filled with such a stream from the left: `overwrite` puts a piece into a buffer at a
position.
-/

namespace BlockStream

variable {α : Type} {T : ℕ → List α} {b : ℕ}

/-- The first `n` blocks, one after the other. -/
def blocks (T : ℕ → List α) (n : ℕ) : List α := (List.range n).flatMap T

@[simp] theorem blocks_zero (T : ℕ → List α) : blocks T 0 = [] := rfl

theorem blocks_succ (T : ℕ → List α) (n : ℕ) : blocks T (n + 1) = blocks T n ++ T n := by
  simp [blocks, List.range_succ]

theorem length_blocks (hT : ∀ i, (T i).length = b) (n : ℕ) : (blocks T n).length = b * n := by
  induction n with
  | zero => rfl
  | succ n ih => rw [blocks_succ, List.length_append, ih, hT, Nat.mul_succ]

/-- More blocks only make the stream longer. -/
theorem blocks_isPrefix (T : ℕ → List α) {n m : ℕ} (h : n ≤ m) : blocks T n <+: blocks T m := by
  induction h with
  | refl => exact List.prefix_rfl
  | step _ ih =>
      rw [blocks_succ]
      exact ih.trans (List.prefix_append _ _)

/-- A front of the stream does not depend on how many blocks are computed beyond it. -/
theorem take_blocks_eq (hT : ∀ i, (T i).length = b) {n m k : ℕ} (hn : k ≤ b * n) (hm : k ≤ b * m) :
    (blocks T n).take k = (blocks T m).take k := by
  have hle : ∀ {n m : ℕ}, n ≤ m → k ≤ b * n → (blocks T n).take k = (blocks T m).take k := by
    intro n m hnm hk
    obtain ⟨rest, hrest⟩ := blocks_isPrefix T hnm
    rw [← hrest, List.take_append_of_le_length (by rw [length_blocks hT]; exact hk)]
  rcases Nat.le_total n m with h | h
  · exact hle h hn
  · exact (hle h hm).symm

/-- The front that a part of the next block completes. -/
theorem take_blocks_succ (hT : ∀ i, (T i).length = b) (n k : ℕ) :
    (blocks T (n + 1)).take (b * n + k) = blocks T n ++ (T n).take k := by
  rw [blocks_succ, List.take_append, length_blocks hT, Nat.add_sub_cancel_left,
    List.take_of_length_le]
  rw [length_blocks hT]
  exact Nat.le_add_right _ _

/-! ## Filling a buffer -/

/-- The buffer with a piece put at a position. -/
def overwrite (buf : List α) (i : ℕ) (piece : List α) : List α :=
  buf.take i ++ piece ++ buf.drop (i + piece.length)

/-- A buffer that is filled up to the position is filled up to the end of the piece. -/
theorem overwrite_append (buf front piece : List α) :
    overwrite (front ++ buf.drop front.length) front.length piece =
      front ++ piece ++ buf.drop (front ++ piece).length := by
  have htail : (front ++ buf.drop front.length).drop (front.length + piece.length) =
      buf.drop (front.length + piece.length) := by
    rw [List.drop_append, List.drop_eq_nil_of_le (by omega), List.nil_append, List.drop_drop]
    congr 1
    omega
  rw [overwrite, htail, List.length_append, List.take_left]

/-- A buffer that holds the first blocks is given the next one, or a front of it. -/
theorem overwrite_take_blocks (hT : ∀ i, (T i).length = b) (buf : List α) (n : ℕ) {k : ℕ}
    (hk : k ≤ b) :
    overwrite ((blocks T n).take (b * n) ++ buf.drop (b * n)) (b * n) ((T n).take k) =
      (blocks T (n + 1)).take (b * n + k) ++ buf.drop (b * n + k) := by
  have hlen : (blocks T n).length = b * n := length_blocks hT n
  have hpiece : ((T n).take k).length = k := by
    rw [List.length_take, hT]
    exact Nat.min_eq_left hk
  have hover := overwrite_append buf (blocks T n) ((T n).take k)
  rw [List.length_append, hpiece, hlen] at hover
  rw [List.take_of_length_le (Nat.le_of_eq hlen), hover, take_blocks_succ hT]

end BlockStream
