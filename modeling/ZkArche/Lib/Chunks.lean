import Mathlib.Data.List.Basic

/-!
# Streams in chunks

A reader of a stream gets it in *chunks*.  A call asks for some number of elements and gets at
least one of them and at most that many, or none at the end of the stream.  A writer offers
elements, and a call takes at least one of them.

How a stream is cut is not under the control of the program.  The rules say what loops around such
calls do in terms of the contents alone, so that the cuts do not appear in what is proved of a
program.
-/

/-- A stream that is read in chunks. -/
structure Chunks (α : Type) where
  pieces : List (List α)
  nonempty : ∀ piece ∈ pieces, piece ≠ []

namespace Chunks

variable {α : Type}

/-- What is left of the stream. -/
def contents (s : Chunks α) : List α := s.pieces.flatten

/-- The stream that is over. -/
def ended : Chunks α := ⟨[], nofun⟩

@[simp] theorem contents_ended : (ended : Chunks α).contents = [] := rfl

/-- The stream in one piece. -/
def whole : List α → Chunks α
  | [] => ended
  | a :: l => ⟨[a :: l], fun _ h => List.eq_of_mem_singleton h ▸ List.cons_ne_nil a l⟩

@[simp] theorem contents_whole (l : List α) : (whole l).contents = l := by
  cases l with
  | nil => rfl
  | cons a l => simp [whole, contents]

/-- One call for at most `n` elements. -/
def recv (n : ℕ) : Chunks α → List α × Chunks α
  | ⟨[], _⟩ => ([], ended)
  | ⟨piece :: pieces, h⟩ =>
      if hn : n < piece.length then
        (piece.take n, ⟨piece.drop n :: pieces, by
          intro p hp
          rcases List.mem_cons.mp hp with rfl | hp
          · exact fun hnil => absurd (List.drop_eq_nil_iff.mp hnil) (Nat.not_le.mpr hn)
          · exact h p (List.mem_cons_of_mem _ hp)⟩)
      else (piece, ⟨pieces, fun p hp => h p (List.mem_cons_of_mem _ hp)⟩)

theorem recv_append (n : ℕ) (s : Chunks α) :
    (s.recv n).1 ++ (s.recv n).2.contents = s.contents := by
  obtain ⟨_ | ⟨piece, pieces⟩, h⟩ := s
  · rfl
  · by_cases hn : n < piece.length
    · simp only [recv, hn, dite_true, contents, List.flatten_cons]
      rw [← List.append_assoc, List.take_append_drop]
    · simp [recv, hn, contents]

theorem length_recv_le (n : ℕ) (s : Chunks α) : (s.recv n).1.length ≤ n := by
  obtain ⟨_ | ⟨piece, pieces⟩, h⟩ := s
  · exact Nat.zero_le n
  · by_cases hn : n < piece.length
    · simp only [recv, hn, dite_true, List.length_take]
      omega
    · simp only [recv, hn, dite_false]
      omega

/-- Only the end of the stream gives nothing. -/
theorem recv_eq_nil_iff {n : ℕ} (hn : 0 < n) {s : Chunks α} :
    (s.recv n).1 = [] ↔ s.contents = [] := by
  obtain ⟨_ | ⟨piece, pieces⟩, h⟩ := s
  · exact ⟨fun _ => rfl, fun _ => rfl⟩
  · have hpiece := h piece List.mem_cons_self
    refine iff_of_false ?_ (by simp [contents, hpiece])
    by_cases hlt : n < piece.length
    · simp [recv, hlt, hpiece, Nat.pos_iff_ne_zero.mp hn]
    · simpa [recv, hlt] using hpiece

/-- The loop that fills a buffer of `n` elements and stops early at the end of the stream. -/
def gather (n : ℕ) (buf : List α) (s : Chunks α) : List α × Chunks α :=
  if _hroom : buf.length < n then
    if _hend : (s.recv (n - buf.length)).1 = [] then (buf, (s.recv (n - buf.length)).2)
    else gather n (buf ++ (s.recv (n - buf.length)).1) (s.recv (n - buf.length)).2
  else (buf, s)
termination_by n - buf.length
decreasing_by
  have hpos := List.length_pos_iff.mpr _hend
  rw [List.length_append]
  omega

/-- The buffer gets the front of the stream, however it is cut. -/
theorem gather_eq {n : ℕ} {buf : List α} {s : Chunks α} (hbuf : buf.length ≤ n) :
    (gather n buf s).1 = buf ++ s.contents.take (n - buf.length) ∧
      (gather n buf s).2.contents = s.contents.drop (n - buf.length) := by
  induction buf, s using gather.induct (n := n) with
  | case1 buf s hroom hnil =>
      have hend := (recv_eq_nil_iff (Nat.sub_pos_of_lt hroom)).mp hnil
      have happ := recv_append (n - buf.length) s
      rw [hnil, List.nil_append, hend] at happ
      rw [gather, dif_pos hroom, dif_pos hnil, hend, happ]
      simp
  | case2 buf s hroom hmore ih =>
      have hlen := length_recv_le (n - buf.length) s
      have happ := recv_append (n - buf.length) s
      rw [gather, dif_pos hroom, dif_neg hmore]
      generalize (s.recv (n - buf.length)).1 = got at *
      obtain ⟨hfirst, hrest⟩ := ih (by rw [List.length_append]; omega)
      rw [hfirst, hrest, ← happ, List.length_append, ← Nat.sub_sub, List.take_append,
        List.take_of_length_le hlen, List.drop_append, List.drop_eq_nil_of_le hlen]
      simp
  | case3 buf s hfull =>
      have hzero : n - buf.length = 0 := by omega
      rw [gather, dif_neg hfull, hzero]
      simp

end Chunks

/-! ## Writing -/

/-- Where a stream is written to.  `takes` says how many elements the next calls take after the
first one. -/
structure Sink (α : Type) where
  written : List α
  takes : ℕ → ℕ

namespace Sink

variable {α : Type}

/-- How many elements the next call takes of what it is offered. -/
def accepts (s : Sink α) (buf : List α) : ℕ := min buf.length (s.takes 0 + 1)

/-- One call that offers a buffer. -/
def send (s : Sink α) (buf : List α) : Sink α :=
  ⟨s.written ++ buf.take (s.accepts buf), fun i => s.takes (i + 1)⟩

/-- The loop that offers a buffer until all of it is taken. -/
def writeAll (s : Sink α) (buf : List α) : Sink α :=
  if _h : buf = [] then s else writeAll (s.send buf) (buf.drop (s.accepts buf))
termination_by buf.length
decreasing_by
  have hpos := List.length_pos_iff.mpr _h
  rw [List.length_drop, accepts]
  omega

/-- All of the buffer is written, whatever the calls take. -/
@[simp] theorem written_writeAll (s : Sink α) (buf : List α) :
    (s.writeAll buf).written = s.written ++ buf := by
  induction s, buf using writeAll.induct with
  | case1 s => rw [writeAll, dif_pos rfl, List.append_nil]
  | case2 s buf h ih =>
      rw [writeAll, dif_neg h, ih, send, List.append_assoc, List.take_append_drop]

end Sink
