import ZkArche.Lib.Routine

/-!
# Writing into a buffer of fixed size

A caller hands over a buffer of `cap` cells and a place for the length.  The routine writes the
cells from the front and reports the length at the end.  When something does not fit it stops,
and has reported nothing.

`Fits cap x l` says that `x` writes exactly `l` where `l` fits.  `Writes cap e x l` adds that it
otherwise stops with `e` and no report.  Such routines compose by appending (`Fits.bind`,
`Writes.bind`, `Writes.each`).
-/

/-- A buffer: the cells written so far, and the length that was reported. -/
structure Output (α : Type) where
  out : List α
  outLen : ℕ

namespace Output

variable {ε α β : Type}

/-- Write the cells if they fit. -/
def put (cap : ℕ) (e : ε) (v : List α) : Routine ε (Output α) Unit := Routine.op fun s =>
  if s.out.length > cap ∨ v.length > cap - s.out.length then (.error e, s)
  else (.ok (), { s with out := s.out ++ v })

/-- Write the cells without looking at the capacity. -/
def write (v : List α) : Routine ε (Output α) Unit := Routine.op fun s =>
  (.ok (), { s with out := s.out ++ v })

/-- Report the number of cells written. -/
def report : Routine ε (Output α) Unit := Routine.op fun s =>
  (.ok (), { s with outLen := s.out.length })

/-- Do the same for every item, in order. -/
def each (f : β → Routine ε (Output α) Unit) : List β → Routine ε (Output α) Unit
  | [] => pure ()
  | b :: bs => do
      f b
      each f bs

/-- What a caller has in the end: the cells up to the reported length, or the error. -/
def result (r : Except ε Unit × Output α) : Except ε (List α) :=
  match r.1 with
  | .ok () => .ok (r.2.out.take r.2.outLen)
  | .error e => .error e

@[simp] theorem result_ok (l : List α) :
    result ((.ok () : Except ε Unit), ⟨l, l.length⟩) = .ok l := by
  rw [result, List.take_length]

/-! ## Routines that have room -/

/-- The routine writes exactly these cells where they fit. -/
def Fits (cap : ℕ) (x : Routine ε (Output α) Unit) (l : List α) : Prop :=
  ∀ s, s.out.length + l.length ≤ cap → x.exec s = (.ok (), { s with out := s.out ++ l })

variable {cap : ℕ} {e : ε}

theorem Fits.pure : Fits cap (Pure.pure () : Routine ε (Output α) Unit) [] := by
  intro s _
  rw [Routine.exec_pure, List.append_nil]

theorem Fits.write (v : List α) : Fits cap (Output.write v : Routine ε (Output α) Unit) v := by
  intro s _
  rfl

theorem Fits.put (v : List α) : Fits cap (Output.put cap e v) v := by
  intro s hs
  have hno : ¬ (s.out.length > cap ∨ v.length > cap - s.out.length) := by omega
  rw [Output.put, Routine.exec_op, if_neg hno]

/-- One after the other. -/
theorem Fits.bind {x y : Routine ε (Output α) Unit} {a b : List α} (hx : Fits cap x a)
    (hy : Fits cap y b) : Fits cap (x >>= fun _ => y) (a ++ b) := by
  intro s hs
  rw [List.length_append] at hs
  rw [Routine.exec_bind_ok (hx s (by omega)), hy _ (by
    simp only [List.length_append]
    omega), List.append_assoc]

theorem Fits.each {f : β → Routine ε (Output α) Unit} {g : β → List α} {bs : List β}
    (h : ∀ b ∈ bs, Fits cap (f b) (g b)) : Fits cap (Output.each f bs) (bs.flatMap g) := by
  induction bs with
  | nil => exact .pure
  | cons b bs ih =>
      rw [List.flatMap_cons]
      exact (h b List.mem_cons_self).bind (ih fun c hc => h c (List.mem_cons_of_mem b hc))

/-- What is written and then reported, with room for it. -/
theorem Fits.report {x : Routine ε (Output α) Unit} {l : List α} (hx : Fits cap x l)
    (hl : l.length ≤ cap) (n : ℕ) :
    (x >>= fun _ => Output.report).exec ⟨[], n⟩ = (.ok (), ⟨l, l.length⟩) := by
  rw [Routine.exec_bind_ok (hx ⟨[], n⟩ (by simpa using hl))]
  rfl

/-! ## Routines that check for room -/

/-- The routine writes exactly these cells, or stops without a report. -/
structure Writes (cap : ℕ) (e : ε) (x : Routine ε (Output α) Unit) (l : List α) : Prop where
  fits : Fits cap x l
  fails : ∀ s, s.out.length ≤ cap → cap < s.out.length + l.length →
    ∃ s', x.exec s = (.error e, s') ∧ s'.outLen = s.outLen

theorem Writes.pure : Writes cap e (Pure.pure () : Routine ε (Output α) Unit) [] where
  fits := .pure
  fails := by
    intro s hs hlt
    simp only [List.length_nil] at hlt
    omega

theorem Writes.put (v : List α) : Writes cap e (Output.put cap e v) v where
  fits := .put v
  fails := by
    intro s hs hlt
    have hyes : s.out.length > cap ∨ v.length > cap - s.out.length := by omega
    refine ⟨s, ?_, rfl⟩
    rw [Output.put, Routine.exec_op, if_pos hyes]

/-- One after the other. -/
theorem Writes.bind {x y : Routine ε (Output α) Unit} {a b : List α} (hx : Writes cap e x a)
    (hy : Writes cap e y b) : Writes cap e (x >>= fun _ => y) (a ++ b) where
  fits := hx.fits.bind hy.fits
  fails := by
    intro s hs hlt
    rw [List.length_append] at hlt
    by_cases hfit : s.out.length + a.length ≤ cap
    · rw [Routine.exec_bind_ok (hx.fits s hfit)]
      obtain ⟨s', hs', hlen⟩ := hy.fails { s with out := s.out ++ a }
        (by simpa using hfit) (by simp only [List.length_append]; omega)
      exact ⟨s', hs', hlen⟩
    · obtain ⟨s', hs', hlen⟩ := hx.fails s hs (by omega)
      refine ⟨s', ?_, hlen⟩
      rw [Routine.exec_bind, hs']

theorem Writes.each {f : β → Routine ε (Output α) Unit} {g : β → List α} {bs : List β}
    (h : ∀ b ∈ bs, Writes cap e (f b) (g b)) :
    Writes cap e (Output.each f bs) (bs.flatMap g) := by
  induction bs with
  | nil => exact .pure
  | cons b bs ih =>
      rw [List.flatMap_cons]
      exact (h b List.mem_cons_self).bind (ih fun c hc => h c (List.mem_cons_of_mem b hc))

/-- What is written and then reported, without room for it. -/
theorem Writes.report {x : Routine ε (Output α) Unit} {l : List α} (hx : Writes cap e x l)
    (hl : cap < l.length) (n : ℕ) :
    ∃ s, (x >>= fun _ => Output.report).exec ⟨[], n⟩ = (.error e, s) ∧ s.outLen = n := by
  obtain ⟨s, hs, hlen⟩ := hx.fails ⟨[], n⟩ (Nat.zero_le cap) (by simpa using hl)
  refine ⟨s, ?_, hlen⟩
  rw [Routine.exec_bind, hs]

end Output
