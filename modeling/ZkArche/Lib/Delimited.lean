import ZkArche.Lib.Bytes

/-!
# Records that delimit themselves

A *delimited format* writes a record as a nonempty byte string, and reads one record off the
front of a buffer whatever follows it.  A *stream* is the records of a list one after the other.
Every buffer is the stream of its `records` and a *tail* that does not start with one
(`Delimited.exists_tail`).

A decoder is a loop that reads a record, updates its state or fails, and goes on.  It may hold
the rest of the buffer or an offset into it, so the loop rule is about positions and the bytes at
a position.  `Delimited.loop_eq` says that such a loop is the monadic fold of its step over the
records, followed by what the loop does with the tail.

`Inserts p xs ys` says that `ys` is `xs` with elements of `p` put in anywhere.  A fold whose step
does nothing on `p` cannot tell the two apart.
-/

/-- A format of records that are read off the front of a buffer. -/
structure Delimited (α : Type) where
  /-- The bytes of a record. -/
  bytes : α → List UInt8
  /-- The first record of a buffer, and what follows it. -/
  read : List UInt8 → Option (α × List UInt8)
  read_eq_some_iff : ∀ {buf : List UInt8} {a : α} {rest : List UInt8},
    read buf = some (a, rest) ↔ buf = bytes a ++ rest
  bytes_ne_nil : ∀ a, bytes a ≠ []

namespace Delimited

variable {α : Type} (F : Delimited α)

/-- The records one after the other. -/
def stream (as : List α) : List UInt8 := as.flatMap F.bytes

@[simp] theorem stream_nil : F.stream [] = [] := rfl

@[simp] theorem stream_cons (a : α) (as : List α) :
    F.stream (a :: as) = F.bytes a ++ F.stream as := rfl

@[simp] theorem stream_append (as bs : List α) :
    F.stream (as ++ bs) = F.stream as ++ F.stream bs := List.flatMap_append

/-- Nothing is not a record. -/
theorem read_nil : F.read [] = none := by
  cases h : F.read [] with
  | none => rfl
  | some r =>
      have hnil := F.read_eq_some_iff.mp h
      exact absurd (List.append_eq_nil_iff.mp hnil.symm).1 (F.bytes_ne_nil r.1)

theorem length_rest {buf rest : List UInt8} {a : α} (h : F.read buf = some (a, rest)) :
    rest.length < buf.length := by
  have hpos := List.length_pos_iff.mpr (F.bytes_ne_nil a)
  rw [F.read_eq_some_iff.mp h, List.length_append]
  omega

/-- The records of a buffer, up to the first place where there is none. -/
def records (buf : List UInt8) : List α :=
  match _hread : F.read buf with
  | none => []
  | some (a, rest) => a :: records rest
termination_by buf.length
decreasing_by exact F.length_rest _hread

theorem records_of_read_none {buf : List UInt8} (h : F.read buf = none) : F.records buf = [] := by
  rw [records]
  split <;> simp_all

theorem records_of_read_some {buf rest : List UInt8} {a : α} (h : F.read buf = some (a, rest)) :
    F.records buf = a :: F.records rest := by
  rw [records]
  split <;> simp_all

/-- Every buffer is the stream of its records and a tail that does not start with one. -/
theorem exists_tail (buf : List UInt8) :
    ∃ tail, buf = F.stream (F.records buf) ++ tail ∧ F.read tail = none := by
  -- by induction on the length: a record takes at least one byte off the buffer
  induction hn : buf.length using Nat.strongRecOn generalizing buf with
  | ind n ih =>
      cases hr : F.read buf with
      | none =>
          rw [F.records_of_read_none hr]
          exact ⟨buf, rfl, hr⟩
      | some r =>
          obtain ⟨a, rest⟩ := r
          have hlen : rest.length < n := hn ▸ F.length_rest hr
          obtain ⟨tail, hrest, htail⟩ := ih rest.length hlen rest rfl
          refine ⟨tail, ?_, htail⟩
          rw [F.records_of_read_some hr, stream_cons, List.append_assoc, ← hrest]
          exact F.read_eq_some_iff.mp hr

/-- A loop over positions is the fold of its step over the records, and then what it does with
the tail. -/
theorem loop_eq {π σ ε : Type} (bytesAt : π → List UInt8) (loop : σ → π → Except ε σ)
    {step : σ → α → Except ε σ} {finish : σ → List UInt8 → Except ε σ}
    (hstep : ∀ s p a rest, bytesAt p = F.bytes a ++ rest →
      ∃ p', bytesAt p' = rest ∧ loop s p = step s a >>= fun s' => loop s' p')
    (hfinish : ∀ s p, F.read (bytesAt p) = none → loop s p = finish s (bytesAt p))
    {as : List α} {tail : List UInt8} (htail : F.read tail = none) {s : σ} {p : π}
    (hp : bytesAt p = F.stream as ++ tail) :
    loop s p = as.foldlM step s >>= fun s' => finish s' tail := by
  induction as generalizing s p with
  | nil =>
      rw [stream_nil, List.nil_append] at hp
      rw [List.foldlM_nil, Except.pure_eq_ok, Except.ok_bind', hfinish s p (hp ▸ htail), hp]
  | cons a as ih =>
      rw [stream_cons, List.append_assoc] at hp
      obtain ⟨p', hp', hloop⟩ := hstep s p a _ hp
      rw [hloop, List.foldlM_cons]
      cases hs : step s a with
      | error e => rfl
      | ok s' =>
          rw [Except.ok_bind', Except.ok_bind']
          exact ih hp'

end Delimited

/-! ## Insertions -/

/-- The second list is the first with elements of `p` inserted anywhere. -/
inductive Inserts {α : Type} (p : α → Prop) : List α → List α → Prop where
  | nil : Inserts p [] []
  | keep {xs ys : List α} (x : α) : Inserts p xs ys → Inserts p (x :: xs) (x :: ys)
  | insert {xs ys : List α} (y : α) : p y → Inserts p xs ys → Inserts p xs (y :: ys)

/-- A fold does not see insertions on which its step does nothing. -/
theorem Inserts.foldlM_eq {α σ ε : Type} {p : α → Prop} {step : σ → α → Except ε σ}
    (hskip : ∀ s y, p y → step s y = .ok s) {xs ys : List α} (h : Inserts p xs ys) (s : σ) :
    ys.foldlM step s = xs.foldlM step s := by
  induction h generalizing s with
  | nil => rfl
  | keep x _ ih =>
      rw [List.foldlM_cons, List.foldlM_cons]
      exact congrArg _ (funext ih)
  | insert y hy _ ih => rw [List.foldlM_cons, hskip s y hy, Except.ok_bind', ih]
