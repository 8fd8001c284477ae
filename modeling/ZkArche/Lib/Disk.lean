import Mathlib.Logic.Function.Basic
import ZkArche.Lib.Machine
import ZkArche.Lib.Routine

/-!
# Files that are replaced by renaming

A *disk* maps paths to files.  A program changes it by calls to the system.  A call goes through, or
it fails, or the program is killed in it, before or after it has taken effect.

A file is *replaced* when the new one is first written to a scratch path, which is then renamed.
Whatever the calls do, the path has the old file or the new one (`Replaces.of_scratch`).  It has the
new one when the routine returns and the old one when it fails (`Fate.Clear`).

A value that is loaded from a path, and created there when there is no file, is the same whenever it
is answered (`LoadsOrCreates.sameAnswers`).
-/

/-- A file: its contents and its permission bits. -/
structure File where
  data : List UInt8
  mode : ℕ
deriving DecidableEq

/-- What is found at each path. -/
abbrev Disk (P : Type) := P → Option File

/-- How a call to the system goes. -/
inductive SysOutcome where
  | done
  | failed (e : String)
  /-- The program is killed in it. -/
  | killed (effective : Bool)
deriving DecidableEq

/-- How a routine over a disk ends without a result. -/
inductive Interrupt (ε : Type) where
  | stopped (e : ε)
  | killed
deriving DecidableEq

namespace Disk

variable {P : Type} [DecidableEq P] {ε α β : Type}

/-! ## Calls and their effects -/

/-- `open` for writing, with the file created or emptied.  A file that exists keeps its
permissions. -/
def create (t : P) (mode : ℕ) (d : Disk P) : Disk P :=
  Function.update d t (some ⟨[], (d t).elim mode File.mode⟩)

/-- `write`. -/
def append (t : P) (data : List UInt8) (d : Disk P) : Disk P :=
  Function.update d t ((d t).map fun f => { f with data := f.data ++ data })

/-- `chmod`. -/
def chmod (t : P) (mode : ℕ) (d : Disk P) : Disk P :=
  Function.update d t ((d t).map fun f => { f with mode := mode })

/-- `unlink`. -/
def unlink (t : P) (d : Disk P) : Disk P := Function.update d t none

/-- `rename`. -/
def rename (t p : P) (d : Disk P) : Disk P :=
  match d t with
  | some f => Function.update (Function.update d t none) p (some f)
  | none => d

@[simp] theorem create_self (t : P) (mode : ℕ) (d : Disk P) :
    create t mode d t = some ⟨[], (d t).elim mode File.mode⟩ := Function.update_self ..

@[simp] theorem append_self (t : P) (data : List UInt8) (d : Disk P) :
    append t data d t = (d t).map fun f => { f with data := f.data ++ data } :=
  Function.update_self ..

@[simp] theorem chmod_self (t : P) (mode : ℕ) (d : Disk P) :
    chmod t mode d t = (d t).map fun f => { f with mode := mode } := Function.update_self ..

theorem rename_target {t p : P} {d : Disk P} {f : File} (h : d t = some f) :
    rename t p d p = some f := by
  simp only [rename, h, Function.update_self]

theorem rename_other {t p r : P} (hp : r ≠ p) (ht : r ≠ t) (d : Disk P) : rename t p d r = d r := by
  cases h : d t with
  | none => simp only [rename, h]
  | some f => simp only [rename, h, Function.update_of_ne hp, Function.update_of_ne ht]

/-- A change of the file at one path. -/
def OnlyAt (t : P) (d d' : Disk P) : Prop := ∀ r, r ≠ t → d' r = d r

omit [DecidableEq P] in
theorem OnlyAt.refl (t : P) (d : Disk P) : OnlyAt t d d := fun _ _ => rfl

omit [DecidableEq P] in
theorem OnlyAt.trans {t : P} {d d' d'' : Disk P} (h : OnlyAt t d d') (h' : OnlyAt t d' d'') :
    OnlyAt t d d'' := fun r hr => (h' r hr).trans (h r hr)

theorem onlyAt_update (t : P) (v : Option File) (d : Disk P) :
    OnlyAt t d (Function.update d t v) := fun _ hr => Function.update_of_ne hr ..

/-- A call.  What it leaves when it does not take effect may be part of the effect. -/
def sys (o : SysOutcome) (effect failing : Disk P → Disk P) :
    Routine (Interrupt ε) (Disk P) (Except String Unit) := Routine.op fun d =>
  match o with
  | .done => (.ok (.ok ()), effect d)
  | .failed e => (.ok (.error e), failing d)
  | .killed true => (.error .killed, effect d)
  | .killed false => (.error .killed, failing d)

/-- A call, and what is done when it fails. -/
def sysOr (o : SysOutcome) (effect failing : Disk P → Disk P)
    (handler : String → Routine (Interrupt ε) (Disk P) Unit) :
    Routine (Interrupt ε) (Disk P) Unit := do
  match ← sys o effect failing with
  | .ok () => pure ()
  | .error e => handler e

omit [DecidableEq P] in
/-- A call that fails ends as its handler does. -/
theorem ends_sysOr_failed {e : String} {effect failing : Disk P → Disk P}
    {handler : String → Routine (Interrupt ε) (Disk P) Unit} {d : Disk P}
    {Q : Except (Interrupt ε) Unit → Disk P → Prop} (h : Routine.Ends (handler e) (failing d) Q) :
    Routine.Ends (sysOr (.failed e) effect failing handler) d Q := by
  have hexec : (sysOr (.failed e) effect failing handler).exec d = (handler e).exec (failing d) :=
    Routine.exec_bind_ok rfl _
  unfold Routine.Ends at h ⊢
  rw [hexec]
  exact h

/-- Stop with an error. -/
def stop (e : ε) : Routine (Interrupt ε) (Disk P) α := throw (.stopped e)

/-- Go on with what is found on the disk. -/
def inspect (find : Disk P → β) (f : β → Routine ε (Disk P) α) : Routine ε (Disk P) α := do
  let d ← Routine.op fun d => (.ok d, d)
  f (find d)

omit [DecidableEq P] in
@[simp] theorem exec_inspect (find : Disk P → β) (f : β → Routine ε (Disk P) α) (d : Disk P) :
    (inspect find f).exec d = (f (find d)).exec d := Routine.exec_bind_ok rfl _

/-- The end of a call, with what its failure leads to. -/
def settled (o : SysOutcome) (err : String → Interrupt ε) : Except (Interrupt ε) Unit :=
  match o with
  | .done => .ok ()
  | .failed e => .error (err e)
  | .killed _ => .error .killed

/-! ## Work at a scratch path -/

/-- The routine ends with this result and changes no other path.  It works on files in `R`, and when
it returns the file is in `Q`. -/
def Works (t : P) (x : Routine (Interrupt ε) (Disk P) Unit) (res : Except (Interrupt ε) Unit)
    (R Q : Option File → Prop) : Prop :=
  ∀ d, R (d t) → Routine.Ends x d fun r d' => r = res ∧ OnlyAt t d d' ∧ (res = .ok () → Q (d' t))

variable {t p : P} {R Q Q' : Option File → Prop}

omit [DecidableEq P] in
theorem Works.bind {x y : Routine (Interrupt ε) (Disk P) Unit} {res res' : Except (Interrupt ε) Unit}
    (hx : Works t x res R Q) (hy : Works t y res' Q Q') :
    Works t (x >>= fun _ => y) (res >>= fun _ => res') R Q' := by
  intro d hd
  refine (hx d hd).bind ?_ ?_
  · rintro ⟨⟩ d₁ ⟨rfl, honly, hq⟩
    exact (hy d₁ (hq rfl)).mono fun _ _ h => ⟨h.1, honly.trans h.2.1, h.2.2⟩
  · rintro e d₁ ⟨rfl, honly, -⟩
    exact ⟨rfl, honly, nofun⟩

omit [DecidableEq P] in
theorem Works.throw (e : Interrupt ε) : Works t (throw e) (.error e) R Q :=
  fun d _ => ⟨rfl, .refl t d, nofun⟩

omit [DecidableEq P] in
/-- A call that stops with an error when it fails. -/
theorem Works.sysOr {o : SysOutcome} {effect failing : Disk P → Disk P} {err : String → Interrupt ε}
    {handler : String → Routine (Interrupt ε) (Disk P) Unit}
    (heffect : ∀ d, OnlyAt t d (effect d) ∧ (R (d t) → Q (effect d t)))
    (hfailing : ∀ d, OnlyAt t d (failing d))
    (hhandler : ∀ e, Works t (handler e) (.error (err e)) (fun _ => True) Q) :
    Works t (sysOr o effect failing handler) (settled o err) R Q := by
  intro d hd
  cases o with
  | done => exact ⟨rfl, (heffect d).1, fun _ => (heffect d).2 hd⟩
  | failed e =>
      refine ends_sysOr_failed ((hhandler e (failing d) trivial).mono ?_)
      rintro r d' ⟨hr, honly, -⟩
      exact ⟨hr, (hfailing d).trans honly, nofun⟩
  | killed b =>
      cases b with
      | true => exact ⟨rfl, (heffect d).1, nofun⟩
      | false => exact ⟨rfl, hfailing d, nofun⟩

omit [DecidableEq P] in
/-- A call that has no effect on the files. -/
theorem Works.sysOr_id {o : SysOutcome} {err : String → Interrupt ε}
    {handler : String → Routine (Interrupt ε) (Disk P) Unit}
    (hhandler : ∀ e, Works t (handler e) (.error (err e)) (fun _ => True) R) :
    Works t (Disk.sysOr o id id handler) (settled o err) R R :=
  .sysOr (fun d => ⟨.refl t d, id⟩) (fun d => .refl t d) hhandler

/-- There is a file, and it is in `new`. -/
def HoldsFile (new : File → Prop) (o : Option File) : Prop := ∃ f, o = some f ∧ new f

/-- There is a file with these contents. -/
def HasData (data : List UInt8) : Option File → Prop := HoldsFile fun f => f.data = data

section

variable {o : SysOutcome} {err : String → Interrupt ε} {handler : String → Routine (Interrupt ε) (Disk P) Unit}
  (hhandler : ∀ e, Works t (handler e) (.error (err e)) (fun _ => True) fun _ => True)

include hhandler

omit [DecidableEq P] in
/-- A handler that stops does not return. -/
theorem Works.of_stopping (e : String) :
    Works t (handler e) (.error (err e)) (fun _ => True) Q := fun d hd =>
  (hhandler e d hd).mono fun _ _ h => ⟨h.1, h.2.1, nofun⟩

theorem Works.create (mode : ℕ) : Works t (Disk.sysOr o (Disk.create t mode) id handler)
    (settled o err) R (HasData []) :=
  .sysOr (fun d => ⟨onlyAt_update t _ d, fun _ => ⟨_, create_self t mode d, rfl⟩⟩)
    (fun d => .refl t d) (Works.of_stopping hhandler)

omit hhandler in
theorem HasData.append {pre data : List UInt8} {d : Disk P} (h : HasData pre (d t)) :
    HasData (pre ++ data) (append t data d t) := by
  obtain ⟨f, hf, rfl⟩ := h
  exact ⟨_, by rw [append_self, hf]; rfl, rfl⟩

theorem Works.append {pre data : List UInt8} (part : List UInt8) :
    Works t (Disk.sysOr o (Disk.append t data) (Disk.append t part) handler) (settled o err)
      (HasData pre) (HasData (pre ++ data)) :=
  .sysOr (fun d => ⟨onlyAt_update t _ d, HasData.append⟩) (fun d => onlyAt_update t _ d)
    (Works.of_stopping hhandler)

theorem Works.chmod {data : List UInt8} (mode : ℕ) :
    Works t (Disk.sysOr o (Disk.chmod t mode) id handler) (settled o err) (HasData data)
      (HoldsFile (· = ⟨data, mode⟩)) := by
  refine .sysOr (fun d => ⟨onlyAt_update t _ d, ?_⟩) (fun d => .refl t d) (Works.of_stopping hhandler)
  rintro ⟨f, hf, rfl⟩
  exact ⟨_, by rw [chmod_self, hf]; rfl, rfl⟩

end

/-! ## Replacing -/

/-- How a replacement ends: with which result, and whether the file is the new one. -/
structure Fate (ε : Type) where
  result : Except (Interrupt ε) Unit
  replaced : Bool

/-- The fate of a renaming after this preparation. -/
def Fate.ofRename (prepared : Except (Interrupt ε) Unit) (o : SysOutcome) (err : String → Interrupt ε) : Fate ε :=
  match prepared with
  | .error e => ⟨.error e, false⟩
  | .ok () => ⟨settled o err, o = .done ∨ o = .killed true⟩

/-- What returns has replaced the file, and what stops with an error has not. -/
structure Fate.Clear (f : Fate ε) : Prop where
  ok : f.result = .ok () → f.replaced = true
  stopped : ∀ e, f.result = .error (.stopped e) → f.replaced = false

theorem Fate.clear_ofRename (prepared : Except (Interrupt ε) Unit) (o : SysOutcome)
    (err : String → Interrupt ε) : (Fate.ofRename prepared o err).Clear := by
  rcases prepared with e | ⟨⟩
  · exact ⟨nofun, fun _ _ => rfl⟩
  · cases o with
    | done => exact ⟨fun _ => rfl, nofun⟩
    | failed e => exact ⟨nofun, fun _ _ => rfl⟩
    | killed b => exact ⟨nofun, nofun⟩

/-- The routine replaces the file at `p` by one in `new`, with this fate and over the scratch path
`t`. -/
def Replaces (t p : P) (new : File → Prop) (fate : Fate ε)
    (x : Routine (Interrupt ε) (Disk P) Unit) : Prop :=
  ∀ d, Routine.Ends x d fun r d' => r = fate.result ∧
    (if fate.replaced then HoldsFile new (d' p) else d' p = d p) ∧ ∀ s, s ≠ p → s ≠ t → d' s = d s

/-- Prepare the file at a scratch path and rename it. -/
theorem Replaces.of_scratch {new : File → Prop} {prepare : Routine (Interrupt ε) (Disk P) Unit}
    {prepared : Except (Interrupt ε) Unit} {err : String → Interrupt ε}
    {handler : String → Routine (Interrupt ε) (Disk P) Unit} (h : t ≠ p)
    (hprepare : Works t prepare prepared (fun _ => True) (HoldsFile new))
    (hhandler : ∀ e, Works t (handler e) (.error (err e)) (fun _ => True) fun _ => True)
    (o : SysOutcome) : Replaces t p new (.ofRename prepared o err)
      (prepare >>= fun _ => sysOr o (rename t p) id handler) := by
  intro d
  have honlyAt : ∀ {d'}, OnlyAt t d d' → d' p = d p ∧ ∀ s, s ≠ p → s ≠ t → d' s = d s :=
    fun honly => ⟨honly p h.symm, fun s _ hs => honly s hs⟩
  refine (hprepare d trivial).bind ?_ ?_
  swap
  · rintro e d₁ ⟨rfl, honly, -⟩
    exact ⟨rfl, honlyAt honly⟩
  rintro ⟨⟩ d₁ ⟨rfl, honly, hf⟩
  obtain ⟨f, hf, hnew⟩ := hf rfl
  have hrenamed : HoldsFile new (rename t p d₁ p) ∧ ∀ s, s ≠ p → s ≠ t → rename t p d₁ s = d s :=
    ⟨⟨f, rename_target hf, hnew⟩, fun s hp ht => (rename_other hp ht d₁).trans (honly s ht)⟩
  cases o with
  | done => exact ⟨rfl, hrenamed⟩
  | failed e =>
      refine ends_sysOr_failed ((hhandler e d₁ trivial).mono ?_)
      rintro r d₂ ⟨hr, honly₂, -⟩
      exact ⟨hr, honlyAt (honly.trans honly₂)⟩
  | killed b =>
      cases b with
      | true => exact ⟨rfl, hrenamed⟩
      | false => exact ⟨rfl, honlyAt honly⟩

omit [DecidableEq P] in
/-- A value that is returned after a replacement has its file. -/
theorem Replaces.returned {new : File → Prop} {fate : Fate ε} (hfate : fate.Clear)
    {x : Routine (Interrupt ε) (Disk P) Unit} (hx : Replaces t p new fate x) (a : α) (d : Disk P) :
    Routine.Ends (do x; return a) d fun r d' => ∀ b, r.toOption = some b →
      b = a ∧ HoldsFile new (d' p) := by
  refine (hx d).bind ?_ fun _ _ _ => nofun
  rintro ⟨⟩ d' ⟨hr, hfile, -⟩
  rw [hfate.ok hr.symm, if_pos rfl] at hfile
  rintro b ⟨⟩
  exact ⟨rfl, hfile⟩

end Disk

/-! ## Values that are created once -/

/-- The answers of a machine over a disk come from the file at `p`, which is created when there is
none. -/
structure LoadsOrCreates {P ι β : Type} (p : P) (value : File → β → Prop)
    (ok : List (ι × Option β) → Disk P → ι → Prop) (M : Machine (Disk P) ι (Option β)) : Prop where
  kept : ∀ h d i f, ok h d i → d p = some f →
    (M.step d i).1 p = some f ∧ ∀ b, (M.step d i).2 = some b → value f b
  created : ∀ h d i b, ok h d i → d p = none → (M.step d i).2 = some b →
    ∃ f, (M.step d i).1 p = some f ∧ value f b

/-- Whenever there was an answer, it was this one. -/
def SameAnswers {ι β : Type} (h : List (ι × Option β)) : Prop :=
  ∀ e ∈ h, ∀ e' ∈ h, ∀ b b', e.2 = some b → e'.2 = some b' → b = b'

namespace LoadsOrCreates

variable {P ι β : Type} {p : P} {value : File → β → Prop}
  {ok : List (ι × Option β) → Disk P → ι → Prop} {M : Machine (Disk P) ι (Option β)}

/-- What was answered is the value of the file that is there. -/
theorem answered (hl : LoadsOrCreates p value ok M) {h : List (ι × Option β)} {d : Disk P}
    (r : M.Run ok h d) : ∀ e ∈ h, ∀ b, e.2 = some b → ∃ f, d p = some f ∧ value f b := by
  refine r.invariant (P := fun h d => ∀ e ∈ h, ∀ b, e.2 = some b → ∃ f, d p = some f ∧ value f b)
    (fun _ _ _ he => (List.not_mem_nil he).elim) ?_
  intro h d i _ hi ih e he b hb
  obtain rfl | he := List.mem_cons.mp he
  · cases hd : d p with
    | none => exact hl.created h d i b hi hd hb
    | some f => exact ⟨f, (hl.kept h d i f hi hd).1, (hl.kept h d i f hi hd).2 b hb⟩
  · obtain ⟨f, hd, hv⟩ := ih e he b hb
    exact ⟨f, (hl.kept h d i f hi hd).1, hv⟩

/-- All answers of a run are the same. -/
theorem sameAnswers (hl : LoadsOrCreates p value ok M)
    (hvalue : ∀ f b b', value f b → value f b' → b = b') {h : List (ι × Option β)} {d : Disk P}
    (r : M.Run ok h d) : SameAnswers h := by
  intro e he e' he' b b' hb hb'
  obtain ⟨f, hd, hv⟩ := hl.answered r e he b hb
  obtain ⟨f', hd', hv'⟩ := hl.answered r e' he' b' hb'
  obtain rfl := Option.some.inj (hd.symm.trans hd')
  exact hvalue f b b' hv hv'

end LoadsOrCreates
