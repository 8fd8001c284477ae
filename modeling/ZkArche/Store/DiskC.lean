import ZkArche.Lib.Disk
import ZkArche.Store.FilesC

/-!
# The file stores of the C code on a disk

`atomic_write` of `store_fs.c`, call by call, and `auth_server_key_load_or_create` over it.  How the
calls go is an argument.  A call of `write` may take a part of what it is offered, or be interrupted
by a signal.

`FilesC` says that writing replaces the file or fails.  This is what the calls do
(`atomicWriteFile_replaces`), and a program that is killed on the way leaves the old file or the new
one.
-/

namespace ZkArche.C

open Disk

/-- What a call of `write` returns. -/
inductive WriteResult where
  /-- It took some of the bytes. -/
  | took (n : ℕ)
  /-- `EINTR`. -/
  | interrupted
  /-- Another error. -/
  | failed
  /-- The program is killed in it. -/
  | killed

/-- How the calls of `atomic_write` go. -/
structure WriteCalls where
  open_ : SysOutcome
  writes : List WriteResult
  fsync : SysOutcome
  close : SysOutcome
  rename : SysOutcome
  /-- `unlink`, after a failure. -/
  unlink : SysOutcome

/-- The code of a store. -/
abbrev OnDisk (α : Type) := Routine (Interrupt AuthErr) (Disk String) α

/-- The scratch path. -/
def tmpPath (path : String) : String := path ++ ".tmp"

/-- The scratch path has to fit its buffer. -/
def tmpFits (path : String) : Except (Interrupt AuthErr) Unit :=
  ensure ((tmpPath path).utf8ByteSize < 512) (.stopped .invalidArgument)

/-- `unlink(tmp)` and the return after it.  What `unlink` returns is not looked at. -/
def unlinkAndFail (o : SysOutcome) (tmp : String) : OnDisk Unit := do
  let _ ← sys o (unlink tmp) id
  stop .storageFailure

/-- How that ends. -/
def unlinked (o : SysOutcome) : Interrupt AuthErr :=
  match o with
  | .killed _ => .killed
  | _ => .stopped .storageFailure

/-- The loop of `atomic_write`, with the bytes that are left.  A program that makes more calls of
`write` than are listed has not come further. -/
def writeLoop (onFail : OnDisk Unit) (tmp : String) : List WriteResult → List UInt8 → OnDisk Unit
  | _, [] => pure ()
  | [], _ :: _ => throw .killed
  | .interrupted :: rest, left => writeLoop onFail tmp rest left
  | .failed :: _, _ => onFail
  | .killed :: _, _ => throw .killed
  | .took n :: rest, left => do
      Routine.op fun d => (.ok (), append tmp (left.take n) d)
      writeLoop onFail tmp rest (left.drop n)

/-- `atomic_write` up to the renaming. -/
def writeTmp (c : WriteCalls) (path : String) (data : List UInt8) : OnDisk Unit := do
  Routine.lift (tmpFits path)
  let tmp := tmpPath path
  sysOr c.open_ (create tmp 0o600) id fun _ => stop .storageFailure
  writeLoop (unlinkAndFail c.unlink tmp) tmp c.writes data
  sysOr c.fsync id id fun _ => unlinkAndFail c.unlink tmp
  sysOr c.close id id fun _ => unlinkAndFail c.unlink tmp

/-- `atomic_write`. -/
def atomicWriteFile (c : WriteCalls) (path : String) (data : List UInt8) : OnDisk Unit := do
  writeTmp c path data
  sysOr c.rename (rename (tmpPath path) path) id fun _ => unlinkAndFail c.unlink (tmpPath path)

/-! ## How a write ends -/

/-- How the loop ends. -/
def writeLoopEnd (failure : Interrupt AuthErr) :
    List WriteResult → List UInt8 → Except (Interrupt AuthErr) Unit
  | _, [] => .ok ()
  | [], _ :: _ => .error .killed
  | .interrupted :: rest, left => writeLoopEnd failure rest left
  | .failed :: _, _ => .error failure
  | .killed :: _, _ => .error .killed
  | .took n :: rest, left => writeLoopEnd failure rest (left.drop n)

/-- How a write ends. -/
def WriteCalls.fate (c : WriteCalls) (path : String) (data : List UInt8) : Fate AuthErr :=
  .ofRename (do
    tmpFits path
    settled c.open_ fun _ => .stopped .storageFailure
    writeLoopEnd (unlinked c.unlink) c.writes data
    settled c.fsync fun _ => unlinked c.unlink
    settled c.close fun _ => unlinked c.unlink) c.rename fun _ => unlinked c.unlink

variable {t : String} {R Q : Option File → Prop}

theorem unlinkAndFail_works (o : SysOutcome) :
    Works t (unlinkAndFail o t) (.error (unlinked o)) R Q := by
  intro d _
  cases o with
  | done => exact ⟨rfl, onlyAt_update t _ d, nofun⟩
  | failed e => exact ⟨rfl, .refl t d, nofun⟩
  | killed b =>
      cases b with
      | true => exact ⟨rfl, onlyAt_update t _ d, nofun⟩
      | false => exact ⟨rfl, .refl t d, nofun⟩

/-- The loop writes what is left, in any parts. -/
theorem writeLoop_works (o : SysOutcome) (results : List WriteResult) (pre left : List UInt8) :
    Works t (writeLoop (unlinkAndFail o t) t results left)
      (writeLoopEnd (unlinked o) results left) (HasData pre) (HasData (pre ++ left)) := by
  induction results generalizing pre left with
  | nil =>
      cases left with
      | nil =>
          rw [List.append_nil]
          exact fun d hd => ⟨rfl, .refl t d, fun _ => hd⟩
      | cons b left => exact .throw _
  | cons r results ih =>
      cases left with
      | nil =>
          rw [List.append_nil]
          exact fun d hd => ⟨rfl, .refl t d, fun _ => hd⟩
      | cons b left =>
          cases r with
          | interrupted => exact ih pre (b :: left)
          | failed => exact unlinkAndFail_works o
          | killed => exact .throw _
          | took n =>
              have htook : Works t (Routine.op fun d =>
                  ((.ok (), append t ((b :: left).take n) d) : Except (Interrupt AuthErr) Unit × _))
                  (.ok ()) (HasData pre) (HasData (pre ++ (b :: left).take n)) := by
                exact fun d hd => ⟨rfl, onlyAt_update t _ d, fun _ => hd.append⟩
              have hrest := ih (pre ++ (b :: left).take n) ((b :: left).drop n)
              rw [List.append_assoc, List.take_append_drop] at hrest
              exact htook.bind hrest

theorem tmpPath_ne (path : String) : tmpPath path ≠ path := by
  intro h
  have hsize := congrArg String.length h
  rw [tmpPath, String.length_append] at hsize
  have htmp : ".tmp".length = 4 := rfl
  omega

/-- Whatever the calls do, the file is the old one or the new one. -/
theorem atomicWriteFile_replaces (c : WriteCalls) (path : String) (data : List UInt8) :
    Replaces (tmpPath path) path (fun f => f.data = data) (c.fate path data)
      (atomicWriteFile c path data) := by
  refine .of_scratch (tmpPath_ne path) ?_ (fun _ => unlinkAndFail_works c.unlink) c.rename
  have hfits : Works (tmpPath path) (Routine.lift (tmpFits path)) (tmpFits path)
      (fun _ => True) (fun _ => True) := fun d _ => ⟨rfl, .refl _ d, fun _ => trivial⟩
  refine hfits.bind ?_
  refine (Works.create (fun _ => .throw _) 0o600).bind ?_
  refine (writeLoop_works c.unlink c.writes [] data).bind ?_
  refine (Works.sysOr_id fun _ => unlinkAndFail_works c.unlink).bind ?_
  exact Works.sysOr_id fun _ => unlinkAndFail_works c.unlink

/-! ## The server key -/

/-- How the calls of a read go. -/
structure ReadCalls where
  /-- `open` or `read` fails, other than with `ENOENT`. -/
  fails : Bool
  /-- How the contents are read. -/
  cut : List UInt8 → Chunks UInt8
  cut_contents : ∀ data, (cut data).contents = data

/-- What a read finds. -/
def fileReads (c : ReadCalls) (path : String) (d : Disk String) : FileReads :=
  if c.fails then .failed
  else match d path with
    | none => .missing
    | some f => .reads (c.cut f.data)

/-- `auth_server_key_load_or_create`, with the file written by the calls. -/
def authServerKeyLoadOrCreateFile (r : ReadCalls) (w : WriteCalls) (path : String)
    (random : Bytes 32) : OnDisk (Bytes 32) :=
  inspect (fileReads r path) fun
    | .missing => do
        atomicWriteFile w path (skeyMagic ++ ([1] ++ random.val))
        return random
    | file =>
        Routine.lift (((authServerKeyLoadOrCreate file random none).map Prod.fst).mapError .stopped)

end ZkArche.C
