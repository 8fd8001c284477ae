import ZkArche.Crypto.SmallSuite
import ZkArche.Store.DiskRust

/-!
# The credentials of a device

An abstract store has three slots: the root, the pinned server key and the role credential.  A load
answers what is in the slot, when it is seen and passes its check.  A save replaces the value of its
slot, or not, as its fate says.

`FsCredentialStore` over a disk answers every sequence of calls as the abstract store does
(`credentials_stored`), however the calls to the system go.  So no length and no encoding is ever
refused: the errors of a load are those of the system and of the check of a value that was saved.
-/

namespace ZkArche.Rust

open Disk

variable {q : ℕ} {G : Type}

/-! ## Calls and answers -/

/-- The methods of a `CredentialStore`. -/
inductive StoreCall (q : ℕ) (G : Type) where
  | loadOrCreateDeviceRoot (draw : Bytes 32) (createIfMissing : Bool)
  | loadServerPub
  | saveServerPub (pubkey : G)
  | loadRoleCredential
  | saveRoleCredential (cred : RoleCredential q G)

/-- A call of a method, and how the calls to the system go. -/
structure StoreRequest (q : ℕ) (G : Type) where
  call : StoreCall q G
  reads : ReadCalls
  writes : WriteCalls

/-- What a method returns. -/
inductive StoreAnswer (q : ℕ) (G : Type) where
  | deviceRoot (root : Bytes 32)
  | serverPub (pubkey : Option G)
  | roleCredential (cred : Option (RoleCredential q G))
  | saved

/-- How a method ends. -/
abbrev StoreResult (q : ℕ) (G : Type) := Except (Interrupt Stop) (StoreAnswer q G)

/-! ## The abstract store -/

/-- What a device keeps. -/
@[ext] structure Credentials (q : ℕ) (G : Type) where
  deviceRoot : Option (Bytes 32)
  serverPub : Option G
  roleCredential : Option (RoleCredential q G)

/-- A device that keeps nothing. -/
def Credentials.nothing : Credentials q G := ⟨none, none, none⟩

/-- What a read with this verdict finds in a slot. -/
def look {α : Type} (verdict : Except String Bool) : Option α → Except Stop (Option α)
  | none => .ok none
  | some a =>
      match verdict with
      | .error m => .error (.err (.storage m))
      | .ok false => .ok none
      | .ok true => .ok (some a)

/-- What a store keeps after a save with this fate, and how the save ends. -/
def Credentials.saved (k k' : Credentials q G) (fate : Fate Stop) (a : StoreAnswer q G) :
    Credentials q G × StoreResult q G :=
  (if fate.replaced then k' else k, fate.result.map fun _ => a)

variable [AddCommGroup G] [Module (ZMod q) G] (S : Suite q G)

/-- The check of a pinned key. -/
def checkServerPub [DecidableEq G] (P : G) : Except Stop Unit :=
  orStop (rejectIdentity P "pinned server_pub")

/-- The check of a role credential. -/
def checkRoleCredential [DecidableEq G] (c : RoleCredential q G) : Except Stop Unit := do
  orStop (rejectIdentity c.commitment "role commitment")
  ensure (makeRoleCommitment S c.roleCode c.blind = c.commitment)
    (.wire .registryCorrupt "role credential commitment mismatch")

/-- What a slot has, if it passes its check. -/
def checked {α : Type} (check : α → Except Stop Unit) (slot : Option α) :
    Except Stop (Option α) := do
  match slot with
  | none => return none
  | some a => do
      check a
      return some a

/-- The abstract store.  The paths appear only in the texts of the errors. -/
def Credentials.step [DecidableEq G] (st : FsCredentialStore) (k : Credentials q G) (i : StoreRequest q G) :
    Credentials q G × StoreResult q G :=
  match i.call with
  | .loadOrCreateDeviceRoot draw createIfMissing =>
      match look (i.reads.verdict st.deviceRootFile true "device_root") k.deviceRoot with
      | .error e => (k, .error (.stopped e))
      | .ok (some root) => (k, .ok (.deviceRoot root))
      | .ok none =>
          if createIfMissing then
            k.saved { k with deviceRoot := some draw } (i.writes.fate st.deviceRootFile)
              (.deviceRoot draw)
          else (k, .error (.stopped
            (.wire .credentialMissing "device root missing; run --setup first")))
  | .loadServerPub =>
      (k, ((look (i.reads.verdict st.serverPubFile false "server_pub") k.serverPub >>=
        checked checkServerPub).map .serverPub).mapError .stopped)
  | .saveServerPub P =>
      k.saved { k with serverPub := some P } (i.writes.fate st.serverPubFile) .saved
  | .loadRoleCredential =>
      (k, ((look (i.reads.verdict st.roleCredFile true "role_cred") k.roleCredential >>=
        checked (checkRoleCredential S)).map .roleCredential).mapError .stopped)
  | .saveRoleCredential c =>
      k.saved { k with roleCredential := some c } (i.writes.fate st.roleCredFile) .saved

/-- The abstract store as a machine. -/
def credentialMachine [DecidableEq G] (st : FsCredentialStore) :
    Machine (Credentials q G) (StoreRequest q G) (StoreResult q G) where
  init k := k = .nothing
  step := Credentials.step S st

/-! ## The files -/

/-- A method of `FsCredentialStore`, with its answer. -/
def FsCredentialStore.method [DecidableEq G] (st : FsCredentialStore) (i : StoreRequest q G) :
    OnDisk (StoreAnswer q G) :=
  match i.call with
  | .loadOrCreateDeviceRoot draw createIfMissing => do
      return .deviceRoot (← st.loadOrCreateDeviceRoot i.reads i.writes draw createIfMissing)
  | .loadServerPub => do return .serverPub (← st.loadServerPub S i.reads)
  | .saveServerPub P => do
      st.saveServerPub S i.writes P
      return .saved
  | .loadRoleCredential => do return .roleCredential (← st.loadRoleCredential S i.reads)
  | .saveRoleCredential c => do
      st.saveRoleCredential S i.writes c
      return .saved

/-- The store over a disk as a machine.  A device starts without files. -/
def fsMachine [DecidableEq G] (st : FsCredentialStore) :
    Machine (Disk StorePath) (StoreRequest q G) (StoreResult q G) where
  init d := d = fun _ => none
  step d i := ((st.method S i).exec d).swap

/-- The disk has the files of what is kept. -/
structure StoredIn (st : FsCredentialStore) (k : Credentials q G) (d : Disk StorePath) : Prop where
  deviceRoot : d st.deviceRootFile = k.deviceRoot.map fun root => privateFile root.val
  serverPub : d st.serverPubFile = k.serverPub.map fun P => privateFile (S.encPoint P).val
  roleCredential : d st.roleCredFile = k.roleCredential.map fun c =>
    privateFile (FsCredentialStore.roleCredentialBytes S c)

/-- The files are different, and none is a scratch file. -/
structure FsCredentialStore.Apart (st : FsCredentialStore) : Prop where
  root : st.deviceRootFile.extension ≠ "tmp"
  pub : st.serverPubFile.extension ≠ "tmp"
  role : st.roleCredFile.extension ≠ "tmp"
  rootPub : st.deviceRootFile ≠ st.serverPubFile
  rootRole : st.deviceRootFile ≠ st.roleCredFile
  pubRole : st.serverPubFile ≠ st.roleCredFile

theorem FsCredentialStore.apart_withDir (dir : String) : (withDir dir).Apart := by
  constructor <;> simp [withDir]

variable {S} {st : FsCredentialStore} {k k' : Credentials q G} {d d' : Disk StorePath}

/-- Scratch files do not count. -/
theorem StoredIn.congr (hst : st.Apart) (h : StoredIn S st k d)
    (heq : ∀ s : StorePath, s.extension ≠ "tmp" → d' s = d s) : StoredIn S st k d' where
  deviceRoot := (heq _ hst.root).trans h.deviceRoot
  serverPub := (heq _ hst.pub).trans h.serverPub
  roleCredential := (heq _ hst.role).trans h.roleCredential

/-- A write ends with its fate, and what is kept is the old or the new. -/
theorem write_stored (hst : st.Apart) (w : WriteCalls) {path : StorePath} {data : List UInt8}
    (hpath : path.extension ≠ "tmp") (h : StoredIn S st k d)
    (h' : StoredIn S st k' (Function.update d path (some (privateFile data)))) (a : StoreAnswer q G) :
    Routine.Ends (do writePrivateFileAtomic w path data; return a) d fun r d' =>
      r = (k.saved k' (w.fate path) a).2 ∧ StoredIn S st (k.saved k' (w.fate path) a).1 d' := by
  have hreplaces := writePrivateFileAtomic_replaces w data hpath d
  have hstored : ∀ d', (if (w.fate path).replaced then HoldsFile (· = privateFile data) (d' path)
      else d' path = d path) → (∀ s, s ≠ path → s ≠ path.withExtension "tmp" → d' s = d s) →
      StoredIn S st (k.saved k' (w.fate path) a).1 d' := by
    intro d' hd hothers
    unfold Credentials.saved
    have hother : ∀ s : StorePath, s.extension ≠ "tmp" → s ≠ path → d' s = d s := fun s hs hne =>
      hothers s hne fun heq => hs (congrArg StorePath.extension heq)
    cases hfate : (w.fate path).replaced with
    | true =>
        rw [hfate, if_pos rfl] at hd
        obtain ⟨_, hd, rfl⟩ := hd
        refine h'.congr hst fun s hs => ?_
        by_cases hsp : s = path
        · rw [hsp, hd, Function.update_self]
        · rw [hother s hs hsp, Function.update_of_ne hsp]
    | false =>
        rw [hfate, if_neg Bool.false_ne_true] at hd
        refine h.congr hst fun s hs => ?_
        by_cases hsp : s = path
        · rw [hsp, hd]
        · exact hother s hs hsp
  refine hreplaces.bind ?_ ?_
  · rintro ⟨⟩ d' ⟨hr, hd, hothers⟩
    refine ⟨?_, hstored d' hd hothers⟩
    rw [Credentials.saved, ← hr]
    rfl
  · rintro e d' ⟨hr, hd, hothers⟩
    refine ⟨?_, hstored d' hd hothers⟩
    rw [Credentials.saved, ← hr]
    rfl

/-! ## Loads -/

variable [DecidableEq G]

theorem loadServerPub_contents (P : G) :
    Checked.loadServerPub S (.contents (S.encPoint P).val) = checked checkServerPub (some P) := by
  have hlen := (S.encPoint P).len
  simp only [Checked.loadServerPub, ensure_pos hlen, SliceOp.fillArray_of_length_eq hlen,
    Checked.orPanic_ok, Except.ok_bind']
  show (do
    let P ← orStop (decompressPoint S (S.encPoint P) "pinned server_pub")
    orStop (rejectIdentity P "pinned server_pub")
    return some P) = _
  by_cases hP : P ≠ 0
  · simp [decompressPoint, rejectIdentity, checked, checkServerPub, hP]
  · simp [decompressPoint, rejectIdentity, checked, checkServerPub, hP, orStop]

/-- A range of a file, as an array. -/
theorem range_fillArray {data : List UInt8} {i j n : ℕ} {b : Bytes n} {α : Type}
    (hij : i ≤ j) (hj : j ≤ data.length) (h : (data.drop i).take (j - i) = b.val)
    (f : Bytes n → Except Stop α) : (do
      let s ← Checked.orPanic (SliceOp.range data i j)
      let b ← Checked.orPanic (SliceOp.fillArray n s)
      f b) = f b := by
  obtain ⟨bytes, hbytes⟩ := b
  subst h
  rw [SliceOp.range_of_le hij hj, Checked.orPanic_ok, Except.ok_bind',
    SliceOp.fillArray_of_length_eq hbytes]
  rfl

theorem loadRoleCredential_contents [NeZero q] (c : RoleCredential q G) :
    Checked.loadRoleCredential S (.contents (FsCredentialStore.roleCredentialBytes S c)) =
      checked (checkRoleCredential S) (some c) := by
  have hcode : (natLE 8 c.roleCode.toNat).length = 8 := natLE_length ..
  have hblind := (encScalar c.blind).len
  have hcommitment := (S.encPoint c.commitment).len
  set data := FsCredentialStore.roleCredentialBytes S c with hdata
  have hlen : data.length = 72 := by simp [hdata, FsCredentialStore.roleCredentialBytes]
  have h0 : (data.drop 0).take (8 - 0) = (⟨_, hcode⟩ : Bytes 8).val := by
    rw [List.drop_zero, hdata, FsCredentialStore.roleCredentialBytes, List.take_left' hcode]
  have h8 : (data.drop 8).take (40 - 8) = (encScalar c.blind).val := by
    rw [hdata, FsCredentialStore.roleCredentialBytes, List.drop_left' hcode, List.take_left' hblind]
  have h40 : (data.drop 40).take (72 - 40) = (S.encPoint c.commitment).val := by
    rw [hdata, FsCredentialStore.roleCredentialBytes, ← List.append_assoc,
      List.drop_left' (by simp), List.take_of_length_le hcommitment.le]
  have hroleCode : UInt64.ofNat (leNat (natLE 8 c.roleCode.toNat)) = c.roleCode := by
    rw [leNat_natLE c.roleCode.toNat_lt, UInt64.ofNat_toNat]
  have hscalar : decodeScalar q (encScalar c.blind) "role blind" = .ok c.blind := by
    rw [decodeScalar, (decScalar_eq_some_iff S.order_le).mpr rfl]
  simp only [Checked.loadRoleCredential, ensure_pos hlen, Except.ok_bind']
  rw [range_fillArray (by omega) (by omega) h0, range_fillArray (by omega) (by omega) h8, hscalar]
  show (Checked.orPanic (SliceOp.range data 40 72) >>= fun s =>
    Checked.orPanic (SliceOp.fillArray 32 s) >>= fun b => _) = _
  rw [range_fillArray (by omega) (by omega) h40, Checked.makeRoleCommitment_eq]
  simp only [hroleCode, Except.ok_bind', decompressPoint, S.decPoint_encPoint]
  by_cases hzero : c.commitment ≠ 0
  · simp only [rejectIdentity, ensure_pos hzero, Except.ok_bind', checked, checkRoleCredential]
    by_cases heq : makeRoleCommitment S c.roleCode c.blind = c.commitment
    · simp [heq]
    · have hne : S.encPoint (makeRoleCommitment S c.roleCode c.blind) ≠ S.encPoint c.commitment :=
        fun h => heq (S.encPoint_inj h)
      simp [heq, hne]
  · simp [rejectIdentity, checked, checkRoleCredential, hzero, orStop]

omit [AddCommGroup G] [Module (ZMod q) G] [DecidableEq G] in
/-- A read of a slot finds nothing, or is refused, or finds the bytes of what is in the slot. -/
theorem fileRead_slot {α : Type} {bytes : α → List UInt8} {slot : Option α} {path : StorePath}
    (h : d path = slot.map fun a => privateFile (bytes a)) (c : ReadCalls) (isPrivate : Bool)
    (what : String) :
    let found := fileRead c path isPrivate what d
    let seen := look (c.verdict path isPrivate what) slot
    (found = .missing ∧ seen = .ok none) ∨
      (∃ m, found = .refused m ∧ seen = .error (.err (.storage m))) ∨
      ∃ a, found = .contents (bytes a) ∧ seen = .ok (some a) := by
  cases slot with
  | none => exact .inl ⟨fileRead_missing c isPrivate what h, rfl⟩
  | some a =>
      simp only [fileRead_private c isPrivate what h]
      rcases c.verdict path isPrivate what with m | seen
      · exact .inr (.inl ⟨m, rfl, rfl⟩)
      · cases seen with
        | false => exact .inl ⟨rfl, rfl⟩
        | true => exact .inr (.inr ⟨a, rfl, rfl⟩)

omit [AddCommGroup G] [Module (ZMod q) G] [DecidableEq G] in
/-- A load of a file that was written finds what is in the slot. -/
theorem load_slot {α : Type} {load : FileRead → Except Stop (Option α)}
    {check : α → Except Stop Unit} {bytes : α → List UInt8} {slot : Option α}
    (hmissing : load .missing = .ok none)
    (hrefused : ∀ m, load (.refused m) = .error (.err (.storage m)))
    (hbytes : ∀ a, load (.contents (bytes a)) = checked check (some a)) {path : StorePath}
    (h : d path = slot.map fun a => privateFile (bytes a)) (c : ReadCalls) (isPrivate : Bool)
    (what : String) : load (fileRead c path isPrivate what d) =
      look (c.verdict path isPrivate what) slot >>= checked check := by
  obtain ⟨hf, hs⟩ | ⟨m, hf, hs⟩ | ⟨a, hf, hs⟩ := fileRead_slot h c isPrivate what
  · rw [hf, hs, hmissing]
    rfl
  · rw [hf, hs, hrefused]
    rfl
  · rw [hf, hs, hbytes]
    rfl

/-! ## The two stores side by side -/

omit [DecidableEq G] in
/-- A load answers what is in its slot. -/
theorem load_stored {α : Type} (h : StoredIn S st k d) {load : FileRead → Except Stop (Option α)}
    {find : Disk StorePath → FileRead} {r : Except Stop (Option α)} (hload : load (find d) = r)
    (f : Option α → StoreAnswer q G) :
    Routine.Ends (do return f (← inspect find fun file => orInterrupt (load file))) d fun r' d' =>
      r' = (r.map f).mapError .stopped ∧ StoredIn S st k d' := by
  refine .map ?_
  rw [exec_inspect, orInterrupt, Routine.exec_lift, hload]
  cases r with
  | ok a => exact ⟨rfl, h⟩
  | error e => exact ⟨rfl, h⟩

/-- A root is loaded, or created in an empty slot. -/
theorem loadOrCreateDeviceRoot_stored (hst : st.Apart) (h : StoredIn S st k d) (reads : ReadCalls)
    (writes : WriteCalls) (draw : Bytes 32) (createIfMissing : Bool) :
    let i : StoreRequest q G := ⟨.loadOrCreateDeviceRoot draw createIfMissing, reads, writes⟩
    Routine.Ends (st.method S i) d fun r d' =>
      r = (k.step S st i).2 ∧ StoredIn S st (k.step S st i).1 d' := by
  intro i
  simp only [i, FsCredentialStore.method, Credentials.step]
  obtain ⟨hf, hs⟩ | ⟨m, hf, hs⟩ | ⟨root, hf, hs⟩ :=
    fileRead_slot h.deviceRoot reads true "device_root"
  · rw [hs]
    cases createIfMissing with
    | false =>
        refine .map ?_
        rw [FsCredentialStore.loadOrCreateDeviceRoot, exec_inspect, hf]
        exact ⟨rfl, h⟩
    | true =>
        have hdrawn : StoredIn S st { k with deviceRoot := some draw }
            (Function.update d st.deviceRootFile (some (privateFile draw.val))) :=
          ⟨Function.update_self .., (Function.update_of_ne hst.rootPub.symm ..).trans h.serverPub,
            (Function.update_of_ne hst.rootRole.symm ..).trans h.roleCredential⟩
        have hwrite := write_stored hst writes hst.root h hdrawn (.deviceRoot draw)
        refine .map ?_
        rw [FsCredentialStore.loadOrCreateDeviceRoot, exec_inspect, hf]
        simp only [if_true, Routine.exec_bind, Routine.Ends] at hwrite ⊢
        revert hwrite
        rcases (writePrivateFileAtomic writes st.deviceRootFile draw.val).exec d with ⟨r, d'⟩
        cases r with
        | ok a => exact id
        | error e => exact id
  · rw [hs]
    refine .map ?_
    rw [FsCredentialStore.loadOrCreateDeviceRoot, exec_inspect, hf]
    exact ⟨rfl, h⟩
  · rw [hs]
    refine .map ?_
    rw [FsCredentialStore.loadOrCreateDeviceRoot, exec_inspect, hf]
    simp only [dif_pos root.len]
    exact ⟨rfl, h⟩

/-- Each method of the files does what the abstract store does. -/
theorem method_stored [NeZero q] (hst : st.Apart) (h : StoredIn S st k d) (i : StoreRequest q G) :
    Routine.Ends (st.method S i) d fun r d' =>
      r = (k.step S st i).2 ∧ StoredIn S st (k.step S st i).1 d' := by
  obtain ⟨call, reads, writes⟩ := i
  cases call with
  | loadOrCreateDeviceRoot draw createIfMissing =>
      exact loadOrCreateDeviceRoot_stored hst h reads writes draw createIfMissing
  | loadServerPub =>
      exact load_stored h (load_slot rfl (fun _ => rfl) loadServerPub_contents h.serverPub reads
        false "server_pub") .serverPub
  | loadRoleCredential =>
      exact load_stored h (load_slot rfl (fun _ => rfl) loadRoleCredential_contents h.roleCredential
        reads true "role_cred") .roleCredential
  | saveServerPub P =>
      refine write_stored hst writes hst.pub h ⟨?_, Function.update_self .., ?_⟩ _
      · exact (Function.update_of_ne hst.rootPub ..).trans h.deviceRoot
      · exact (Function.update_of_ne hst.pubRole.symm ..).trans h.roleCredential
  | saveRoleCredential c =>
      refine write_stored hst writes hst.role h ⟨?_, ?_, Function.update_self ..⟩ _
      · exact (Function.update_of_ne hst.rootRole ..).trans h.deviceRoot
      · exact (Function.update_of_ne hst.pubRole ..).trans h.serverPub

theorem fs_coupling [NeZero q] (hst : st.Apart) :
    Machine.Coupling (fsMachine S st) (credentialMachine S st) fun _ d k => StoredIn S st k d := by
  intro _ d k i h
  exact method_stored hst h i

/-- Over every sequence of calls, and however the calls to the system go, `FsCredentialStore` answers
as the abstract store does, and its files are those of what is kept. -/
theorem credentials_stored [NeZero q] (S : Suite q G) (dir : String)
    (requests : List (StoreRequest q G)) :
    let st := FsCredentialStore.withDir dir
    let run := (fsMachine S st).exec [] (fun _ => none) requests
    let run' := (credentialMachine S st).exec [] .nothing requests
    run.1 = run'.1 ∧ StoredIn S st run'.2 run.2 := by
  intro st run run'
  have hempty : StoredIn S st .nothing fun _ => none := ⟨rfl, rfl, rfl⟩
  exact (fs_coupling (FsCredentialStore.apart_withDir dir)).exec hempty requests

/-- Calls that go through. -/
def demoReads : ReadCalls := ⟨false, none, none⟩

/-- Calls that go through but for the renaming. -/
def demoWrites (rename : SysOutcome) : WriteCalls := ⟨.done, .done, .done, 0, .done, .done, rename⟩

/-- A root is created, a first pin is killed before its renaming, a second one goes through, and both
are loaded. -/
theorem credentials_stored_killed :
    let st := FsCredentialStore.withDir "./client-state"
    let requests : List (StoreRequest 11 (ZMod 11)) :=
      [⟨.loadOrCreateDeviceRoot (.zero 32) true, demoReads, demoWrites .done⟩,
        ⟨.saveServerPub 2, demoReads, demoWrites (.killed false)⟩,
        ⟨.saveServerPub 3, demoReads, demoWrites .done⟩,
        ⟨.loadOrCreateDeviceRoot (.zero 32) false, demoReads, demoWrites .done⟩,
        ⟨.loadServerPub, demoReads, demoWrites .done⟩]
    let run := (fsMachine smallSuite st).exec [] (fun _ => none) requests
    let run' := (credentialMachine smallSuite st).exec [] .nothing requests
    run.1 = run'.1 ∧ StoredIn smallSuite st run'.2 run.2 :=
  credentials_stored smallSuite "./client-state" _

end ZkArche.Rust
