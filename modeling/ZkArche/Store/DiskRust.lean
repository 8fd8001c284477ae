import ZkArche.Lib.Disk
import ZkArche.Panics.Stores

/-!
# The file stores of the Rust crate on a disk

`write_private_file_atomic`, `FsCredentialStore` and `FsServerKeyStore` (`store/fs.rs`), call by
call.  How the calls go is an argument: every one can fail with a text, and the program can be killed
in every one that writes.  A `metadata` that fails makes `exists` say that there is no file.

A write goes to the path with the extension `tmp`, which is then renamed.  So it replaces its file
(`writePrivateFileAtomic_replaces`), unless `tmp` is the extension of the path itself.
-/

namespace ZkArche.Rust

open Disk

/-! ## Paths and calls -/

/-- The path of a file with a name. -/
structure StorePath where
  parent : String
  stem : String
  extension : String
deriving DecidableEq

/-- `Path::display`. -/
def StorePath.display (p : StorePath) : String :=
  let name := p.stem ++ "." ++ p.extension
  if p.parent = "" then name else p.parent ++ "/" ++ name

/-- `Path::with_extension`. -/
def StorePath.withExtension (p : StorePath) (e : String) : StorePath := { p with extension := e }

/-- The code of a store. -/
abbrev OnDisk (α : Type) := Routine (Interrupt Stop) (Disk StorePath) α

/-- How the calls of a write go. -/
structure WriteCalls where
  mkdir : SysOutcome
  openTmp : SysOutcome
  write : SysOutcome
  /-- The bytes that a write leaves that does not go through. -/
  written : ℕ
  fsync : SysOutcome
  chmod : SysOutcome
  rename : SysOutcome

/-- How the calls of a read go. -/
structure ReadCalls where
  /-- `metadata` fails in `exists`. -/
  unseen : Bool
  stat : Option String
  read : Option String

/-- `ProtoError::storage`, with the text of the system. -/
def storageError (what e : String) : Interrupt Stop := .stopped (.err (.storage (what ++ ": " ++ e)))

/-! ## Writing -/

/-- `write_private_file_atomic` up to the renaming. -/
def writeTmp (c : WriteCalls) (path : StorePath) (data : List UInt8) : OnDisk Unit := do
  sysOr c.mkdir id id fun e => throw (storageError ("mkdir " ++ path.parent) e)
  let tmp := path.withExtension "tmp"
  sysOr c.openTmp (create tmp 0o600) id fun e => throw (storageError ("open " ++ tmp.display) e)
  sysOr c.write (append tmp data) (append tmp (data.take c.written)) fun e =>
    throw (storageError "write" e)
  sysOr c.fsync id id fun e => throw (storageError "fsync" e)
  sysOr c.chmod (chmod tmp 0o600) id fun e => throw (storageError "chmod" e)

/-- `write_private_file_atomic`. -/
def writePrivateFileAtomic (c : WriteCalls) (path : StorePath) (data : List UInt8) : OnDisk Unit := do
  writeTmp c path data
  sysOr c.rename (rename (path.withExtension "tmp") path) id fun e => throw (storageError "rename" e)

/-- How a write ends. -/
def WriteCalls.fate (c : WriteCalls) (path : StorePath) : Fate Stop :=
  .ofRename (do
    settled c.mkdir (storageError ("mkdir " ++ path.parent))
    settled c.openTmp (storageError ("open " ++ (path.withExtension "tmp").display))
    settled c.write (storageError "write")
    settled c.fsync (storageError "fsync")
    settled c.chmod (storageError "chmod")) c.rename (storageError "rename")

/-- A file that only its owner may read and write. -/
def privateFile (data : List UInt8) : File := ⟨data, 0o600⟩

/-- Whatever the calls do, the file is the old one or the new one. -/
theorem writePrivateFileAtomic_replaces (c : WriteCalls) {path : StorePath} (data : List UInt8)
    (h : path.extension ≠ "tmp") :
    Replaces (path.withExtension "tmp") path (· = privateFile data) (c.fate path)
      (writePrivateFileAtomic c path data) := by
  have hne : path.withExtension "tmp" ≠ path := fun heq => h (congrArg StorePath.extension heq).symm
  refine .of_scratch hne ?_ (fun e => .throw _) c.rename
  refine (Works.sysOr_id fun e => .throw _).bind ?_
  refine (Works.create (fun e => .throw _) 0o600).bind ?_
  refine (Works.append (fun e => .throw _) (data.take c.written)).bind ?_
  refine (Works.sysOr_id fun e => .throw _).bind ?_
  exact Works.chmod (fun e => .throw _) 0o600

/-! ## Reading -/

/-- `verify_private_permissions`, with the text of its error. -/
def verifyPrivatePermissions (c : ReadCalls) (path : StorePath) (f : File) : Except String Unit :=
  match c.stat with
  | some e => .error ("stat " ++ path.display ++ ": " ++ e)
  | none =>
      let mode := f.mode &&& 0o777
      ensure (mode &&& 0o077 = 0) (path.display ++ " must not be group/world accessible (mode " ++
        String.ofList (Nat.toDigits 8 mode) ++ ")")

/-- What a load finds: `exists`, the check of the permissions if there is one, and `fs::read`. -/
def fileRead (c : ReadCalls) (path : StorePath) (isPrivate : Bool) (what : String)
    (d : Disk StorePath) : FileRead :=
  match d path with
  | none => .missing
  | some f =>
      if c.unseen then .missing
      else match (if isPrivate then verifyPrivatePermissions c path f else .ok ()) with
        | .error m => .refused m
        | .ok () =>
            match c.read with
            | some e => .refused ("read " ++ what ++ ": " ++ e)
            | none => .contents f.data

/-- The `?` operator. -/
def orInterrupt {α : Type} (x : Except Stop α) : OnDisk α := Routine.lift (x.mapError .stopped)

/-! ## The client -/

/-- `FsCredentialStore`. -/
structure FsCredentialStore where
  deviceRootFile : StorePath
  serverPubFile : StorePath
  roleCredFile : StorePath

namespace FsCredentialStore

/-- `FsCredentialStore::with_dir`. -/
def withDir (dir : String) : FsCredentialStore where
  deviceRootFile := ⟨dir, "device_root", "bin"⟩
  serverPubFile := ⟨dir, "server_pub", "bin"⟩
  roleCredFile := ⟨dir, "role_cred", "bin"⟩

/-- `FsCredentialStore::new_default`. -/
def newDefault : FsCredentialStore := withDir "./client-state"

variable (st : FsCredentialStore)

/-- `load_or_create_device_root`.  The bytes that are drawn for a new root are an argument. -/
def loadOrCreateDeviceRoot (r : ReadCalls) (w : WriteCalls) (draw : Bytes 32)
    (createIfMissing : Bool) : OnDisk (Bytes 32) :=
  inspect (fileRead r st.deviceRootFile true "device_root") fun
    | .missing =>
        if createIfMissing then do
          writePrivateFileAtomic w st.deviceRootFile draw.val
          return draw
        else stop (.wire .credentialMissing "device root missing; run --setup first")
    | .refused m => stop (.err (.storage m))
    | .contents data =>
        if h : data.length = 32 then pure ⟨data, h⟩
        else stop (.wire .credentialMissing "device_root wrong length")

variable {q : ℕ} {G : Type} [AddCommGroup G] [Module (ZMod q) G] (S : Suite q G)

/-- `save_server_pub`. -/
def saveServerPub (w : WriteCalls) (pubkey : G) : OnDisk Unit :=
  writePrivateFileAtomic w st.serverPubFile (S.encPoint pubkey).val

/-- The bytes of `save_role_credential`. -/
def roleCredentialBytes (cred : RoleCredential q G) : List UInt8 :=
  natLE 8 cred.roleCode.toNat ++ ((encScalar cred.blind).val ++ (S.encPoint cred.commitment).val)

/-- `save_role_credential`. -/
def saveRoleCredential (w : WriteCalls) (cred : RoleCredential q G) : OnDisk Unit :=
  writePrivateFileAtomic w st.roleCredFile (roleCredentialBytes S cred)

variable [DecidableEq G]

/-- `load_server_pub`.  The permissions of this file are not checked. -/
def loadServerPub (r : ReadCalls) : OnDisk (Option G) :=
  inspect (fileRead r st.serverPubFile false "server_pub") fun file =>
    orInterrupt (Checked.loadServerPub S file)

/-- `load_role_credential`. -/
def loadRoleCredential (r : ReadCalls) : OnDisk (Option (RoleCredential q G)) :=
  inspect (fileRead r st.roleCredFile true "role_cred") fun file =>
    orInterrupt (Checked.loadRoleCredential S file)

end FsCredentialStore

/-! ## The server -/

/-- `FsServerKeyStore`. -/
structure FsServerKeyStore where
  path : StorePath

/-- `FsServerKeyStore::new_default`. -/
def FsServerKeyStore.newDefault : FsServerKeyStore := ⟨⟨"./server-state", "server_sk", "bin"⟩⟩

/-- `load_or_create_server_sk`. -/
def FsServerKeyStore.loadOrCreateServerSk (st : FsServerKeyStore) (q : ℕ) (r : ReadCalls)
    (w : WriteCalls) (draw : Bytes 64) : OnDisk (ZMod q) :=
  inspect (fileRead r st.path true "server_sk") fun
    | .missing => do
        let sk : ZMod q := scalarOf draw
        writePrivateFileAtomic w st.path (encScalar sk).val
        return sk
    | .refused m => stop (.err (.storage m))
    | .contents data =>
        if h : data.length = 32 then orInterrupt (orStop (decodeScalar q ⟨data, h⟩ "server_sk"))
        else stop (.wire .registryCorrupt "server_sk wrong length")

/-! ## What a load finds after a write -/

/-- How a read of a private file goes: whether the file is seen, or the text of the refusal. -/
def ReadCalls.verdict (c : ReadCalls) (path : StorePath) (isPrivate : Bool) (what : String) :
    Except String Bool :=
  if c.unseen then .ok false
  else match if isPrivate then c.stat else none with
    | some e => .error ("stat " ++ path.display ++ ": " ++ e)
    | none =>
        match c.read with
        | some e => .error ("read " ++ what ++ ": " ++ e)
        | none => .ok true

/-- What is found with a verdict on a file with these contents. -/
def FileRead.of (verdict : Except String Bool) (data : List UInt8) : FileRead :=
  match verdict with
  | .error m => .refused m
  | .ok false => .missing
  | .ok true => .contents data

/-- The permissions of a file that was written are not refused. -/
theorem fileRead_private (c : ReadCalls) {path : StorePath} (isPrivate : Bool) (what : String)
    {data : List UInt8} {d : Disk StorePath} (h : d path = some (privateFile data)) :
    fileRead c path isPrivate what d = .of (c.verdict path isPrivate what) data := by
  have hverify : verifyPrivatePermissions c path (privateFile data) =
      match c.stat with
      | some e => .error ("stat " ++ path.display ++ ": " ++ e)
      | none => .ok () := by
    unfold verifyPrivatePermissions
    cases c.stat with
    | some e => rfl
    | none => exact ensure_pos (by decide : 0o600 &&& 0o777 &&& 0o077 = 0)
  unfold fileRead ReadCalls.verdict
  simp only [h, hverify]
  cases c.unseen with
  | true => rfl
  | false =>
      cases isPrivate <;> cases c.stat <;> cases c.read <;> rfl

theorem fileRead_missing (c : ReadCalls) {path : StorePath} (isPrivate : Bool) (what : String)
    {d : Disk StorePath} (h : d path = none) : fileRead c path isPrivate what d = .missing := by
  rw [fileRead, h]

end ZkArche.Rust
