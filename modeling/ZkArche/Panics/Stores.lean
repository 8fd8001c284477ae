import ZkArche.Panics.Crypto
import ZkArche.Proto.ClientRust

/-!
# The file stores of the Rust crate with their panics

The loads of `store/fs.rs`: the server secret, and what a client keeps.  A file is missing, or it
cannot be had, with the text of the storage error, or it has contents.  Writing a file has an outcome
too.  The checks of permissions are among the reasons why a file cannot be had.

A load cuts the contents into fields only after it has checked their length, so it never panics.
-/

namespace ZkArche.Rust

/-- What is found where a file should be. -/
inductive FileRead where
  | missing
  /-- A storage error with this text. -/
  | refused (msg : String)
  | contents (data : List UInt8)

namespace Checked

variable {q : ℕ} {G : Type} [AddCommGroup G] [Module (ZMod q) G] (S : Suite q G)

/-- `write_private_file_atomic`, with its outcome. -/
def writePrivateFile : Except String Unit → Except Stop Unit
  | .ok () => .ok ()
  | .error m => .error (.err (.storage m))

/-- `load_or_create_server_sk`. -/
def loadOrCreateServerSk (q : ℕ) (file : FileRead) (write : Except String Unit)
    (draw : Bytes 64) : Except Stop (ZMod q) :=
  match file with
  | .refused m => .error (.err (.storage m))
  | .contents data => do
      ensure (data.length = 32) (.wire .registryCorrupt "server_sk wrong length")
      let b ← orPanic (SliceOp.fillArray 32 data)
      orStop (decodeScalar q b "server_sk")
  | .missing => do
      writePrivateFile write
      return scalarOf draw

/-- `load_or_create_device_root`. -/
def loadOrCreateDeviceRoot (file : FileRead) (write : Except String Unit) (draw : Bytes 32)
    (createIfMissing : Bool) : Except Stop (Bytes 32) :=
  match file with
  | .refused m => .error (.err (.storage m))
  | .contents data => do
      ensure (data.length = 32) (.wire .credentialMissing "device_root wrong length")
      orPanic (SliceOp.fillArray 32 data)
  | .missing =>
      if createIfMissing then do
        writePrivateFile write
        return draw
      else .error (.wire .credentialMissing "device root missing; run --setup first")

section

variable [DecidableEq G]

/-- `load_server_pub`. -/
def loadServerPub : FileRead → Except Stop (Option G)
  | .missing => .ok none
  | .refused m => .error (.err (.storage m))
  | .contents data => do
      ensure (data.length = 32) (.wire .registryCorrupt "server_pub wrong length")
      let b ← orPanic (SliceOp.fillArray 32 data)
      let P ← orStop (decompressPoint S b "pinned server_pub")
      orStop (rejectIdentity P "pinned server_pub")
      return some P

/-- `make_role_commitment`. -/
def makeRoleCommitment (roleCode : UInt64) (blind : ZMod q) : Except Stop G := do
  let h ← attrH S
  return (scalarOfU64 roleCode : ZMod q) • S.base + blind • h

omit [DecidableEq G] in
theorem makeRoleCommitment_eq (roleCode : UInt64) (blind : ZMod q) :
    makeRoleCommitment S roleCode blind = .ok (Rust.makeRoleCommitment S roleCode blind) := by
  rw [makeRoleCommitment, attrH_eq]
  rfl

/-- `load_role_credential`. -/
def loadRoleCredential : FileRead → Except Stop (Option (RoleCredential q G))
  | .missing => .ok none
  | .refused m => .error (.err (.storage m))
  | .contents data => do
      ensure (data.length = 72) (.wire .registryCorrupt "role_cred wrong length")
      let code ← orPanic (SliceOp.range data 0 8)
      let code ← orPanic (SliceOp.fillArray 8 code)
      let roleCode := UInt64.ofNat (leNat code.val)
      let blind ← orPanic (SliceOp.range data 8 40)
      let blind ← orPanic (SliceOp.fillArray 32 blind)
      let blind ← orStop (decodeScalar q blind "role blind")
      let commitment ← orPanic (SliceOp.range data 40 72)
      let commitment ← orPanic (SliceOp.fillArray 32 commitment)
      let commitment ← orStop (decompressPoint S commitment "role commitment")
      let expected ← makeRoleCommitment S roleCode blind
      ensure (S.encPoint expected = S.encPoint commitment)
        (.wire .registryCorrupt "role credential commitment mismatch")
      return some ⟨roleCode, blind, commitment⟩

end

/-! ## No load panics -/

/-- An error that is no panic. -/
def NoPanic (e : Stop) : Prop := ∃ p, e = .err p

theorem orStop_noPanic {α : Type} (x : Except ProtoError α) : FailsWith NoPanic (orStop x) := by
  cases x with
  | ok a => exact .ok a
  | error e => exact .error ⟨e, rfl⟩

theorem writePrivateFile_noPanic (write : Except String Unit) :
    FailsWith NoPanic (writePrivateFile write) := by
  cases write with
  | ok => exact .ok ()
  | error m => exact .error ⟨_, rfl⟩

/-- The result as Rust has it, where a panic has none. -/
def resultOf {α : Type} : Except Stop α → Except ProtoError α
  | .ok a => .ok a
  | .error (.err e) => .error e
  | .error (.panic m) => .error (.internal m)

theorem orStop_resultOf {α : Type} {y : Except Stop α} (h : FailsWith NoPanic y) :
    orStop (resultOf y) = y := by
  cases y with
  | ok a => rfl
  | error e =>
      obtain ⟨p, rfl⟩ := h e rfl
      rfl

/-- Filling an array from a slice of its length. -/
theorem fillArray_noPanic {n : ℕ} {data : List UInt8} (h : data.length = n) :
    FailsWith NoPanic (orPanic (SliceOp.fillArray n data)) := by
  rw [SliceOp.fillArray_of_length_eq h]
  exact .ok _

/-- Cutting out a range that a file has. -/
theorem range_noPanic {i j : ℕ} {data : List UInt8} (hij : i ≤ j) (hj : j ≤ data.length) :
    FailsWith NoPanic (orPanic (SliceOp.range data i j)) := by
  rw [SliceOp.range_of_le hij hj]
  exact .ok _

theorem length_of_range {i j : ℕ} {data s : List UInt8} (hj : j ≤ data.length)
    (h : orPanic (SliceOp.range data i j) = .ok s) : s.length = j - i := by
  unfold SliceOp.range at h
  split at h
  next hr =>
    rw [← Except.ok.inj h, List.length_take, List.length_drop]
    omega
  next => cases h

theorem loadOrCreateServerSk_noPanic (file : FileRead) (write : Except String Unit)
    (draw : Bytes 64) : FailsWith NoPanic (loadOrCreateServerSk q file write draw) := by
  cases file with
  | missing => exact .bind (writePrivateFile_noPanic write) fun _ _ => .ok _
  | refused m => exact .error ⟨_, rfl⟩
  | contents data =>
      refine .bind (.of_ensure fun _ => ⟨_, rfl⟩) ?_
      intro u hlen
      refine .bind (fillArray_noPanic (ensure_eq_ok_iff.mp hlen)) ?_
      intro b _
      exact orStop_noPanic _

theorem loadOrCreateDeviceRoot_noPanic (file : FileRead) (write : Except String Unit)
    (draw : Bytes 32) (createIfMissing : Bool) :
    FailsWith NoPanic (loadOrCreateDeviceRoot file write draw createIfMissing) := by
  cases file with
  | missing =>
      cases createIfMissing with
      | true => exact .bind (writePrivateFile_noPanic write) fun _ _ => .ok _
      | false => exact .error ⟨_, rfl⟩
  | refused m => exact .error ⟨_, rfl⟩
  | contents data =>
      refine .bind (.of_ensure fun _ => ⟨_, rfl⟩) ?_
      intro u hlen
      exact fillArray_noPanic (ensure_eq_ok_iff.mp hlen)

theorem loadServerPub_noPanic [DecidableEq G] (file : FileRead) :
    FailsWith NoPanic (loadServerPub S file) := by
  cases file with
  | missing => exact .ok none
  | refused m => exact .error ⟨_, rfl⟩
  | contents data =>
      refine .bind (.of_ensure fun _ => ⟨_, rfl⟩) ?_
      intro u hlen
      refine .bind (fillArray_noPanic (ensure_eq_ok_iff.mp hlen)) ?_
      intro b _
      exact .bind (orStop_noPanic _) fun P _ => .bind (orStop_noPanic _) fun _ _ => .ok _

theorem loadRoleCredential_noPanic [DecidableEq G] (file : FileRead) :
    FailsWith NoPanic (loadRoleCredential S file) := by
  cases file with
  | missing => exact .ok none
  | refused m => exact .error ⟨_, rfl⟩
  | contents data =>
      refine .bind (.of_ensure fun _ => ⟨_, rfl⟩) ?_
      intro u hlen
      have h72 : data.length = 72 := ensure_eq_ok_iff.mp hlen
      have hcut : ∀ {i j : ℕ} {s : List UInt8}, j ≤ 72 → orPanic (SliceOp.range data i j) = .ok s →
          s.length = j - i := fun hj h => length_of_range (by omega) h
      refine .bind (range_noPanic (by omega) (by omega)) fun code hcode => ?_
      refine .bind (fillArray_noPanic (hcut (by omega) hcode)) fun code _ => ?_
      refine .bind (range_noPanic (by omega) (by omega)) fun blind hblind => ?_
      refine .bind (fillArray_noPanic (hcut (by omega) hblind)) fun blind _ => ?_
      refine .bind (orStop_noPanic _) fun blind _ => ?_
      refine .bind (range_noPanic (by omega) (by omega)) fun c hc => ?_
      refine .bind (fillArray_noPanic (hcut (by omega) hc)) fun c _ => ?_
      refine .bind (orStop_noPanic _) fun c _ => ?_
      refine .bind ?_ fun expected _ => .bind (.of_ensure fun _ => ⟨_, rfl⟩) fun _ _ => .ok _
      rw [makeRoleCommitment_eq]
      exact .ok _

end Checked

end ZkArche.Rust
