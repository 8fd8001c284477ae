import ZkArche.Crypto.SmallSuite
import ZkArche.Lib.Mutex
import ZkArche.Panics.Messages
import ZkArche.Server.ServedRust

/-!
# The Rust server never panics

The drivers of `server/src/main.rs` share the state behind one mutex.  For a packet they take the
lock, collect what is due and call `dispatch_packet`.  A panic in there would poison the mutex, and
every later `lock().unwrap()` would panic too.

This never happens, for any packets from any peers in any order, as long as the texts of the
storage errors fit a packet (`mutex_never_poisoned`).  Writing the log and reading `OsRng` are taken
to succeed.
-/

namespace ZkArche.Rust

/-- The texts of the storage errors are shorter than `MAX_PAYLOAD - 2` bytes. -/
structure Arrival.StorageShort {Addr G : Type} (a : Arrival Addr G) : Prop where
  read : ∀ m, a.skFile = .refused m → (ascii m).length < maxPayload - 2
  create : ∀ m, a.skWrite = .error m → (ascii m).length < maxPayload - 2
  save : ∀ m, a.registryWrite = .error m → (ascii m).length < maxPayload - 2

theorem fits_storage {m : String} (h : (ascii m).length < maxPayload - 2) :
    Fits (.storage m) := by
  have hmax : maxPayload = 2024 := rfl
  show (ascii m).length + 2 ≤ maxPayload
  omega

/-- An error that fits is one of the result. -/
theorem resultOf_fits {α : Type} {x : Except Stop α} (h : FailsWith Sendable x) :
    FailsWith Fits (Checked.resultOf x) := by
  cases x with
  | ok a => exact .ok a
  | error e =>
      obtain ⟨p, rfl, hfit⟩ := h e rfl
      exact .error hfit

theorem writePrivateFile_sendable {write : Except String Unit}
    (h : ∀ m, write = .error m → (ascii m).length < maxPayload - 2) :
    FailsWith Sendable (Checked.writePrivateFile write) := by
  cases write with
  | ok => exact .ok ()
  | error m => exact .error ⟨_, rfl, fits_storage (h m rfl)⟩

theorem loadOrCreateServerSk_sendable (q : ℕ) {file : FileRead} {write : Except String Unit}
    (draw : Bytes 64) (hread : ∀ m, file = .refused m → (ascii m).length < maxPayload - 2)
    (hwrite : ∀ m, write = .error m → (ascii m).length < maxPayload - 2) :
    FailsWith Sendable (Checked.loadOrCreateServerSk q file write draw) := by
  cases file with
  | missing => exact .bind (writePrivateFile_sendable hwrite) fun _ _ => .ok _
  | refused m => exact .error ⟨_, rfl, fits_storage (hread m rfl)⟩
  | contents data =>
      refine .bind (.of_ensure fun _ => sendable_wire (by decide) _) fun u hlen => ?_
      rw [SliceOp.fillArray_of_length_eq (ensure_eq_ok_iff.mp hlen)]
      exact orStop_sendable (decodeScalar_fits (by decide) _)

theorem Arrival.StorageShort.fits {Addr G : Type} {a : Arrival Addr G} (h : a.StorageShort)
    (q : ℕ) : (a.packet q).StorageFits :=
  ⟨resultOf_fits (loadOrCreateServerSk_sendable q a.skDraw h.read h.create),
    resultOf_fits (writePrivateFile_sendable h.save)⟩

/-- What a call of `dispatch_packet` returns. -/
def Reply.returned : Reply → Except Stop (Option (List UInt8))
  | .panicked stop => .error stop
  | r => .ok r.sent

/-- A call of `dispatch_packet` that did not panic returns. -/
theorem Reply.returned_of_ne {r : Reply} (h : ∀ stop, r ≠ .panicked stop) :
    ∃ resp, r.returned = .ok resp := by
  cases r with
  | panicked stop => exact absurd rfl (h stop)
  | dropped => exact ⟨_, rfl⟩
  | cached pkt => exact ⟨_, rfl⟩
  | fresh pkt => exact ⟨_, rfl⟩

/-- What the drivers do under the lock. -/
inductive LockedOp (Addr G : Type) where
  /-- A received packet, after a collection. -/
  | packet (a : Arrival Addr G) (now : ℕ) (pickSetup pickAuth : ℕ → ℕ)
  /-- The UDP driver collects when it has waited for a packet in vain. -/
  | gc (now : ℕ) (pickSetup pickAuth : ℕ → ℕ)
  /-- A TCP connection starts with reading `io_timeout`. -/
  | connect

/-- The storage errors of the operation are short. -/
def LockedOp.StorageShort {Addr G : Type} : LockedOp Addr G → Prop
  | .packet a _ _ _ => a.StorageShort
  | _ => True

variable {Addr : Type} [DecidableEq Addr] {q : ℕ} {G : Type} [AddCommGroup G]
  [Module (ZMod q) G] [DecidableEq G] (S : Suite q G) (K : Crates S)

/-- The critical section of an operation. -/
def underLock : LockedOp Addr G → ServerState Addr G →
    ServerState Addr G × Except Stop (Option (List UInt8))
  | .packet a now pickSetup pickAuth, st =>
      let r := Checked.dispatchPacket S K (gcIfDue st now pickSetup pickAuth) a
      (r.1, r.2.returned)
  | .gc now pickSetup pickAuth, st => (gcIfDue st now pickSetup pickAuth, .ok none)
  | .connect, st => (st, .ok none)

/-- The server behind its mutex. -/
def sharedServer (start : ServerState Addr G) : Machine (Mutex (ServerState Addr G))
    (LockedOp Addr G) (Option (Except Stop (Option (List UInt8)))) :=
  Mutex.machine (underLock S K) start

/-- `dispatch_packet` returns, from any state. -/
theorem dispatchPacket_returned (st : ServerState Addr G) {a : Arrival Addr G}
    (h : a.StorageShort) :
    ∃ resp, (Checked.dispatchPacket S K st a).2.returned = .ok resp := by
  rw [Checked.dispatchPacket_eq]
  exact Reply.returned_of_ne (dispatchPacket_returns S st (h.fits q))

theorem underLock_returns (op : LockedOp Addr G) (st : ServerState Addr G) (h : op.StorageShort) :
    ∃ resp, (underLock S K op st).2 = .ok resp := by
  cases op with
  | packet a now pickSetup pickAuth => exact dispatchPacket_returned S K _ h
  | gc now pickSetup pickAuth => exact ⟨none, rfl⟩
  | connect => exact ⟨none, rfl⟩

/-- However the server got where it is, its mutex is healthy, everything under the lock returned,
and `dispatch_packet` returns for every further packet. -/
theorem mutex_never_poisoned (profile : Profile) (serverPub : G) (registry : Registry G)
    (replay : MemoryReplayCache) (token : Option (List UInt8)) (now : ℕ)
    {h : List (LockedOp Addr G × Option (Except Stop (Option (List UInt8))))}
    {m : Mutex (ServerState Addr G)}
    (r : (sharedServer S K (.start profile serverPub registry replay token now)).Run
      (fun _ _ op => op.StorageShort) h m) :
    m.poisoned = false ∧ (∀ e ∈ h, ∃ resp, e.2 = some (.ok resp)) ∧
      ∀ a : Arrival Addr G, a.StorageShort →
        ∃ resp, (Checked.dispatchPacket S K m.state a).2.returned = .ok resp := by
  obtain ⟨hhealthy, hreturned⟩ := Mutex.Run.healthy (fun op st => underLock_returns S K op st) r
  exact ⟨hhealthy, hreturned, fun a ha => dispatchPacket_returned S K m.state ha⟩

/-- A SETUP_1 that reaches a server whose secret cannot be read. -/
def demoUnreadable : Arrival Unit (ZMod 11) where
  peer := ()
  bytes := frame pktSetup1 (byteString 15 9) 1
    (C.Setup1.bytes ⟨[], byteString 31 1, byteString 31 3, byteString 31 9, byteString 31 4⟩)
  now := 0
  skFile := .refused "read server_sk: Permission denied (os error 13)"
  skWrite := .ok ()
  skDraw := byteString 63 1
  registryWrite := .ok ()
  iterate := id
  iterate_perm := demoOrder
  setup := ⟨byteString 31 8, byteString 31 6, byteString 63 2⟩
  auth := ⟨byteString 31 8, byteString 63 4, byteString 63 2⟩

/-- The mutex is healthy after it. -/
theorem mutex_never_poisoned_unreadable :
    let start : ServerState Unit (ZMod 11) :=
      .start ⟨0, 1, 1⟩ demoServerKey ∅ (MemoryReplayCache.new 4) none 0
    let shared := sharedServer smallSuite (Crates.ofSuite smallSuite) start
    (shared.step ⟨start, false⟩ (.packet demoUnreadable 0 id id)).1.poisoned = false := by
  intro start shared
  have hshort : demoUnreadable.StorageShort := by
    refine ⟨?_, nofun, nofun⟩
    rintro m ⟨⟩
    exact Nat.lt_of_le_of_lt (show Short _ by decide) (show 100 < maxPayload - 2 by decide)
  have hinit : shared.init ⟨start, false⟩ := rfl
  have hstart : shared.Run (fun _ _ op => op.StorageShort) [] ⟨start, false⟩ := .init hinit
  have hrun := hstart.step (LockedOp.packet demoUnreadable 0 id id) hshort
  exact (mutex_never_poisoned smallSuite (Crates.ofSuite smallSuite) ⟨0, 1, 1⟩ demoServerKey ∅
    (MemoryReplayCache.new 4) none 0 hrun).1

end ZkArche.Rust
