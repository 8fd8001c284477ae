import ZkArche.Store.CredentialsRust
import ZkArche.Store.DiskC

/-!
# Keys that do not change

The server key and the root of a device are loaded again and again: at every start, and the Rust
server loads its key for every SETUP_1 and AUTH_1.  When there is no file, a new key is drawn and
written.

All keys that are ever answered are the same (`identity_kept`), however the calls to the system go
and wherever the program was killed before.  In the Rust crate this needs that `exists` does not miss
a file that is there, since a file that it misses is replaced.
-/

namespace ZkArche

open Disk

namespace Rust

variable {q : ℕ} {G : Type}

/-- A load of the server key: how the calls go, and the bytes that a new key is drawn from. -/
structure KeyRequest (n : ℕ) where
  reads : ReadCalls
  writes : WriteCalls
  draw : Bytes n

/-- The loads of the server key, from any disk. -/
def serverKeyMachine (st : FsServerKeyStore) (q : ℕ) :
    Machine (Disk StorePath) (KeyRequest 64) (Option (ZMod q)) where
  init _ := True
  step d i :=
    let (r, d') := (st.loadOrCreateServerSk q i.reads i.writes i.draw).exec d
    (d', r.toOption)

/-- The loads of the device root, with and without creating one. -/
def deviceRootMachine (st : FsCredentialStore) :
    Machine (Disk StorePath) (KeyRequest 32 × Bool) (Option (Bytes 32)) where
  init _ := True
  step d i :=
    let (r, d') := (st.loadOrCreateDeviceRoot i.1.reads i.1.writes i.1.draw i.2).exec d
    (d', r.toOption)

/-- The calls do not miss a file. -/
def NotMissed {ι β : Type} (reads : ι → ReadCalls) (_ : List (ι × Option β))
    (_ : Disk StorePath) (i : ι) : Prop := (reads i).unseen = false

/-- A file that is there is read or refused. -/
theorem fileRead_seen {c : ReadCalls} {path : StorePath} {d : Disk StorePath} {f : File}
    (hseen : c.unseen = false) (h : d path = some f) (isPrivate : Bool) (what : String) :
    fileRead c path isPrivate what d = .contents f.data ∨
      ∃ m, fileRead c path isPrivate what d = .refused m := by
  simp only [fileRead, h, hseen, Bool.false_eq_true, if_false]
  split
  · exact .inr ⟨_, rfl⟩
  · split
    · exact .inr ⟨_, rfl⟩
    · exact .inl rfl

/-- The server key is loaded from its file or created there. -/
theorem serverKey_loadsOrCreates [NeZero q] (hq : q ≤ 2 ^ 255) {st : FsServerKeyStore}
    (hst : st.path.extension ≠ "tmp") :
    LoadsOrCreates st.path (fun f (k : ZMod q) => f.data = (encScalar k).val)
      (NotMissed KeyRequest.reads) (serverKeyMachine st q) where
  kept h d i f hi hd := by
    simp only [serverKeyMachine, FsServerKeyStore.loadOrCreateServerSk, exec_inspect]
    obtain hfound | ⟨m, hfound⟩ := fileRead_seen hi hd true "server_sk"
    · rw [hfound]
      simp only []
      split
      next hlen =>
        refine ⟨hd, fun k hk => ?_⟩
        rw [orInterrupt, Routine.exec_lift] at hk
        unfold decodeScalar at hk
        cases hdec : (decScalar ⟨f.data, hlen⟩ : Option (ZMod q)) with
        | none =>
            rw [hdec] at hk
            cases hk
        | some x =>
            rw [hdec] at hk
            cases hk
            rw [(decScalar_eq_some_iff hq).mp hdec]
      next => exact ⟨hd, fun _ hk => by cases hk⟩
    · rw [hfound]
      exact ⟨hd, fun _ hk => by cases hk⟩
  created h d i k hi hd hk := by
    have hwrite := writePrivateFileAtomic_replaces i.writes (encScalar (scalarOf i.draw : ZMod q)).val hst
    simp only [serverKeyMachine, FsServerKeyStore.loadOrCreateServerSk, exec_inspect,
      fileRead_missing i.reads true "server_sk" hd] at hk ⊢
    obtain ⟨rfl, hfile⟩ := hwrite.returned (Fate.clear_ofRename ..) (scalarOf i.draw : ZMod q) d k hk
    obtain ⟨f, hf, rfl⟩ := hfile
    exact ⟨_, hf, rfl⟩

/-- The device root is loaded from its file or created there. -/
theorem deviceRoot_loadsOrCreates {st : FsCredentialStore}
    (hst : st.deviceRootFile.extension ≠ "tmp") :
    LoadsOrCreates st.deviceRootFile (fun f (root : Bytes 32) => f.data = root.val)
      (NotMissed fun i : KeyRequest 32 × Bool => i.1.reads) (deviceRootMachine st) where
  kept h d i f hi hd := by
    simp only [deviceRootMachine, FsCredentialStore.loadOrCreateDeviceRoot, exec_inspect]
    obtain hfound | ⟨m, hfound⟩ := fileRead_seen hi hd true "device_root"
    · rw [hfound]
      simp only []
      split
      next hlen =>
        refine ⟨hd, ?_⟩
        rintro root ⟨⟩
        rfl
      next => exact ⟨hd, fun _ hk => by cases hk⟩
    · rw [hfound]
      exact ⟨hd, fun _ hk => by cases hk⟩
  created h d i root hi hd hroot := by
    obtain ⟨⟨reads, writes, draw⟩, createIfMissing⟩ := i
    simp only [deviceRootMachine, FsCredentialStore.loadOrCreateDeviceRoot, exec_inspect,
      fileRead_missing reads true "device_root" hd] at hroot ⊢
    cases createIfMissing with
    | false => cases hroot
    | true =>
        have hwrite := writePrivateFileAtomic_replaces writes draw.val hst
        obtain ⟨rfl, f, hf, rfl⟩ := hwrite.returned (Fate.clear_ofRename ..) draw d root hroot
        exact ⟨_, hf, rfl⟩

end Rust

namespace C

/-- A load of the server key in C. -/
structure KeyRequest where
  reads : ReadCalls
  writes : WriteCalls
  random : Bytes 32

/-- The loads of the server key, from any disk. -/
def serverKeyMachine (path : String) : Machine (Disk String) KeyRequest (Option (Bytes 32)) where
  init _ := True
  step d i :=
    let (r, d') := (authServerKeyLoadOrCreateFile i.reads i.writes path i.random).exec d
    (d', r.toOption)

/-- The server key is loaded from its file or created there. -/
theorem serverKey_loadsOrCreates (path : String) :
    LoadsOrCreates path (fun f (key : Bytes 32) => ((f.data.take skeyFileLen).drop 9).take 32 = key.val)
      Machine.anyInput (serverKeyMachine path) where
  kept h d i f hi hd := by
    simp only [serverKeyMachine, authServerKeyLoadOrCreateFile, exec_inspect, fileReads, hd]
    cases i.reads.fails with
    | true => exact ⟨hd, fun _ hk => by cases hk⟩
    | false =>
        simp only [Bool.false_eq_true, if_false, Routine.exec_lift,
          authServerKeyLoadOrCreate_reads, i.reads.cut_contents]
        split
        · refine ⟨hd, ?_⟩
          rintro key ⟨⟩
          rfl
        · exact ⟨hd, fun _ hk => by cases hk⟩
  created h d i key hi hd hkey := by
    have hwrite := atomicWriteFile_replaces i.writes path (skeyMagic ++ ([1] ++ i.random.val))
    simp only [serverKeyMachine, authServerKeyLoadOrCreateFile, exec_inspect, fileReads, hd] at hkey ⊢
    cases hfails : i.reads.fails with
    | true =>
        simp only [hfails] at hkey
        cases hkey
    | false =>
        simp only [hfails] at hkey
        obtain ⟨rfl, f, hf, hdata⟩ := hwrite.returned (Fate.clear_ofRename ..) i.random d key hkey
        refine ⟨f, hf, ?_⟩
        have hlen : (skeyMagic ++ ([1] ++ i.random.val)).length = skeyFileLen := by
          rw [List.length_append, List.length_append, i.random.len]
          rfl
        have htag : (skeyMagic ++ [1]).length = 9 := rfl
        rw [hdata, List.take_of_length_le hlen.le, ← List.append_assoc, List.drop_left' htag,
          List.take_of_length_le i.random.len.le]

end C

/-- Every server key of either implementation, and every root of a device, is the same whenever it is
answered, over every run of loads from any disk. -/
theorem identity_kept (q : ℕ) [NeZero q] (hq : q ≤ 2 ^ 255) (dir path : String) :
    (∀ h d, (Rust.serverKeyMachine ⟨⟨dir, "server_sk", "bin"⟩⟩ q).Run
      (Rust.NotMissed Rust.KeyRequest.reads) h d → SameAnswers h) ∧
    (∀ h d, (Rust.deviceRootMachine (.withDir dir)).Run
      (Rust.NotMissed fun i => i.1.reads) h d → SameAnswers h) ∧
    ∀ h d, (C.serverKeyMachine path).Run Machine.anyInput h d → SameAnswers h := by
  have htmp : "bin" ≠ "tmp" := by decide
  refine ⟨?_, ?_, ?_⟩
  · refine fun h d r => (Rust.serverKey_loadsOrCreates hq htmp).sameAnswers ?_ r
    exact fun f k k' hk hk' => encScalar_inj hq (Bytes.ext (hk.symm.trans hk'))
  · refine fun h d r => (Rust.deviceRoot_loadsOrCreates htmp).sameAnswers ?_ r
    exact fun f root root' hr hr' => Bytes.ext (hr.symm.trans hr')
  · refine fun h d r => (C.serverKey_loadsOrCreates path).sameAnswers ?_ r
    exact fun f key key' hk hk' => Bytes.ext (hk.symm.trans hk')

/-- A start of the server, with what becomes of its renaming. -/
def Rust.demoStart (rename : SysOutcome) : Rust.KeyRequest 64 :=
  ⟨Rust.demoReads, Rust.demoWrites rename, .zero 64⟩

/-- A server is killed in the renaming of its first key, and starts again twice. -/
theorem identity_kept_killed :
    SameAnswers ((Rust.serverKeyMachine ⟨⟨"./server-state", "server_sk", "bin"⟩⟩ 11).exec []
      (fun _ => none) [Rust.demoStart (.killed true), Rust.demoStart .done, Rust.demoStart .done]).1 := by
  have h0 : (Rust.serverKeyMachine ⟨⟨"./server-state", "server_sk", "bin"⟩⟩ 11).Run
      (Rust.NotMissed Rust.KeyRequest.reads) [] fun _ => none := .init trivial
  have h3 := ((h0.step (Rust.demoStart (.killed true)) rfl).step (Rust.demoStart .done) rfl).step
    (Rust.demoStart .done) rfl
  exact (identity_kept 11 smallSuite.order_le "./server-state" "server.key").1 _ _ h3

end ZkArche
