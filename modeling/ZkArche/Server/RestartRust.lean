import ZkArche.Server.ServedRust

/-!
# Restarts of the Rust server

The registry of the Rust server is a hash map with a file (`store/fs.rs`).  A save inserts a record
and writes the whole map, 96 bytes for each record, in the order in which the map is iterated.  A
restart reads the file.  It refuses a file of another length and a record whose key or commitment
is no point or the identity.

So the server restarts only when nothing that enrollment can store is refused.  A SETUP_1 is
decoded with the same checks, and a pending enrollment keeps what was decoded (`Sound`).  With that,
every restart gives back the map from before (`restart_keeps_registry`).
-/

namespace ZkArche.Rust

variable {Addr : Type} [DecidableEq Addr] {q : ℕ} {G : Type} [AddCommGroup G]
  [Module (ZMod q) G] (S : Suite q G) [DecidableEq G]

/-! ## The file -/

/-- `as_chunks::<96>().0`, with the number of chunks left. -/
def asChunks : (left : ℕ) → (data : List UInt8) → left * 96 ≤ data.length → List (Bytes 96)
  | 0, _, _ => []
  | left + 1, data, h =>
      ⟨data.take 96, List.length_take_of_le (by omega)⟩ ::
        asChunks left (data.drop 96) (by rw [List.length_drop]; omega)

/-- The body of the loop of `load_registry`. -/
def loadRecord (map : Registry G) (chunk : Bytes 96) : Except ProtoError (Registry G) := do
  let deviceId := chunk.cut 0 32 (by decide)
  let pubBytes := chunk.cut 32 32 (by decide)
  let rcBytes := chunk.cut 64 32 (by decide)
  match S.decPoint pubBytes with
  | none => .error (.wire .registryCorrupt "registry pubkey invalid")
  | some pubkey =>
      match S.decPoint rcBytes with
      | none => .error (.wire .registryCorrupt "registry commitment invalid")
      | some roleCommitment => do
          rejectIdentity pubkey "registry pubkey"
          rejectIdentity roleCommitment "registry role commitment"
          return map.insert deviceId ⟨pubkey, roleCommitment⟩

/-- `load_registry`.  A file that does not exist is `none`. -/
def loadRegistry : Option (List UInt8) → Except ProtoError (Registry G)
  | none => .ok ∅
  | some data => do
      ensure (data.length % 96 = 0)
        (.wire .registryCorrupt "registry length not multiple of 96")
      (asChunks (data.length / 96) data (Nat.div_mul_le_self _ _)).foldlM (loadRecord S) ∅

/-- The bytes of a record. -/
def recordBytes (r : Bytes 32 × DeviceRecord G) : List UInt8 :=
  r.1.val ++ ((S.encPoint r.2.pubkey).val ++ (S.encPoint r.2.roleCommitment).val)

/-- The bytes that `save_registry_atomic` writes for a map that is iterated in this order. -/
def saveRegistryAtomic (records : List (Bytes 32 × DeviceRecord G)) : List UInt8 :=
  records.flatMap (recordBytes S)

/-- A record that the loader accepts. -/
structure DeviceRecord.Loadable (r : DeviceRecord G) : Prop where
  pubkey : r.pubkey ≠ 0
  roleCommitment : r.roleCommitment ≠ 0

variable {S}

omit [DecidableEq G] in
theorem length_recordBytes (r : Bytes 32 × DeviceRecord G) : (recordBytes S r).length = 96 := by
  simp [recordBytes]

omit [DecidableEq G] in
theorem length_saveRegistryAtomic (l : List (Bytes 32 × DeviceRecord G)) :
    (saveRegistryAtomic S l).length = l.length * 96 := by
  induction l with
  | nil => rfl
  | cons r l ih =>
      rw [saveRegistryAtomic, List.flatMap_cons, List.length_append, length_recordBytes,
        List.length_cons, Nat.succ_mul, Nat.add_comm]
      exact congrArg (· + 96) ih

theorem loadRecord_recordBytes {r : Bytes 32 × DeviceRecord G} (hr : r.2.Loadable)
    (map : Registry G) {chunk : Bytes 96} (hchunk : chunk.val = recordBytes S r) :
    loadRecord S map chunk = .ok (map.insert r.1 r.2) := by
  have hid : chunk.cut 0 32 (by decide) = r.1 := by
    apply Bytes.ext
    show (chunk.val.drop 0).take 32 = r.1.val
    rw [hchunk, recordBytes, List.drop_zero, List.take_left' r.1.len]
  have hpub : chunk.cut 32 32 (by decide) = S.encPoint r.2.pubkey := by
    apply Bytes.ext
    show (chunk.val.drop 32).take 32 = (S.encPoint r.2.pubkey).val
    rw [hchunk, recordBytes, List.drop_left' r.1.len, List.take_left' (S.encPoint r.2.pubkey).len]
  have hrole : chunk.cut 64 32 (by decide) = S.encPoint r.2.roleCommitment := by
    apply Bytes.ext
    show (chunk.val.drop 64).take 32 = (S.encPoint r.2.roleCommitment).val
    rw [hchunk, recordBytes, ← List.append_assoc, List.drop_left' (by simp),
      List.take_of_length_le (by simp)]
  simp only [loadRecord, hid, hpub, hrole, S.decPoint_encPoint, rejectIdentity,
    ensure_pos hr.pubkey, ensure_pos hr.roleCommitment, Except.ok_bind']
  rfl

/-- The records of a file are inserted one after the other. -/
theorem foldlM_loadRecord {l : List (Bytes 32 × DeviceRecord G)}
    (hl : ∀ r ∈ l, r.2.Loadable) {data : List UInt8} (hdata : data = saveRegistryAtomic S l)
    (h : l.length * 96 ≤ data.length) (map : Registry G) :
    (asChunks l.length data h).foldlM (loadRecord S) map =
      .ok (l.foldl (fun map r => map.insert r.1 r.2) map) := by
  induction l generalizing data map with
  | nil => rfl
  | cons r l ih =>
      have hcons : data = recordBytes S r ++ saveRegistryAtomic S l := hdata
      have htake : data.take 96 = recordBytes S r := by
        rw [hcons, List.take_left' (length_recordBytes r)]
      have hdrop : data.drop 96 = saveRegistryAtomic S l := by
        rw [hcons, List.drop_left' (length_recordBytes r)]
      simp only [List.length_cons, asChunks, List.foldlM_cons]
      rw [loadRecord_recordBytes (hl r List.mem_cons_self) map htake, Except.ok_bind',
        ih (fun r' hr' => hl r' (List.mem_cons_of_mem r hr')) hdrop]
      rfl

theorem loadRegistry_saved {l : List (Bytes 32 × DeviceRecord G)}
    (hl : ∀ r ∈ l, r.2.Loadable) :
    loadRegistry S (some (saveRegistryAtomic S l)) =
      .ok (l.foldl (fun map r => map.insert r.1 r.2) ∅) := by
  have hlen := length_saveRegistryAtomic (S := S) l
  have hmod : (saveRegistryAtomic S l).length % 96 = 0 := by omega
  have hdiv : (saveRegistryAtomic S l).length / 96 = l.length := by omega
  simp only [loadRegistry, ensure_pos hmod, Except.ok_bind', hdiv]
  exact foldlM_loadRecord hl rfl _ ∅

omit [AddCommGroup G] [DecidableEq G] in
/-- What was inserted under distinct keys is there. -/
theorem lookup_foldl_insert {l : List (Bytes 32 × DeviceRecord G)}
    (hnodup : (l.map Prod.fst).Nodup) {map : Registry G} {id : Bytes 32} {rec : DeviceRecord G} :
    (l.foldl (fun map r => map.insert r.1 r.2) map).lookup id = some rec ↔
      (id, rec) ∈ l ∨ (id ∉ l.map Prod.fst ∧ map.lookup id = some rec) := by
  induction l generalizing map with
  | nil => simp
  | cons r l ih =>
      rw [List.map_cons, List.nodup_cons] at hnodup
      rw [List.foldl_cons, ih hnodup.2, List.mem_cons, List.map_cons, List.mem_cons, not_or]
      obtain ⟨id', rec'⟩ := r
      by_cases hid : id = id'
      · subst hid
        have hnot : (id, rec) ∉ l := fun hmem => hnodup.1 (List.mem_map.mpr ⟨_, hmem, rfl⟩)
        simp [hnot, hnodup.1, AList.lookup_insert, eq_comm]
      · simp [hid, AList.lookup_insert_ne hid]

omit [AddCommGroup G] [DecidableEq G] in
theorem Registry.nodup_records (reg : Registry G) : (reg.records.map Prod.fst).Nodup := by
  rw [records, List.map_map]
  exact reg.nodupKeys

omit [AddCommGroup G] [DecidableEq G] in
theorem Registry.mem_records {reg : Registry G} {id : Bytes 32} {rec : DeviceRecord G} :
    (id, rec) ∈ reg.records ↔ reg.lookup id = some rec := by
  rw [← Option.mem_def, AList.mem_lookup_iff, records, List.mem_map]
  constructor
  · rintro ⟨⟨_, _⟩, hmem, heq⟩
    cases heq
    exact hmem
  · exact fun hmem => ⟨_, hmem, rfl⟩

/-- A registry is read back from its file, in whatever order it was written. -/
theorem loadRegistry_of_perm {reg : Registry G} {l : List (Bytes 32 × DeviceRecord G)}
    (hl : l.Perm reg.records) (hreg : ∀ r ∈ reg.records, r.2.Loadable) :
    ∃ reg', loadRegistry S (some (saveRegistryAtomic S l)) = .ok reg' ∧
      ∀ id, reg'.lookup id = reg.lookup id := by
  refine ⟨_, loadRegistry_saved fun r hr => hreg r (hl.mem_iff.mp hr), fun id => ?_⟩
  have hnodup : (l.map Prod.fst).Nodup := ((hl.map Prod.fst).nodup_iff).mpr reg.nodup_records
  apply Option.ext
  intro rec
  rw [lookup_foldl_insert hnodup, hl.mem_iff, Registry.mem_records]
  simp

/-! ## What can be stored -/

/-- Every pending and every registered enrollment can be loaded. -/
structure Sound (st : ServerState Addr G) : Prop where
  pending : ∀ sid p, st.setupSessions.lookup sid = some p → p.record.Loadable
  registry : ∀ r ∈ st.registry.records, r.2.Loadable

omit [DecidableEq Addr] [DecidableEq G] in
theorem Sound.of_collected {st st' : ServerState Addr G} (h : Sound st) (hc : Collected st st') :
    Sound st' :=
  ⟨fun sid p hp => h.pending sid p (hc.setup sid p hp), hc.registry ▸ h.registry⟩

omit [AddCommGroup G] [DecidableEq G] in
theorem Registry.forall_insert {reg : Registry G} {P : DeviceRecord G → Prop} {id : Bytes 32}
    {rec : DeviceRecord G} (hreg : ∀ r ∈ reg.records, P r.2) (hrec : P rec) :
    ∀ r ∈ Registry.records (reg.insert id rec), P r.2 := by
  rintro ⟨id', rec'⟩ hr
  rw [Registry.mem_records] at hr
  by_cases hid : id' = id
  · subst hid
    rw [AList.lookup_insert] at hr
    cases hr
    exact hrec
  · rw [AList.lookup_insert_ne hid] at hr
    exact hreg (id', rec') (Registry.mem_records.mpr hr)

omit [DecidableEq Addr] in
/-- A packet stores only what the loader accepts. -/
theorem Sound.served {st st' : ServerState Addr G} {pk : Packet Addr q G} {reply : Reply}
    (h : Sound st) (hs : Served S st pk st' reply) : Sound st' := by
  cases hs with
  | other hu _ => exact ⟨hu.setup ▸ h.pending, hu.registry ▸ h.registry⟩
  | @setup1 hdr _ s1 _ _ _ hdecode _ hreg _ hsetup =>
      refine ⟨fun sid p hp => ?_, hreg ▸ h.registry⟩
      have hproper := (Setup1.decode_eq_ok_iff.mp hdecode).2
      rw [hsetup] at hp
      by_cases hsid : sid = hdr.sessionId
      · rw [hsid, AList.lookup_insert] at hp
        cases hp
        exact ⟨hproper.devicePub, hproper.roleCommitment⟩
      · rw [AList.lookup_insert_ne hsid] at hp
        exact h.pending sid p hp
  | @setup3 hdr _ _ _ _ hlookup _ hreg _ hsetup =>
      refine ⟨fun sid p hp => ?_, ?_⟩
      · rw [hsetup] at hp
        by_cases hsid : sid = hdr.sessionId
        · rw [hsid, AList.lookup_erase] at hp
          cases hp
        · rw [AList.lookup_erase_ne hsid] at hp
          exact h.pending sid p hp
      · rw [hreg]
        exact Registry.forall_insert h.registry (h.pending _ _ hlookup)
  | setup3Unsaved _ _ hlookup _ hreg _ hsetup _ =>
      refine ⟨hsetup ▸ h.pending, ?_⟩
      rw [hreg]
      exact Registry.forall_insert h.registry (h.pending _ _ hlookup)
  | auth1 _ _ _ hreg hsetup _ => exact ⟨hsetup ▸ h.pending, hreg ▸ h.registry⟩
  | auth3 _ _ _ _ hreg hsetup _ => exact ⟨hsetup ▸ h.pending, hreg ▸ h.registry⟩

/-! ## The server with its file -/

section

variable (S)

/-- The record with which `dispatch_packet` calls `RegistryStore::save`, if it does. -/
def savedRecord (st : ServerState Addr G) (pk : Packet Addr q G) :
    Option (Bytes 32 × DeviceRecord G) :=
  match parsePacket pk.bytes with
  | .error _ => none
  | .ok (hdr, payload) =>
      match cachedFor st hdr pk.peer with
      | some _ => none
      | none =>
          if hdr.pktType = pktSetup3 then
            match st.setupSessions.lookup hdr.sessionId with
            | none => none
            | some pending =>
                (handleSetup3 S pending st.serverPub hdr.sessionId hdr.seq payload pk.flush).1
          else none

/-- The order in which a hash map is iterated. -/
structure Order (G : Type) where
  list : List (Bytes 32 × DeviceRecord G) → List (Bytes 32 × DeviceRecord G)
  perm : ∀ l, (list l).Perm l

/-- The server, unless it failed to start, and its registry file. -/
structure Stored (Addr G : Type) where
  server : Option (ServerState Addr G)
  file : Option (List UInt8)

/-- What happens to the server.  Writing the file never fails. -/
inductive StoredOp (Addr : Type) (q : ℕ) (G : Type) where
  | packet (pk : Packet Addr q G) (order : Order G)
  | gc (now : ℕ) (pickSetup pickAuth : ℕ → ℕ)
  /-- The process is started again, with nothing but its file. -/
  | restart (profile : Profile) (serverPub : G) (replay : MemoryReplayCache)
      (token : Option (List UInt8)) (now : ℕ)

/-- One step of the server with its file. -/
def storedStep (s : Stored Addr G) : StoredOp Addr q G → Stored Addr G
  | .packet pk order =>
      match s.server with
      | none => s
      | some st =>
          let pk := { pk with flush := .ok () }
          let st' := (dispatchPacket S st pk).1
          { server := some st'
            file := if (savedRecord S st pk).isSome
              then some (saveRegistryAtomic S (order.list st'.registry.records)) else s.file }
  | .gc now pickSetup pickAuth =>
      { s with server := s.server.map fun st => gcIfDue st now pickSetup pickAuth }
  | .restart profile serverPub replay token now =>
      match loadRegistry S s.file with
      | .ok reg => { s with server := some (.start profile serverPub reg replay token now) }
      | .error _ => { s with server := none }

end

omit [DecidableEq Addr] in
/-- Only a SETUP_3 saves. -/
theorem respond_registry {st : ServerState Addr G} {hdr : Header} {payload : List UInt8}
    {pk : Packet Addr q G} (ht : hdr.pktType ≠ pktSetup3) :
    (respond S st hdr payload pk).1.registry = st.registry := by
  unfold respond
  split
  next =>
    unfold dispatchSetup1
    split <;> rfl
  split
  next =>
    simp only [dispatchAuth1]
    split <;> rfl
  split
  next =>
    unfold dispatchAuth3
    split
    next => rfl
    next => split <;> rfl
  next => rfl

/-- The registry after a packet is the one before with what was saved. -/
theorem dispatchPacket_registry (st : ServerState Addr G) (pk : Packet Addr q G) :
    (dispatchPacket S st pk).1.registry = saveRecord st.registry (savedRecord S st pk) := by
  unfold dispatchPacket savedRecord
  cases parsePacket pk.bytes with
  | error e => rfl
  | ok r =>
      obtain ⟨hdr, payload⟩ := r
      simp only []
      cases cachedFor st hdr pk.peer with
      | some pkt => rfl
      | none =>
          simp only [conclude_registry]
          by_cases ht : hdr.pktType = pktSetup3
          · have ht1 : hdr.pktType ≠ pktSetup1 := by rw [ht]; decide
            simp only [respond, if_neg ht1, if_pos ht, dispatchSetup3]
            cases st.setupSessions.lookup hdr.sessionId with
            | none => rfl
            | some pending =>
                simp only []
                split <;> rfl
          · rw [respond_registry ht, if_neg ht]
            rfl

/-! ## Runs -/

/-- The registry is read back from the file. -/
def ReadsBack (S : Suite q G) (file : Option (List UInt8)) (reg : Registry G) : Prop :=
  ∃ reg', loadRegistry S file = .ok reg' ∧ ∀ id, reg'.lookup id = reg.lookup id

/-- The server runs, and its file has its registry. -/
structure Kept (S : Suite q G) (st : ServerState Addr G) (s : Stored Addr G) : Prop where
  running : s.server = some st
  sound : Sound st
  readsBack : ReadsBack S s.file st.registry

omit [DecidableEq Addr] in
theorem kept_start (profile : Profile) (serverPub : G) (replay : MemoryReplayCache)
    (token : Option (List UInt8)) (now : ℕ) {file : Option (List UInt8)} {reg : Registry G}
    (hfile : loadRegistry S file = .ok reg) (hreg : ∀ r ∈ reg.records, r.2.Loadable) :
    Kept S (.start profile serverPub reg replay token now)
      (⟨some (.start profile serverPub reg replay token now), file⟩ : Stored Addr G) := by
  refine ⟨rfl, ⟨fun sid p hp => ?_, hreg⟩, reg, hfile, fun _ => rfl⟩
  rw [ServerState.start, AList.lookup_empty] at hp
  cases hp

/-- Every step keeps the file up to date. -/
theorem Kept.step {st : ServerState Addr G} {s : Stored Addr G} (h : Kept S st s)
    (op : StoredOp Addr q G) : ∃ st', Kept S st' (storedStep S s op) := by
  obtain ⟨hrun, hsound, reg, hload, hsame⟩ := h
  cases op with
  | packet pk order =>
      have hsound' := hsound.served (dispatchPacket_served (S := S) st { pk with flush := .ok () })
      have hreg := dispatchPacket_registry (S := S) st { pk with flush := .ok () }
      refine ⟨(dispatchPacket S st { pk with flush := .ok () }).1, ?_⟩
      simp only [storedStep, hrun]
      refine ⟨rfl, hsound', ?_⟩
      cases hsaved : savedRecord S st { pk with flush := .ok () } with
      | some r => exact loadRegistry_of_perm (order.perm _) hsound'.registry
      | none =>
          rw [hsaved, saveRecord] at hreg
          exact ⟨reg, hload, hreg ▸ hsame⟩
  | gc now pickSetup pickAuth =>
      have hgc := gcIfDue_collected st now pickSetup pickAuth
      refine ⟨gcIfDue st now pickSetup pickAuth, ?_, hsound.of_collected hgc, ?_⟩
      · rw [storedStep, hrun]
        rfl
      · exact ⟨reg, hload, hgc.registry ▸ hsame⟩
  | restart profile serverPub replay token now =>
      refine ⟨.start profile serverPub reg replay token now, ?_⟩
      simp only [storedStep, hload]
      refine kept_start profile serverPub replay token now hload ?_
      rintro ⟨id, rec⟩ hr
      rw [Registry.mem_records, hsame, ← Registry.mem_records] at hr
      exact hsound.registry _ hr

/-- After any packets, collections and restarts from an empty registry the server runs, and another
restart gives the registry that it has.  So does the file for any order of the records. -/
theorem restart_keeps_registry (S : Suite q G) (profile : Profile) (serverPub : G)
    (replay : MemoryReplayCache) (token : Option (List UInt8)) (now : ℕ) (created : Bool)
    (ops : List (StoredOp Addr q G)) :
    ∃ st, (ops.foldl (storedStep S) ⟨some (.start profile serverPub ∅ replay token now),
        if created then some [] else none⟩).server = some st ∧
      ReadsBack S (ops.foldl (storedStep S) ⟨some (.start profile serverPub ∅ replay token now),
        if created then some [] else none⟩).file st.registry ∧
      ∀ records : List (Bytes 32 × DeviceRecord G), records.Perm st.registry.records →
        ReadsBack S (some (saveRegistryAtomic S records)) st.registry := by
  have hempty : loadRegistry S (if created then some [] else none) = .ok (∅ : Registry G) := by
    cases created <;> rfl
  have hrun : ∀ (s : Stored Addr G) (st : ServerState Addr G), Kept S st s →
      ∃ st', Kept S st' (ops.foldl (storedStep S) s) := by
    induction ops with
    | nil => exact fun s st h => ⟨st, h⟩
    | cons op ops ih =>
        intro s st h
        obtain ⟨st', h'⟩ := h.step op
        exact ih _ st' h'
  obtain ⟨st, h⟩ := hrun _ _ (kept_start profile serverPub replay token now hempty nofun)
  exact ⟨st, h.running, h.readsBack, fun records hperm =>
    loadRegistry_of_perm hperm h.sound.registry⟩

end ZkArche.Rust
