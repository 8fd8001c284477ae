import ZkArche.Lib.Machine
import ZkArche.Store.Replay

/-!
# The two replay caches

Started empty with the same capacity, the C ring and the Rust cache give the same answers to
every sequence of insertions and lookups.  Both hold the newest keys that were inserted, as
many as fit.

The coupling is the queue: the ring rotated to its eviction index is the queue of the Rust
cache, and the set beside the queue has the same keys (`Coupled`).
-/

namespace ZkArche

/-- A call of a replay cache. -/
inductive CacheOp where
  | insert (key : ReplayKey)
  | contains (key : ReplayKey)

/-- The calls of the C functions. -/
def C.replayMachine (cap : ℕ) : Machine C.ReplayCache CacheOp Bool where
  init := fun c => c = C.authReplayCacheInit
  step := fun c op =>
    match op with
    | .insert key => C.authReplayCacheInsert cap c key
    | .contains key => (c, C.authReplayCacheContains c key)

/-- The calls of the Rust methods. -/
def Rust.replayMachine (cap : ℕ) : Machine Rust.MemoryReplayCache CacheOp Bool where
  init := fun c => c = .new cap
  step := fun c op =>
    match op with
    | .insert key => c.insert key
    | .contains key => (c, c.contains key)

/-- The key of an insertion that returned true. -/
def insertedKey : CacheOp × Bool → Option ReplayKey
  | (.insert key, true) => some key
  | _ => none

/-- The keys whose insertion returned true, newest first. -/
def insertedKeys (h : List (CacheOp × Bool)) : List ReplayKey := h.filterMap insertedKey

/-- Both caches remember the newest inserted keys. -/
structure Coupled (cap : ℕ) (h : List (CacheOp × Bool)) (c : C.ReplayCache)
    (r : Rust.MemoryReplayCache) : Prop where
  ring : c.Valid cap
  queue : r.Valid
  cap_eq : r.cap = cap
  order : c.order = r.order
  tracks : Fifo.Tracks cap (insertedKeys h) r.order

namespace Coupled

variable {cap : ℕ} {h : List (CacheOp × Bool)} {c : C.ReplayCache} {r : Rust.MemoryReplayCache}

theorem start (hcap : 0 < cap) :
    Coupled cap [] C.authReplayCacheInit (Rust.MemoryReplayCache.new cap) where
  ring := .inl ⟨hcap, rfl⟩
  queue := ⟨rfl, List.nodup_nil⟩
  cap_eq := rfl
  order := rfl
  tracks := .nil cap

/-- Coupled caches know the same keys. -/
theorem contains_eq (hc : Coupled cap h c r) (key : ReplayKey) :
    C.authReplayCacheContains c key = r.contains key := by
  have hiff : key ∈ c.keys ↔ key ∈ r.set := by
    rw [← C.ReplayCache.mem_order, hc.order, hc.queue.mem]
  rw [C.authReplayCacheContains, Rust.MemoryReplayCache.contains]
  exact decide_eq_decide.mpr hiff

/-- An answer that inserts nothing keeps the coupling. -/
theorem skip (hc : Coupled cap h c r) {e : CacheOp × Bool} (he : insertedKey e = none) :
    Coupled cap (e :: h) c r := by
  have hh : insertedKeys (e :: h) = insertedKeys h := List.filterMap_cons_none he
  exact ⟨hc.ring, hc.queue, hc.cap_eq, hc.order, hh ▸ hc.tracks⟩

/-- Both caches answer a call alike and stay coupled. -/
theorem step (hcap : 0 < cap) (hc : Coupled cap h c r) (op : CacheOp) :
    ((C.replayMachine cap).step c op).2 = ((Rust.replayMachine cap).step r op).2 ∧
      Coupled cap ((op, ((C.replayMachine cap).step c op).2) :: h)
        ((C.replayMachine cap).step c op).1 ((Rust.replayMachine cap).step r op).1 := by
  cases op with
  | contains key => exact ⟨hc.contains_eq key, hc.skip rfl⟩
  | insert key =>
      show (C.authReplayCacheInsert cap c key).2 = (r.insert key).2 ∧
        Coupled cap ((.insert key, (C.authReplayCacheInsert cap c key).2) :: h)
          (C.authReplayCacheInsert cap c key).1 (r.insert key).1
      have hsame := hc.contains_eq key
      cases hknown : r.contains key with
      | true =>
          -- a known key is refused by both
          rw [hknown] at hsame
          have hC : C.authReplayCacheInsert cap c key = (c, false) := by
            rw [C.authReplayCacheInsert, if_pos hsame]
          have hR : r.insert key = (r, false) := by
            rw [Rust.MemoryReplayCache.insert, if_pos (of_decide_eq_true hknown)]
          rw [hC, hR]
          exact ⟨rfl, hc.skip rfl⟩
      | false =>
          rw [hknown] at hsame
          have hCok := C.ReplayCache.insert_snd cap hsame
          have hRok := Rust.MemoryReplayCache.insert_snd hknown
          obtain ⟨hring, hCorder⟩ := C.ReplayCache.insert_new hcap hc.ring hsame
          obtain ⟨hqueue, hRcap, hRorder⟩ :=
            Rust.MemoryReplayCache.insert_new (by rw [hc.cap_eq]; exact hcap) hc.queue hknown
          rw [hc.cap_eq] at hRorder
          have hnew : key ∉ r.order := by
            rw [← hc.queue.mem]
            exact of_decide_eq_false hknown
          have hkeys : insertedKeys ((.insert key, true) :: h) = key :: insertedKeys h := rfl
          rw [hCok, hRok]
          refine ⟨rfl, hring, hqueue, hRcap.trans hc.cap_eq, ?_, ?_⟩
          · rw [hCorder, hRorder, hc.order]
          · rw [hkeys, hRorder]
            exact hc.tracks.push hcap hnew

/-- The keys of the ring are those of the queue, without repetition. -/
theorem keys_perm (hc : Coupled cap h c r) : c.keys.Perm r.order := by
  rw [← hc.order, C.ReplayCache.order]
  have happ : (c.keys.drop c.nextEvict ++ c.keys.take c.nextEvict).Perm
      (c.keys.take c.nextEvict ++ c.keys.drop c.nextEvict) := List.perm_append_comm
  rw [List.take_append_drop] at happ
  exact happ.symm

end Coupled

/-- The cache holds exactly the keys of the list, without repetition. -/
structure C.ReplayCache.Holds (c : C.ReplayCache) (keys : List ReplayKey) : Prop where
  mem : ∀ key, key ∈ c.keys ↔ key ∈ keys
  nodup : c.keys.Nodup
  count : c.keys.length = keys.length

/-- The set holds exactly the keys of the list, and the queue lists them from the oldest to the
newest. -/
structure Rust.MemoryReplayCache.Holds (r : Rust.MemoryReplayCache) (keys : List ReplayKey) :
    Prop where
  mem : ∀ key, key ∈ r.set ↔ key ∈ keys
  order : r.order = keys.reverse
  nodup : r.order.Nodup

/-- The C ring and the Rust cache, started empty, answer every sequence of calls alike, and then
hold the newest keys whose insertion returned true, as many as fit. -/
theorem replay_caches_agree (cap : ℕ) (hcap : 0 < cap) (ops : List CacheOp) :
    let ring := (C.replayMachine cap).exec [] C.authReplayCacheInit ops
    let cache := (Rust.replayMachine cap).exec [] (Rust.MemoryReplayCache.new cap) ops
    let newest := (insertedKeys ring.1).take cap
    ring.1 = cache.1 ∧ newest.length = min (insertedKeys ring.1).length cap ∧
      ring.2.Holds newest ∧ cache.2.Holds newest := by
  intro ring cache newest
  have hcoupling : Machine.Coupling (C.replayMachine cap) (Rust.replayMachine cap) (Coupled cap) :=
    fun _ _ _ op hR => hR.step hcap op
  obtain ⟨hhist, hR⟩ := hcoupling.exec (Coupled.start hcap) ops
  have horder : cache.2.order = newest.reverse := hR.tracks.window
  have hperm : ring.2.keys.Perm newest.reverse := horder ▸ hR.keys_perm
  have hnodup : newest.reverse.Nodup := horder ▸ hR.queue.nodup
  refine ⟨hhist, ?_, ⟨?_, ?_, ?_⟩, ⟨?_, horder, hR.queue.nodup⟩⟩
  · rw [List.length_take, Nat.min_comm]
  · intro key
    rw [hperm.mem_iff, List.mem_reverse]
  · exact hperm.nodup_iff.mpr hnodup
  · rw [hperm.length_eq, List.length_reverse]
  · intro key
    rw [hR.queue.mem, horder, List.mem_reverse]

/-- A key that starts with the given byte, and is zero after it. -/
def byteKey (b : UInt8) : ReplayKey := ⟨b :: List.replicate 31 0, by simp⟩

/-- A cache of two keys that meets three, and the first one again. -/
theorem replay_caches_agree_wrapped :
    let ops : List CacheOp := [.insert (byteKey 1), .insert (byteKey 2), .insert (byteKey 2),
      .insert (byteKey 3), .contains (byteKey 1), .insert (byteKey 1)]
    let ring := (C.replayMachine 2).exec [] C.authReplayCacheInit ops
    let cache := (Rust.replayMachine 2).exec [] (Rust.MemoryReplayCache.new 2) ops
    ring.1 = cache.1 ∧ ring.2.Holds [byteKey 1, byteKey 3] ∧
      cache.2.Holds [byteKey 1, byteKey 3] := by
  intro ops ring cache
  obtain ⟨hhist, -, hC, hR⟩ := replay_caches_agree 2 (by decide) ops
  exact ⟨hhist, hC, hR⟩

end ZkArche
