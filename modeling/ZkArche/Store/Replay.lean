import Mathlib.Data.Finset.Card
import ZkArche.Lib.Fifo
import ZkArche.Crypto.Suite

/-!
# Replay caches

Both servers remember the keys of accepted AUTH_1 messages in a bounded cache.  C keeps an
array with an eviction index, and Rust a set beside a queue.  Both are one first-in
first-out queue (`C.ReplayCache.order`, `Rust.MemoryReplayCache.order`), and both insert by
`Fifo.push`.

The capacity is a parameter.  In C it is the macro `AUTH_REPLAY_CACHE_CAPACITY`.
-/

namespace ZkArche

/-- A replay key. -/
abbrev ReplayKey := Bytes 32

section

variable {q : ℕ} {G : Type} [AddCommGroup G] [Module (ZMod q) G] (S : Suite q G)

/-- `auth_replay_key`. -/
def C.authReplayKey (pid nonceC ephC : Bytes 32) : ReplayKey :=
  S.sha256 (ascii "iot-auth/replay-key/v2" ++ pid.val ++ nonceC.val ++ ephC.val)

/-- `replay_key`. -/
def Rust.replayKey (pid nonceC : Bytes 32) (ephC : G) : ReplayKey :=
  S.sha256 (ascii "iot-auth/replay-key/v2" ++ pid.val ++ nonceC.val ++ (S.encPoint ephC).val)

end

/-! ## The C ring -/

namespace C

/-- `auth_replay_cache_t`: the first `n` keys of the array, and the eviction index. -/
structure ReplayCache where
  keys : List ReplayKey
  nextEvict : ℕ
deriving DecidableEq

/-- `auth_replay_cache_init`. -/
def authReplayCacheInit : ReplayCache := ⟨[], 0⟩

/-- `auth_replay_cache_contains`. -/
def authReplayCacheContains (cache : ReplayCache) (key : ReplayKey) : Bool :=
  decide (key ∈ cache.keys)

/-- `auth_replay_cache_insert`: the new cache, and whether the key was new. -/
def authReplayCacheInsert (cap : ℕ) (cache : ReplayCache) (key : ReplayKey) :
    ReplayCache × Bool :=
  if authReplayCacheContains cache key then (cache, false)
  else if cache.keys.length < cap then ({ cache with keys := cache.keys ++ [key] }, true)
  else (⟨cache.keys.set cache.nextEvict key, (cache.nextEvict + 1) % cap⟩, true)

namespace ReplayCache

/-- The keys from the oldest to the newest. -/
def order (cache : ReplayCache) : List ReplayKey :=
  cache.keys.drop cache.nextEvict ++ cache.keys.take cache.nextEvict

/-- The eviction index starts to move when the array is full. -/
def Valid (cap : ℕ) (cache : ReplayCache) : Prop :=
  (cache.keys.length < cap ∧ cache.nextEvict = 0) ∨
    (cache.keys.length = cap ∧ cache.nextEvict < cap)

theorem mem_order {cache : ReplayCache} {key : ReplayKey} :
    key ∈ cache.order ↔ key ∈ cache.keys := by
  rw [order, List.mem_append, or_comm, ← List.mem_append, List.take_append_drop]

theorem length_order (cache : ReplayCache) : cache.order.length = cache.keys.length := by
  simp only [order, List.length_append, List.length_drop, List.length_take]
  omega

/-- Inserting a new key succeeds. -/
theorem insert_snd (cap : ℕ) {cache : ReplayCache} {key : ReplayKey}
    (hk : authReplayCacheContains cache key = false) :
    (authReplayCacheInsert cap cache key).2 = true := by
  unfold authReplayCacheInsert
  rw [hk, if_neg (by decide)]
  split <;> rfl

/-- Inserting a new key pushes it. -/
theorem insert_new {cap : ℕ} (hcap : 0 < cap) {cache : ReplayCache} (hv : cache.Valid cap)
    {key : ReplayKey} (hk : authReplayCacheContains cache key = false) :
    (authReplayCacheInsert cap cache key).1.Valid cap ∧
      (authReplayCacheInsert cap cache key).1.order = Fifo.push cap cache.order key := by
  unfold authReplayCacheInsert
  rw [hk, if_neg (by decide)]
  obtain ⟨hlt, hev⟩ | ⟨hfull, hev⟩ := hv
  · rw [if_pos hlt]
    refine ⟨?_, ?_⟩
    · rcases Nat.lt_or_ge (cache.keys.length + 1) cap with hroom | hfull
      · exact .inl ⟨by simpa using hroom, hev⟩
      · exact .inr ⟨by simp; omega, by rw [hev]; exact hcap⟩
    · rw [Fifo.push, if_pos (by rw [length_order]; exact hlt)]
      simp [order, hev]
  · rw [if_neg (by omega)]
    -- the array rotated to start at the evicted entry
    obtain ⟨old, hdrop⟩ : ∃ old, cache.keys.drop cache.nextEvict
        = old :: cache.keys.drop (cache.nextEvict + 1) :=
      ⟨_, List.drop_eq_getElem_cons (by omega)⟩
    have hset : cache.keys.set cache.nextEvict key
        = cache.keys.take cache.nextEvict ++ key :: cache.keys.drop (cache.nextEvict + 1) := by
      rw [List.set_eq_take_append_cons_drop, if_pos (by omega)]
    have htl : (cache.keys.take cache.nextEvict).length = cache.nextEvict := by
      rw [List.length_take]
      omega
    have hpush : Fifo.push cap cache.order key
        = cache.keys.drop (cache.nextEvict + 1) ++ cache.keys.take cache.nextEvict ++ [key] := by
      rw [Fifo.push, if_neg (by rw [length_order]; omega), order, hdrop, List.cons_append,
        List.tail_cons]
    refine ⟨.inr ⟨by simp [hfull], Nat.mod_lt _ hcap⟩, ?_⟩
    rw [hpush]
    simp only [order]
    by_cases hlast : cache.nextEvict + 1 = cap
    · rw [hlast, Nat.mod_self, List.drop_zero, List.take_zero, List.append_nil, hset,
        List.drop_of_length_le (show cache.keys.length ≤ cache.nextEvict + 1 by omega),
        List.drop_of_length_le (show cache.keys.length ≤ cap by omega)]
      simp
    · rw [Nat.mod_eq_of_lt (by omega), hset]
      have h1 : cache.keys.take cache.nextEvict ++ key :: cache.keys.drop (cache.nextEvict + 1)
          = (cache.keys.take cache.nextEvict ++ [key]) ++ cache.keys.drop (cache.nextEvict + 1) := by
        simp
      have h2 : (cache.keys.take cache.nextEvict ++ [key]).length = cache.nextEvict + 1 := by
        simp only [List.length_append, List.length_singleton, htl]
      rw [h1, List.drop_left' h2, List.take_left' h2, List.append_assoc]

end ReplayCache

end C

/-! ## The Rust cache -/

namespace Rust

/-- `MemoryReplayCache`. -/
structure MemoryReplayCache where
  set : Finset ReplayKey
  order : List ReplayKey
  cap : ℕ

namespace MemoryReplayCache

/-- `MemoryReplayCache::new`. -/
def new (cap : ℕ) : MemoryReplayCache := ⟨∅, [], cap⟩

/-- `contains`. -/
def contains (c : MemoryReplayCache) (key : ReplayKey) : Bool := decide (key ∈ c.set)

/-- Evict the oldest key of a full cache. -/
def evict (c : MemoryReplayCache) : MemoryReplayCache :=
  if c.set.card ≥ c.cap then
    match c.order with
    | oldest :: rest => { c with set := c.set.erase oldest, order := rest }
    | [] => c
  else c

/-- `insert`: the new cache, and whether the key was new. -/
def insert (c : MemoryReplayCache) (key : ReplayKey) : MemoryReplayCache × Bool :=
  if key ∈ c.set then (c, false)
  else if c.cap = 0 then (c, true)
  else
    let c := c.evict
    if key ∈ c.set then (c, false)
    else ({ c with set := Insert.insert key c.set, order := c.order ++ [key] }, true)

/-- The queue lists the set without repetition. -/
structure Valid (c : MemoryReplayCache) : Prop where
  set_eq : c.set = c.order.toFinset
  nodup : c.order.Nodup

theorem Valid.card {c : MemoryReplayCache} (h : c.Valid) : c.set.card = c.order.length := by
  rw [h.set_eq, List.toFinset_card_of_nodup h.nodup]

theorem Valid.mem {c : MemoryReplayCache} (h : c.Valid) {key : ReplayKey} :
    key ∈ c.set ↔ key ∈ c.order := by
  rw [h.set_eq, List.mem_toFinset]

/-- Eviction drops the oldest key of a full cache. -/
theorem evict_order {c : MemoryReplayCache} (h : c.Valid) :
    c.evict.Valid ∧ c.evict.cap = c.cap ∧
      c.evict.order = if c.order.length < c.cap then c.order else c.order.tail := by
  unfold evict
  rw [h.card]
  split
  next hge =>
    rw [if_neg (by omega)]
    cases ho : c.order with
    | nil => exact ⟨h, rfl, ho⟩
    | cons oldest rest =>
        have hn := h.nodup
        rw [ho, List.nodup_cons] at hn
        refine ⟨⟨?_, hn.2⟩, rfl, rfl⟩
        show c.set.erase oldest = rest.toFinset
        rw [h.set_eq, ho, List.toFinset_cons, Finset.erase_insert]
        rw [List.mem_toFinset]
        exact hn.1
  next hlt =>
    rw [if_pos (by omega)]
    exact ⟨h, rfl, rfl⟩

/-- Eviction adds no key. -/
theorem mem_evict {c : MemoryReplayCache} {key : ReplayKey} (h : key ∈ c.evict.set) :
    key ∈ c.set := by
  unfold evict at h
  split at h
  next =>
    split at h
    next => exact Finset.mem_of_mem_erase h
    next => exact h
  next => exact h

/-- Inserting a new key succeeds. -/
theorem insert_snd {c : MemoryReplayCache} {key : ReplayKey} (hk : c.contains key = false) :
    (c.insert key).2 = true := by
  have hk' : key ∉ c.set := by simpa [contains] using hk
  unfold insert
  rw [if_neg hk']
  split
  next => rfl
  next =>
    dsimp only
    rw [if_neg fun hm => hk' (mem_evict hm)]

/-- Inserting a new key pushes it. -/
theorem insert_new {c : MemoryReplayCache} (hcap : 0 < c.cap) (h : c.Valid) {key : ReplayKey}
    (hk : c.contains key = false) :
    (c.insert key).1.Valid ∧ (c.insert key).1.cap = c.cap ∧
      (c.insert key).1.order = Fifo.push c.cap c.order key := by
  have hk' : key ∉ c.set := by simpa [contains] using hk
  obtain ⟨hev, hecap, heord⟩ := evict_order h
  have hek : key ∉ c.evict.set := fun hm => hk' (mem_evict hm)
  unfold insert
  rw [if_neg hk', if_neg (by omega)]
  dsimp only
  rw [if_neg hek]
  refine ⟨⟨?_, ?_⟩, hecap, ?_⟩
  · rw [hev.set_eq, List.toFinset_append, Finset.union_comm]
    rfl
  · rw [hev.mem] at hek
    rw [List.nodup_append]
    refine ⟨hev.nodup, by simp, ?_⟩
    intro a ha b hb
    simp only [List.mem_singleton] at hb
    rw [hb]
    exact fun hab => hek (hab ▸ ha)
  · rw [Fifo.push, heord]

end MemoryReplayCache

end Rust

end ZkArche
