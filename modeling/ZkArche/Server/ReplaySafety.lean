import ZkArche.Lib.Machine
import ZkArche.Proto.ServerSpecRust
import ZkArche.Server.AtMostOnceC

/-!
# Replay safety

Both servers refuse an AUTH_1 whose replay key they remember, and remember the key of one
they accept.  The history of accepted keys is therefore fresh, and two acceptances of one
key are at least as far apart as the cache is large.

The C server calls the guard once per registry entry, from many workers, each call under
`replay_mu`.  Its history is read off the log of the pool.  The Rust handler is a machine
whose state is the cache, since nothing else of the server matters for it.
-/

namespace ZkArche

/-! ## The C server -/

namespace C

variable {q : ℕ} {G : Type} [AddCommGroup G] [Module (ZMod q) G] {S : Suite q G} {cap : ℕ}
  {cfg : ServerConfig}

/-- The replay key that an event accepts: the guard returned a packet. -/
def acceptedKey : Event (serverSections S cap cfg) ℕ Job (List UInt8) → Option ReplayKey
  | .act _ (.guardedAuth1 _ _ payload _ _) a =>
      if succeeds (a : Except AuthErr (PendingAuth × List UInt8)) then payloadKey S payload
      else none
  | _ => none

/-- The accepted keys, newest first. -/
def acceptedKeys (l : ServerLog S cap cfg) : List ReplayKey := l.filterMap acceptedKey

/-- The cache remembers the newest accepted keys. -/
def CacheTracks (cap : ℕ) (cache : ReplayCache) (keys : List ReplayKey) : Prop :=
  cache.Valid cap ∧ Fifo.Tracks cap keys cache.order

/-- Only the guard writes the replay cache. -/
theorem execReq_replayCache (s : ServerState) (r : Req)
    (hr : ∀ sid seq payload cand draws, r ≠ .guardedAuth1 sid seq payload cand draws) :
    (execReq S cap cfg s r).1.replayCache = s.replayCache := by
  cases r with
  | activateSetup i p =>
      simp only [execReq, activateOrRelease]
      split <;> rfl
  | activateAuth i p =>
      simp only [execReq, activateOrRelease]
      split <;> rfl
  | enroll i p save =>
      simp only [execReq, enroll]
      split <;> rfl
  | guardedAuth1 sid seq payload cand draws => exact absurd rfl (hr sid seq payload cand draws)
  | _ => rfl

theorem acceptedKey_of_ne (w : ℕ) (r : Req) (a : Ans r)
    (hr : ∀ sid seq payload cand draws, r ≠ .guardedAuth1 sid seq payload cand draws) :
    acceptedKey (.act w r a : Event (serverSections S cap cfg) ℕ Job (List UInt8)) = none := by
  cases r with
  | guardedAuth1 sid seq payload cand draws => exact absurd rfl (hr sid seq payload cand draws)
  | _ => rfl

/-- A call of the guard keeps the cache and the history in step. -/
theorem guarded_tracks (hcap : 0 < cap) {s : ServerState} {l : ServerLog S cap cfg} (w : ℕ)
    (sid : SessionId) (seq : UInt32) (payload : List UInt8) (cand : Bytes 32 × Bytes 32)
    (draws : Auth2Draws) (h : CacheTracks cap s.replayCache (acceptedKeys l)) :
    CacheTracks cap
      (execReq S cap cfg s (.guardedAuth1 sid seq payload cand draws)).1.replayCache
      (acceptedKeys (.act w (.guardedAuth1 sid seq payload cand draws)
        (execReq S cap cfg s (.guardedAuth1 sid seq payload cand draws)).2 :: l)) := by
  obtain ⟨e, he⟩ | ⟨key, r, hkey, hnew, -, hok⟩ := authServerHandleAuth1Guarded_cases
    (S := S) cap s.replayCache cfg sid seq payload (.ok cand) draws maxDatagram
  · have hnone : acceptedKey (.act w (.guardedAuth1 sid seq payload cand draws)
        (execReq S cap cfg s (.guardedAuth1 sid seq payload cand draws)).2 :
          Event (serverSections S cap cfg) ℕ Job (List UInt8)) = none := by
      simp only [acceptedKey, execReq, he, succeeds]
      rfl
    rw [acceptedKeys, List.filterMap_cons_none hnone]
    simp only [execReq, he]
    exact h
  · have hsome : acceptedKey (.act w (.guardedAuth1 sid seq payload cand draws)
        (execReq S cap cfg s (.guardedAuth1 sid seq payload cand draws)).2 :
          Event (serverSections S cap cfg) ℕ Job (List UInt8)) = some key := by
      simp only [acceptedKey, execReq, hok, succeeds, if_true, hkey]
    rw [acceptedKeys, List.filterMap_cons_some hsome]
    simp only [execReq, hok]
    obtain ⟨hvalid, hord⟩ := ReplayCache.insert_new hcap h.1 hnew
    refine ⟨hvalid, ?_⟩
    rw [hord]
    apply h.2.push hcap
    rw [ReplayCache.mem_order]
    simpa [authReplayCacheContains] using hnew

theorem cacheTracks_preserved (hcap : 0 < cap) :
    Pool.Preserved (serverProtocol S cap cfg) (fun _ _ _ _ => True)
      (fun s l => CacheTracks cap s.replayCache (acceptedKeys l)) := by
  refine ⟨fun s l w j h _ => h, ?_, fun s l w out h _ => h⟩
  intro s l w r h _ _
  by_cases hr : ∀ sid seq payload cand draws, r ≠ .guardedAuth1 sid seq payload cand draws
  · rw [acceptedKeys, List.filterMap_cons_none (acceptedKey_of_ne w r _ hr)]
    show CacheTracks cap (execReq S cap cfg s r).1.replayCache _
    rw [execReq_replayCache s r hr]
    exact h
  · push Not at hr
    obtain ⟨sid, seq, payload, cand, draws, rfl⟩ := hr
    exact guarded_tracks hcap w sid seq payload cand draws h

/-- Every schedule accepts a fresh history of keys. -/
theorem acceptedKeys_separated (hcap : 0 < cap) (registry : Registry) (capacity : ℕ)
    (as : List (Turn ℕ Job)) :
    Fifo.Separated cap (acceptedKeys (serverRun S cap cfg
      (serverStart S cap cfg registry capacity authReplayCacheInit) as).log) := by
  have hinit : CacheTracks cap authReplayCacheInit [] :=
    ⟨.inl ⟨hcap, rfl⟩, Fifo.Tracks.nil cap⟩
  have hconf := Pool.conforms_fresh (D := serverProtocol S cap cfg) (W := ℕ)
    ⟨registry, authSessionTableInit capacity, authReplayCacheInit⟩
  obtain ⟨h, -⟩ := Pool.invariant (cacheTracks_preserved hcap) dispatch_follows
    (P := serverStart S cap cfg registry capacity authReplayCacheInit) hinit hconf
    (Pool.meets_of_forall (fun _ _ _ _ => trivial) _ as)
  exact h.2.fresh.separated

/-- A call of the guard that fails leaves the cache. -/
theorem guarded_error (cache : ReplayCache) {sid : SessionId} {seq : UInt32}
    {payload : List UInt8} {lookup : Except AuthErr (Bytes 32 × Bytes 32)} {draws : Auth2Draws}
    {outCap : ℕ} {e : AuthErr}
    (h : (authServerHandleAuth1Guarded S cap cache cfg sid seq payload lookup draws outCap).2
      = .error e) :
    (authServerHandleAuth1Guarded S cap cache cfg sid seq payload lookup draws outCap).1
      = cache := by
  obtain ⟨e', he⟩ | ⟨key, r, -, -, -, hok⟩ := authServerHandleAuth1Guarded_cases
    (S := S) cap cache cfg sid seq payload lookup draws outCap
  · rw [he]
  · rw [hok] at h
    cases h

end C

/-! ## The Rust handler -/

namespace Rust

variable {q : ℕ} {G : Type} [AddCommGroup G] [Module (ZMod q) G] [DecidableEq G]

/-- A delivery of an AUTH_1, with everything `handle_auth_1` depends on but the cache. -/
structure Delivery (q : ℕ) (G : Type) where
  serverSk : Except ProtoError (ZMod q)
  records : List (Bytes 32 × DeviceRecord G)
  allowedRoles : List UInt64
  sessionId : SessionId
  seq : UInt32
  payload : List UInt8
  draws : Auth2Draws

/-- What a delivery does to the cache, and what it returns. -/
def deliver (S : Suite q G) (c : MemoryReplayCache) (d : Delivery q G) :
    MemoryReplayCache × Except Stop PendingAuth :=
  handleAuth1 S d.serverSk d.records c d.allowedRoles d.sessionId d.seq d.payload d.draws

/-- Deliveries to one cache. -/
def deliveries (S : Suite q G) (cap : ℕ) :
    Machine MemoryReplayCache (Delivery q G) (Except Stop PendingAuth) where
  init := fun c => c = MemoryReplayCache.new cap
  step := deliver S

/-- The replay key that a delivery accepts. -/
def acceptedKey (S : Suite q G) : Delivery q G × Except Stop PendingAuth → Option ReplayKey
  | (d, .ok _) => payloadKey S d.payload
  | (_, .error _) => none

/-- The accepted keys, newest first. -/
def acceptedKeys (S : Suite q G) (h : List (Delivery q G × Except Stop PendingAuth)) :
    List ReplayKey := h.filterMap (acceptedKey S)

variable {S : Suite q G} {cap : ℕ}

/-- The cache remembers the newest accepted keys. -/
structure CacheTracks (cap : ℕ) (c : MemoryReplayCache) (keys : List ReplayKey) : Prop where
  cap_eq : c.cap = cap
  valid : c.Valid
  tracks : Fifo.Tracks cap keys c.order

/-- A delivery keeps the cache and the history in step. -/
theorem deliver_tracks (hcap : 0 < cap) {c : MemoryReplayCache}
    {h : List (Delivery q G × Except Stop PendingAuth)} (d : Delivery q G)
    (ht : CacheTracks cap c (acceptedKeys S h)) :
    CacheTracks cap (deliver S c d).1 (acceptedKeys S ((d, (deliver S c d).2) :: h)) := by
  obtain ⟨e, he⟩ | ⟨key, p, hkey, hnew, -, hok⟩ := handleAuth1_cases (S := S) d.serverSk d.records
    c d.allowedRoles d.sessionId d.seq d.payload d.draws
  · rw [deliver, he, acceptedKeys, List.filterMap_cons_none rfl]
    exact ht
  · have hsome : acceptedKey S (d, .ok p) = some key := hkey
    rw [deliver, hok, acceptedKeys, List.filterMap_cons_some hsome]
    obtain ⟨hc, hvalid, htr⟩ := ht
    subst hc
    obtain ⟨hvalid', hcap', hord⟩ := MemoryReplayCache.insert_new hcap hvalid hnew
    refine ⟨hcap', hvalid', ?_⟩
    rw [hord]
    apply htr.push hcap
    rw [← hvalid.mem]
    simpa [MemoryReplayCache.contains] using hnew

/-- Every sequence of deliveries accepts a fresh history of keys. -/
theorem acceptedKeys_separated (hcap : 0 < cap)
    {h : List (Delivery q G × Except Stop PendingAuth)} {c : MemoryReplayCache}
    (r : (deliveries S cap).Run Machine.anyInput h c) :
    Fifo.Separated cap (acceptedKeys S h) := by
  have ht : CacheTracks cap c (acceptedKeys S h) := by
    apply r.invariant (P := fun h c => CacheTracks cap c (acceptedKeys S h))
    · rintro s rfl
      exact ⟨rfl, ⟨rfl, List.nodup_nil⟩, Fifo.Tracks.nil cap⟩
    · intro h s d _ _ ht
      exact deliver_tracks hcap d ht
  exact ht.tracks.fresh.separated

/-- A delivery that fails leaves the cache. -/
theorem deliver_error {c : MemoryReplayCache} {d : Delivery q G} {e : Stop}
    (h : (deliver S c d).2 = .error e) : (deliver S c d).1 = c := by
  obtain ⟨e', he⟩ | ⟨key, p, -, -, -, hok⟩ := handleAuth1_cases (S := S) d.serverSk d.records
    c d.allowedRoles d.sessionId d.seq d.payload d.draws
  · rw [deliver, he]
  · rw [deliver, hok] at h
    cases h

end Rust

/-! ## Both servers -/

section

variable {q : ℕ} {G : Type} [AddCommGroup G] [Module (ZMod q) G] [DecidableEq G]

/-- Two acceptances of one replay key have `cap` acceptances of pairwise different other keys
between them, for every schedule of the C workers and every sequence of deliveries to the
Rust handler.  A call that fails leaves the cache as it was. -/
theorem replay_safe (S : Suite q G) {cap : ℕ} (hcap : 0 < cap) :
    (∀ cfg registry capacity as, Fifo.Separated cap (C.acceptedKeys (C.serverRun S cap cfg
      (C.serverStart S cap cfg registry capacity C.authReplayCacheInit) as).log)) ∧
    (∀ cache cfg sid seq payload lookup draws outCap e,
      (C.authServerHandleAuth1Guarded S cap cache cfg sid seq payload lookup draws outCap).2
        = .error e →
      (C.authServerHandleAuth1Guarded S cap cache cfg sid seq payload lookup draws outCap).1
        = cache) ∧
    (∀ h c, (Rust.deliveries S cap).Run Machine.anyInput h c →
      Fifo.Separated cap (Rust.acceptedKeys S h)) ∧
    (∀ c d e, (Rust.deliver S c d).2 = .error e → (Rust.deliver S c d).1 = c) := by
  refine ⟨?_, ?_, ?_, ?_⟩
  · intro cfg registry capacity as
    exact C.acceptedKeys_separated hcap registry capacity as
  · intro cache cfg sid seq payload lookup draws outCap e h
    exact C.guarded_error cache h
  · intro h c r
    exact Rust.acceptedKeys_separated hcap r
  · intro c d e h
    exact Rust.deliver_error h

/-- A cache of four entries, and a schedule that accepts one AUTH_1. -/
theorem replay_safe_small :
    0 < 4 ∧
    (C.acceptedKeys (C.demoAuthRun C.demoAuth1).log).length = 1 ∧
    Fifo.Separated 4 (C.acceptedKeys (C.demoAuthRun C.demoAuth1).log) := by
  refine ⟨by decide, by decide +kernel, ?_⟩
  exact (replay_safe smallSuite (by decide : 0 < 4)).1 C.demoConfig _ 2 C.demoAuth1

end

end ZkArche
