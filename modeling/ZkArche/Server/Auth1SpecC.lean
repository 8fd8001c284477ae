import Mathlib.Algebra.Field.ZMod
import Mathlib.Algebra.Module.Torsion.Field
import ZkArche.Server.AtMostOnceC
import ZkArche.Server.CandidatesC

/-!
# The AUTH_1 of the C server

What one AUTH_1 does when no other packet is handled at the same time.  It is *admissible* when
it decodes, is fresh, carries two good points, passes the role proof, and some registry entry
passes the client proof, the pseudonym and the rerandomization proof (`Admissible`).  None of
this depends on the order of the registry.

An admissible AUTH_1 is answered for the first entry that passes, as long as no product of the
answer is the identity.  In a group of prime order this needs nonzero scalars only: the point
the client sent has been checked.  Every other AUTH_1 leaves the state alone.
-/

namespace ZkArche.C

variable {q : ℕ} {G : Type} [AddCommGroup G] [Module (ZMod q) G]

/-- What the server asks of an AUTH_1. -/
structure Admissible (S : Suite q G) (cfg : ServerConfig) (st : ServerState)
    (payload : List UInt8) (a1 : Auth1) : Prop where
  decodes : authAuth1Decode payload = .ok a1
  fresh : authReplayCacheContains st.replayCache (authReplayKey S a1.pid a1.nonceC a1.ephC)
    = false
  ephC : authCheckPoint S a1.ephC = .ok ()
  cPrime : checkPointOrIdentity S a1.cPrime = .ok ()
  entry : ∃ e ∈ st.registry, passes S cfg a1 e = true ∧ rolePasses S cfg a1 = true

/-- What the server does with an admissible AUTH_1: `i` is the slot it takes, `e` the entry at
index `j` of the registry and `p` the pending record. -/
structure Activated (S : Suite q G) (cap : ℕ) (cfg : ServerConfig) (st : ServerState) (job : Job)
    (hdr : Header) (a1 : Auth1) (i j : ℕ) (e : RegistryEntry) (p : PendingAuth)
    (st' : ServerState) (out : List UInt8) : Prop where
  slot : st.sessions.findIdx? (· = .free) = some i
  free : st.sessions[i]? = some .free
  entry : st.registry[j]? = some e
  passes : passes S cfg a1 e = true ∧ rolePasses S cfg a1 = true
  first : ∀ k < j, ∀ e', st.registry[k]? = some e' → C.passes S cfg a1 e' = false
  record : auth1Respond S cfg hdr.sessionId hdr.seq e.devicePub a1 (job.auth j) maxDatagram
    = .ok (p, out)
  devicePub : p.devicePub = e.devicePub
  registry : st'.registry = st.registry
  sessions : st'.sessions = st.sessions.set i (.auth p)
  inserted : authReplayCacheInsert cap st.replayCache (authReplayKey S a1.pid a1.nonceC a1.ephC)
    = (st'.replayCache, true)
  pushed : 0 < cap → st.replayCache.Valid cap → st'.replayCache.order
    = Fifo.push cap st.replayCache.order (authReplayKey S a1.pid a1.nonceC a1.ephC)

section

variable {S : Suite q G} {cap : ℕ} {cfg : ServerConfig} {st : ServerState} {job : Job}
  {hdr : Header} {payload : List UInt8} {a1 : Auth1}

/-! ## Admissible messages -/

/-- The decoded message, the point checks and the cache are what `precheck` looks at. -/
theorem admissible_iff : Admissible S cfg st payload a1 ↔
    precheck S st.replayCache payload = .ok a1 ∧
      ∃ e ∈ st.registry, passes S cfg a1 e = true ∧ rolePasses S cfg a1 = true := by
  rw [precheck_eq_ok_iff]
  constructor
  · intro h
    exact ⟨⟨h.decodes, h.fresh, h.ephC, h.cPrime⟩, h.entry⟩
  · rintro ⟨⟨hd, hk, he, hc⟩, hentry⟩
    exact ⟨hd, hk, he, hc, hentry⟩

/-- The order of the registry does not matter. -/
theorem Admissible.perm {reg : Registry} (hp : reg.Perm st.registry) :
    Admissible S cfg { st with registry := reg } payload a1 ↔ Admissible S cfg st payload a1 := by
  simp only [admissible_iff, hp.mem_iff]

/-! ## The search -/

/-- An admissible message is answered for the first entry that passes. -/
theorem search_of_admissible (cap : ℕ) (hdr : Header) (draws : ℕ → Auth2Draws)
    (ha : Admissible S cfg st payload a1) :
    ∃ j e, st.registry[j]? = some e ∧ (passes S cfg a1 e = true ∧ rolePasses S cfg a1 = true) ∧
      (∀ k < j, ∀ e', st.registry[k]? = some e' → passes S cfg a1 e' = false) ∧
      search (verdicts S cap cfg st hdr payload draws) .unknownDevice
        = auth1Respond S cfg hdr.sessionId hdr.seq e.devicePub a1 (draws j) maxDatagram := by
  obtain ⟨hpre, e, he, hp, hr⟩ := admissible_iff.mp ha
  cases hj : st.registry.findIdx? (passes S cfg a1) with
  | none =>
      rw [List.findIdx?_eq_none_iff.mp hj e he] at hp
      cases hp
  | some j =>
      obtain ⟨hlt, hpass, hbefore⟩ := List.findIdx?_eq_some_iff_getElem.mp hj
      have hej := List.getElem?_eq_getElem hlt
      refine ⟨j, st.registry[j], hej, ⟨hpass, hr⟩, ?_, search_of_pass hpre hr hj hej⟩
      intro k hk e' he'
      rw [List.getElem?_eq_getElem (Nat.lt_trans hk hlt), Option.some.injEq] at he'
      rw [← he']
      simpa using hbefore k hk

/-- For a message that is not admissible the search ends with an error. -/
theorem search_of_not_admissible (cap : ℕ) (hdr : Header) (draws : ℕ → Auth2Draws)
    (hnot : ¬ ∃ a1, Admissible S cfg st payload a1) :
    ∃ err, search (verdicts S cap cfg st hdr payload draws) .unknownDevice = .error err := by
  by_cases hne : st.registry = []
  · exact ⟨.unknownDevice, by simp [verdicts, hne, search]⟩
  cases hpre : precheck S st.replayCache payload with
  | error err => exact ⟨err, search_of_fault hpre hne⟩
  | ok a1 =>
      cases hr : rolePasses S cfg a1 with
      | false => exact ⟨_, search_of_role hpre hr (List.getLast?_eq_some_getLast hne)⟩
      | true =>
          refine ⟨_, search_of_none hpre hne fun e he => ?_⟩
          rw [Bool.eq_false_iff]
          intro hp
          exact hnot ⟨a1, admissible_iff.mpr ⟨hpre, e, he, hp, hr⟩⟩

/-! ## The answer -/

/-- A server proof fails only when the nonce or the key has the identity as its point. -/
theorem authProveAuthServer_ok {wide : Bytes 64} {sk : Bytes 32} (nonceS ephS : Bytes 32)
    [NeZero q] (hr : (scalarOf wide : ZMod q) • S.base ≠ 0)
    (hsk : (clamped sk : ZMod q) • S.base ≠ 0) :
    ∃ proof, authProveAuthServer S wide sk nonceS ephS = .ok proof := by
  have hcommit := authScalarmultBase_encScalar S hr
  have hkey := authScalarmultBase_eq_ok_iff.mpr ⟨hsk, rfl⟩
  simp only [authProveAuthServer, proveSchnorr, authScalarFromWide_eq, hcommit, hkey,
    Except.ok_bind', Except.bind_eq_ok_iff, Except.pure_eq_ok]
  refine ⟨_, _, challenge_eq S (by decide) (by simp) ?_, rfl⟩
  intro f hf
  simp only [List.mem_cons, List.not_mem_nil, or_false] at hf
  obtain rfl | rfl | rfl | rfl := hf <;> exact field_short (by decide) (by simp)

/-- With nonzero scalars, an AUTH_1 whose point was checked is answered. -/
theorem auth1Respond_of_ne_zero [Fact q.Prime] (hbase : S.base ≠ 0)
    (hsk : (clamped cfg.serverSk : ZMod q) ≠ 0) {d : Auth2Draws}
    (heph : (scalarOf d.eph : ZMod q) ≠ 0) (hnonce : (scalarOf d.proof : ZMod q) ≠ 0)
    (hpoint : authCheckPoint S a1.ephC = .ok ()) (sid : SessionId) (seq : UInt32)
    (pub : Bytes 32) :
    ∃ p pkt, auth1Respond S cfg sid seq pub a1 d maxDatagram = .ok (p, pkt) := by
  obtain ⟨E, hE, hne⟩ := authCheckPoint_eq_ok_iff.mp hpoint
  have hc : a1.ephC = S.encPoint E := ((S.decPoint_eq_some_iff _ _).mp hE).symm
  obtain ⟨proof, hproof⟩ := authProveAuthServer_ok d.nonce
    (S.encPoint ((scalarOf d.eph : ZMod q) • S.base)) (smul_ne_zero hnonce hbase)
    (smul_ne_zero hsk hbase)
  have hephS := authScalarmultBase_encScalar S (smul_ne_zero heph hbase)
  have hshared := authScalarmult_encScalar S (smul_ne_zero heph hne)
  rw [← hc] at hshared
  exact ⟨_, _, auth1Respond_eq_ok_iff.mpr
    ⟨by decide, _, proof, _, hephS, hproof, hshared, rfl, rfl⟩⟩

theorem pktTypeOf_auth1Respond {sid : SessionId} {seq : UInt32} {pub : Bytes 32} {d : Auth2Draws}
    {outCap : ℕ} {p : PendingAuth} {pkt : List UInt8}
    (h : auth1Respond S cfg sid seq pub a1 d outCap = .ok (p, pkt)) :
    pktTypeOf pkt = pktAuth2 := by
  obtain ⟨-, ephS, proof, shared, -, -, -, -, rfl⟩ := auth1Respond_eq_ok_iff.mp h
  exact pktTypeOf_frame ..

/-- The key of an admissible AUTH_1 is the one that is remembered. -/
theorem Admissible.remember (h : Admissible S cfg st payload a1) :
    authReplayCacheInsert cap st.replayCache (authReplayKey S a1.pid a1.nonceC a1.ephC)
      = (remember S cap st.replayCache payload, true) := by
  have hkey : payloadKey S payload = some (authReplayKey S a1.pid a1.nonceC a1.ephC) := by
    rw [payloadKey, h.decodes]
  rw [C.remember, hkey]
  exact Prod.ext rfl (ReplayCache.insert_snd cap h.fresh)

theorem Admissible.order (h : Admissible S cfg st payload a1) (hcap : 0 < cap)
    (hv : st.replayCache.Valid cap) : (C.remember S cap st.replayCache payload).order
      = Fifo.push cap st.replayCache.order (authReplayKey S a1.pid a1.nonceC a1.ephC) := by
  have hpush := (ReplayCache.insert_new hcap hv h.fresh).2
  rwa [h.remember] at hpush

end

/-! ## The main result -/

section

variable [Fact q.Prime] {S : Suite q G} {cfg : ServerConfig} {job : Job} {hdr : Header}
  {payload : List UInt8}

/-- An AUTH_1 is admissible, and activates a slot, or it is not, and nothing changes. -/
theorem dispatch_auth1_cases (cap : ℕ) {st : ServerState} (hbase : S.base ≠ 0)
    (hsk : (clamped cfg.serverSk : ZMod q) ≠ 0)
    (hdraws : ∀ j, (scalarOf (job.auth j).eph : ZMod q) ≠ 0 ∧
      (scalarOf (job.auth j).proof : ZMod q) ≠ 0)
    (hd : authHeaderDecode job.input = .ok (hdr, payload)) (ht : hdr.pktType = pktAuth1)
    (hfree : .free ∈ st.sessions) :
    (∃ a1 i j e p, Admissible S cfg st payload a1 ∧
      Activated S cap cfg st job hdr a1 i j e p ((dispatch S cap cfg job).run st).1
        ((dispatch S cap cfg job).run st).2) ∨
    (¬ ∃ a1, Admissible S cfg st payload a1) ∧
      ∃ err, (dispatch S cap cfg job).run st = (st, errorReply hdr err) := by
  obtain ⟨i, hi⟩ : ∃ i, st.sessions.findIdx? (· = .free) = some i := by
    cases hi : st.sessions.findIdx? (· = .free) with
    | some i => exact ⟨i, rfl⟩
    | none => simpa using List.findIdx?_eq_none_iff.mp hi _ hfree
  rw [dispatch_run st hd, serve_auth1 ht, serveAuth1, hi]
  by_cases hadm : ∃ a1, Admissible S cfg st payload a1
  · obtain ⟨a1, ha⟩ := hadm
    obtain ⟨j, e, he, hpass, hfirst, hs⟩ := search_of_admissible cap hdr job.auth ha
    obtain ⟨p, pkt, hok⟩ := auth1Respond_of_ne_zero hbase hsk (hdraws j).1 (hdraws j).2 ha.ephC
      hdr.sessionId hdr.seq e.devicePub
    simp only [hs, hok, replyOf]
    exact .inl ⟨a1, i, j, e, p, ha, hi, free_of_findIdx? hi, he, hpass, hfirst, hok,
      auth1Respond_devicePub hok, rfl, rfl, ha.remember, ha.order⟩
  · obtain ⟨err, hs⟩ := search_of_not_admissible cap hdr job.auth hadm
    simp only [hs, replyOf]
    exact .inr ⟨hadm, err, rfl⟩

/-- An AUTH_1 is answered exactly when it is admissible. -/
theorem dispatch_auth1_iff (cap : ℕ) (st : ServerState) (hbase : S.base ≠ 0)
    (hsk : (clamped cfg.serverSk : ZMod q) ≠ 0)
    (hdraws : ∀ j, (scalarOf (job.auth j).eph : ZMod q) ≠ 0 ∧
      (scalarOf (job.auth j).proof : ZMod q) ≠ 0)
    (hd : authHeaderDecode job.input = .ok (hdr, payload)) (ht : hdr.pktType = pktAuth1)
    (hfree : .free ∈ st.sessions) :
    pktTypeOf ((dispatch S cap cfg job).run st).2 = pktAuth2 ↔
      ∃ a1, Admissible S cfg st payload a1 := by
  rcases dispatch_auth1_cases cap hbase hsk hdraws hd ht hfree with
    ⟨a1, i, j, e, p, ha, hact⟩ | ⟨hnot, err, hrun⟩
  · exact iff_of_true (pktTypeOf_auth1Respond hact.record) ⟨a1, ha⟩
  · rw [hrun, pktTypeOf_errorReply]
    exact iff_of_false (by decide) hnot

/-- An AUTH_1 with a free slot is answered exactly when it is admissible.  Answering it turns
the first free slot into an AUTH slot with the record of the first entry that passes, and
inserts its replay key.  Refusing it changes nothing. -/
theorem auth1_dispatch (S : Suite q G) (hbase : S.base ≠ 0) (cap : ℕ) (cfg : ServerConfig)
    (hsk : (clamped cfg.serverSk : ZMod q) ≠ 0) (st : ServerState) (hfree : .free ∈ st.sessions)
    (job : Job) (hdraws : ∀ j, (scalarOf (job.auth j).eph : ZMod q) ≠ 0 ∧
      (scalarOf (job.auth j).proof : ZMod q) ≠ 0)
    (hdr : Header) (payload : List UInt8)
    (hd : authHeaderDecode job.input = .ok (hdr, payload)) (ht : hdr.pktType = pktAuth1) :
    (pktTypeOf ((dispatch S cap cfg job).run st).2 = pktAuth2 ↔
      ∃ a1, Admissible S cfg st payload a1) ∧
    (∀ reg : Registry, reg.Perm st.registry →
      (pktTypeOf ((dispatch S cap cfg job).run { st with registry := reg }).2 = pktAuth2 ↔
        pktTypeOf ((dispatch S cap cfg job).run st).2 = pktAuth2)) ∧
    (pktTypeOf ((dispatch S cap cfg job).run st).2 = pktAuth2 →
      ∃ a1 i j e p, Admissible S cfg st payload a1 ∧
        Activated S cap cfg st job hdr a1 i j e p ((dispatch S cap cfg job).run st).1
          ((dispatch S cap cfg job).run st).2) ∧
    (pktTypeOf ((dispatch S cap cfg job).run st).2 ≠ pktAuth2 →
      ((dispatch S cap cfg job).run st).1 = st ∧
        pktTypeOf ((dispatch S cap cfg job).run st).2 = pktError) := by
  have hiff := dispatch_auth1_iff cap st hbase hsk hdraws hd ht hfree
  refine ⟨hiff, ?_, ?_, ?_⟩
  · intro reg hperm
    have hreg := dispatch_auth1_iff cap { st with registry := reg } hbase hsk hdraws hd ht
      hfree
    rw [hiff, hreg]
    simp only [Admissible.perm hperm]
  · intro hans
    rcases dispatch_auth1_cases cap hbase hsk hdraws hd ht hfree with h | ⟨hnot, -⟩
    · exact h
    · exact absurd (hiff.mp hans) hnot
  · intro hans
    rcases dispatch_auth1_cases cap hbase hsk hdraws hd ht hfree with
      ⟨a1, i, j, e, p, ha, -⟩ | ⟨-, err, hrun⟩
    · exact absurd (hiff.mpr ⟨a1, ha⟩) hans
    · rw [hrun]
      exact ⟨rfl, pktTypeOf_errorReply hdr err⟩

end

/-! ## A registry of two -/

/-- A server whose registry starts with an entry that has the identity for a key. -/
def demoTwoEntries : ServerState where
  registry := [⟨byteString 31 2, Bytes.zero 32, demoDevice.roleCommitment⟩,
    ⟨demoDevice.deviceId, demoDevice.devicePub, demoDevice.roleCommitment⟩]
  sessions := [.reserved, .free]
  replayCache := authReplayCacheInit

/-- The AUTH_1 of the second device. -/
def demoAuth1Job : Job :=
  demoJob (frame pktAuth1 (byteString 15 7) 1 ((packetOf demoSent).drop headerLen))

theorem auth1_dispatch_second :
    pktTypeOf ((dispatch smallSuite 4 demoConfig demoAuth1Job).run demoTwoEntries).2 = pktAuth2 ∧
    ∃ a1, Admissible smallSuite demoConfig demoTwoEntries ((packetOf demoSent).drop headerLen)
      a1 := by
  have hans : pktTypeOf ((dispatch smallSuite 4 demoConfig demoAuth1Job).run demoTwoEntries).2
      = pktAuth2 := by decide +kernel
  have hsk : (clamped demoConfig.serverSk : ZMod 11) ≠ 0 := by decide +kernel
  have hdraws : ∀ j, (scalarOf (demoAuth1Job.auth j).eph : ZMod 11) ≠ 0 ∧
      (scalarOf (demoAuth1Job.auth j).proof : ZMod 11) ≠ 0 := by
    have hfixed : (scalarOf (byteString 63 4) : ZMod 11) ≠ 0 ∧
        (scalarOf (byteString 63 2) : ZMod 11) ≠ 0 := by decide +kernel
    exact fun _ => hfixed
  have hprime : Fact (Nat.Prime 11) := ⟨Nat.prime_eleven⟩
  have hspec := auth1_dispatch smallSuite (by decide) 4 demoConfig hsk demoTwoEntries
    (by simp [demoTwoEntries]) demoAuth1Job hdraws _ _ (authHeaderDecode_frame _ _ _ _) rfl
  exact ⟨hans, hspec.1.mp hans⟩

end ZkArche.C
