import ZkArche.Lib.FirstMatch
import ZkArche.Server.EnrollmentAtomicity

/-!
# The device an AUTH_1 is attributed to

`handle_auth_1` iterates a hash map, commits to the first record whose pseudonym matches, and
then verifies the proofs against that record only.  The order of the iteration is not fixed by
the code.

A registry is ambiguous for an AUTH_1 when two device identifiers have the pseudonym and one
of them passes the proofs.  The pseudonym depends on the device key alone, so a key that is
enrolled under two identifiers makes the registry ambiguous for every AUTH_1 of that key that
passes.  The outcome does not depend on the order exactly when the registry is not ambiguous
(`attribution_order_free`).
-/

namespace ZkArche.Rust

variable {q : ℕ} {G : Type} [AddCommGroup G] [Module (ZMod q) G] {S : Suite q G}
  [DecidableEq G]

/-- Accept or reject, and the device an accepted AUTH_1 is attributed to. -/
def attributed (r : MemoryReplayCache × Except Stop PendingAuth) : Option (Bytes 32) :=
  r.2.toOption.map PendingAuth.deviceId

/-- A record has the pseudonym of an AUTH_1. -/
def pidMatches (S : Suite q G) (serverPub : G) (a1 : Auth1 q G)
    (r : Bytes 32 × DeviceRecord G) : Bool :=
  decide (computePid S r.2.pubkey a1.nonceC a1.ephC serverPub = a1.pid)

/-- The three proofs of an AUTH_1 verify against a record. -/
def proofsPass (S : Suite q G) (allowedRoles : List UInt64) (a1 : Auth1 q G)
    (rec : DeviceRecord G) : Bool :=
  verifyAuthClient S rec.pubkey a1.pid a1.nonceC a1.ephC a1.clientProof
    && verifyRerandomization S rec.roleCommitment a1.cPrime a1.pid a1.nonceC a1.ephC
      a1.rerandProof
    && verifyRoleSetMembership S ⟨allowedRoles, a1.cPrime, a1.pid, a1.nonceC, a1.ephC⟩ a1.branches

/-- What the server says of the record it commits to. -/
def attribution (S : Suite q G) (allowedRoles : List UInt64) (a1 : Auth1 q G)
    (r : Bytes 32 × DeviceRecord G) : Option (Bytes 32) :=
  if proofsPass S allowedRoles a1 r.2 then some r.1 else none

theorem attribution_eq_some_iff {allowedRoles : List UInt64} {a1 : Auth1 q G}
    {r : Bytes 32 × DeviceRecord G} {id : Bytes 32} :
    attribution S allowedRoles a1 r = some id ↔
      proofsPass S allowedRoles a1 r.2 = true ∧ r.1 = id := by
  unfold attribution
  split
  next h => simp [h]
  next h => simp [h]

section Request

variable (S) (serverSk : Except ProtoError (ZMod q)) (replay : MemoryReplayCache)
  (allowedRoles : List UInt64) (sid : SessionId) (seq : UInt32) (payload : List UInt8)
  (draws : Auth2Draws)

/-- The AUTH_1 is well formed and fresh, and the server has its key. -/
structure Examined (a1 : Auth1 q G) (sk : ZMod q) : Prop where
  decoded : Auth1.decode S payload = .ok a1
  fresh : replay.contains (replayKey S a1.pid a1.nonceC a1.ephC) = false
  key : serverSk = .ok sk

/-- Two device identifiers have the pseudonym of the AUTH_1, and one of them passes the
proofs. -/
def Ambiguous (registry : Registry G) : Prop :=
  ∃ a1 sk, Examined S serverSk replay payload a1 sk ∧
    ∃ r ∈ registry.records, ∃ r' ∈ registry.records, r.1 ≠ r'.1 ∧
      pidMatches S (sk • S.base) a1 r = true ∧ pidMatches S (sk • S.base) a1 r' = true ∧
      proofsPass S allowedRoles a1 r.2 = true

variable {serverSk replay allowedRoles sid seq payload draws}

theorem attributed_eq_some_iff {records : List (Bytes 32 × DeviceRecord G)} {id : Bytes 32} :
    attributed (handleAuth1 S serverSk records replay allowedRoles sid seq payload draws)
        = some id ↔
      ∃ a1 sk, Examined S serverSk replay payload a1 sk ∧
        (records.find? (pidMatches S (sk • S.base) a1)).bind (attribution S allowedRoles a1)
          = some id := by
  have hcheck : ∀ {a1 : Auth1 q G} {rec : DeviceRecord G},
      proofsPass S allowedRoles a1 rec = true ↔
      verifyAuthClient S rec.pubkey a1.pid a1.nonceC a1.ephC a1.clientProof = true ∧
      verifyRerandomization S rec.roleCommitment a1.cPrime a1.pid a1.nonceC a1.ephC
        a1.rerandProof = true ∧
      verifyRoleSetMembership S ⟨allowedRoles, a1.cPrime, a1.pid, a1.nonceC, a1.ephC⟩
        a1.branches = true := by
    intro a1 rec
    simp only [proofsPass, Bool.and_eq_true, and_assoc]
  constructor
  · intro h
    rcases handleAuth1_cases serverSk records replay allowedRoles sid seq payload draws with
      ⟨e, he⟩ | ⟨key, p, -, -, ha, he⟩
    · rw [he] at h
      cases h
    · obtain ⟨a1, sk, deviceId, rec, hd, hk, hsk, hv, hr⟩ := auth1Accept_eq_ok_iff.mp ha
      rw [he] at h
      simp only [attributed, Except.toOption, Option.map_some, Option.some.injEq] at h
      refine ⟨a1, sk, ⟨hd, hk, hsk⟩, ?_⟩
      rw [Option.bind_eq_some_iff]
      refine ⟨(deviceId, rec), hv.found, attribution_eq_some_iff.mpr ⟨?_, ?_⟩⟩
      · exact hcheck.mpr ⟨hv.client, hv.rerand, hv.role⟩
      · rw [← h, (Prod.mk.inj hr).2]
        rfl
  · rintro ⟨a1, sk, hx, h⟩
    obtain ⟨⟨deviceId, rec⟩, hf, hat⟩ := Option.bind_eq_some_iff.mp h
    obtain ⟨hpass, rfl⟩ := attribution_eq_some_iff.mp hat
    obtain ⟨h1, h2, h3⟩ := hcheck.mp hpass
    have ha : auth1Accept S serverSk records replay allowedRoles sid seq payload draws = .ok
        (replayKey S a1.pid a1.nonceC a1.ephC,
          pendingOf S sid seq deviceId (serverConfirmation S sk a1 draws)) :=
      auth1Accept_eq_ok_iff.mpr ⟨a1, sk, deviceId, rec, hx.decoded, hx.fresh, hx.key,
        ⟨hf, h1, h2, h3⟩, rfl⟩
    simp only [attributed, handleAuth1, ha, Except.toOption, Option.map_some]
    rfl

/-- For an examined AUTH_1 the outcome is that of the first record with the pseudonym. -/
theorem attributed_eq {a1 : Auth1 q G} {sk : ZMod q}
    (hx : Examined S serverSk replay payload a1 sk)
    (records : List (Bytes 32 × DeviceRecord G)) :
    attributed (handleAuth1 S serverSk records replay allowedRoles sid seq payload draws)
      = (records.find? (pidMatches S (sk • S.base) a1)).bind (attribution S allowedRoles a1) := by
  apply Option.ext
  intro id
  rw [attributed_eq_some_iff S]
  constructor
  · rintro ⟨b1, sk', hy, h⟩
    obtain rfl : b1 = a1 := Except.ok.inj (hy.decoded.symm.trans hx.decoded)
    obtain rfl : sk' = sk := Except.ok.inj (hy.key.symm.trans hx.key)
    exact h
  · intro h
    exact ⟨a1, sk, hx, h⟩

/-- An AUTH_1 that is not examined is refused. -/
theorem attributed_eq_none (hx : ¬ ∃ a1 sk, Examined S serverSk replay payload a1 sk)
    (records : List (Bytes 32 × DeviceRecord G)) :
    attributed (handleAuth1 S serverSk records replay allowedRoles sid seq payload draws)
      = none := by
  rw [Option.eq_none_iff_forall_ne_some]
  intro id h
  obtain ⟨a1, sk, hy, -⟩ := (attributed_eq_some_iff S).mp h
  exact hx ⟨a1, sk, hy⟩

end Request

omit [AddCommGroup G] [DecidableEq G] in
/-- A registry holds one record per device identifier. -/
theorem Registry.record_unique {registry : Registry G} {r r' : Bytes 32 × DeviceRecord G}
    (h : r ∈ registry.records) (h' : r' ∈ registry.records) (hid : r.1 = r'.1) : r = r' := by
  obtain ⟨⟨id, rec⟩, he, rfl⟩ := List.mem_map.mp h
  obtain ⟨⟨id', rec'⟩, he', rfl⟩ := List.mem_map.mp h'
  obtain rfl : id = id' := hid
  have hrec := (registry.nodupKeys.eq_of_mk_mem he he')
  rw [hrec]

/-- Whether an AUTH_1 is accepted, and the device it is attributed to, are the same for every
iteration order of the registry exactly when the registry is not ambiguous for it. -/
theorem attribution_order_free (serverSk : Except ProtoError (ZMod q)) (registry : Registry G)
    (replay : MemoryReplayCache) (allowedRoles : List UInt64) (sid : SessionId) (seq : UInt32)
    (payload : List UInt8) (draws : Auth2Draws) :
    (∀ l₁ l₂ : List (Bytes 32 × DeviceRecord G), l₁.Perm registry.records →
      l₂.Perm registry.records →
      attributed (handleAuth1 S serverSk l₁ replay allowedRoles sid seq payload draws)
        = attributed (handleAuth1 S serverSk l₂ replay allowedRoles sid seq payload draws)) ↔
    ¬ Ambiguous S serverSk replay allowedRoles payload registry := by
  by_cases hx : ∃ a1 sk, Examined S serverSk replay payload a1 sk
  case neg =>
    constructor
    · rintro - ⟨a1, sk, hy, -⟩
      exact hx ⟨a1, sk, hy⟩
    · intro _ l₁ l₂ _ _
      rw [attributed_eq_none S hx, attributed_eq_none S hx]
  case pos =>
    obtain ⟨a1, sk, hx⟩ := hx
    simp only [attributed_eq S hx]
    rw [FirstMatch.order_free_iff]
    constructor
    · rintro h ⟨b1, sk', hy, r, hr, r', hr', hne, hm, hm', hp⟩
      obtain rfl : b1 = a1 := Except.ok.inj (hy.decoded.symm.trans hx.decoded)
      obtain rfl : sk' = sk := Except.ok.inj (hy.key.symm.trans hx.key)
      have heq := h r hr r' hr' hm hm'
      rw [attribution_eq_some_iff.mpr ⟨hp, rfl⟩] at heq
      exact hne (attribution_eq_some_iff.mp heq.symm).2.symm
    · intro h r hr r' hr' hm hm'
      by_cases hid : r.1 = r'.1
      · rw [Registry.record_unique hr hr' hid]
      · have hp : proofsPass S allowedRoles a1 r.2 = false := by
          rw [Bool.eq_false_iff]
          exact fun hp => h ⟨a1, sk, hx, r, hr, r', hr', hid, hm, hm', hp⟩
        have hp' : proofsPass S allowedRoles a1 r'.2 = false := by
          rw [Bool.eq_false_iff]
          exact fun hp => h ⟨a1, sk, hx, r', hr', r, hr, fun e => hid e.symm, hm', hm, hp⟩
        simp [attribution, hp, hp']

/-! ## A key under two identifiers -/

/-- The record of the demo device. -/
def demoRecord : DeviceRecord (ZMod 11) := ⟨demoDeviceKey, demoCommitment⟩

/-- A registry with the demo device under two identifiers. -/
def demoTwice : Registry (ZMod 11) :=
  (AList.insert (byteString 31 2) demoRecord ∅).insert (byteString 31 1) demoRecord

/-- The demo AUTH_1 at a server that iterates the records in the given order. -/
def demoAttributed (records : List (Bytes 32 × DeviceRecord (ZMod 11))) : Option (Bytes 32) :=
  attributed (handleAuth1 smallSuite (.ok demoServerKey) records (MemoryReplayCache.new 4)
    defaultAllowedRoles (byteString 15 9) 1 (demoRolesAuth1.drop headerLen)
    ⟨byteString 31 8, byteString 63 4, byteString 63 2⟩)

/-- A key under two identifiers is attributed to whichever identifier comes first. -/
theorem attribution_depends_on_order :
    (demoTwice.records.reverse.Perm demoTwice.records ∧
      demoAttributed demoTwice.records = some (byteString 31 1) ∧
      demoAttributed demoTwice.records.reverse = some (byteString 31 2)) ∧
    ¬ ∀ l₁ l₂ : List (Bytes 32 × DeviceRecord (ZMod 11)), l₁.Perm demoTwice.records →
      l₂.Perm demoTwice.records → demoAttributed l₁ = demoAttributed l₂ := by
  have hfirst : demoAttributed demoTwice.records = some (byteString 31 1) := by decide +kernel
  have hlast : demoAttributed demoTwice.records.reverse = some (byteString 31 2) := by
    decide +kernel
  have hperm := List.reverse_perm demoTwice.records
  refine ⟨⟨hperm, hfirst, hlast⟩, fun h => ?_⟩
  have heq := h _ _ (List.Perm.refl _) hperm
  rw [hfirst, hlast] at heq
  exact absurd heq (by decide)

end ZkArche.Rust
