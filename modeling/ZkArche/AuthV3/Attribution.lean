import ZkArche.AuthV3.IotCoreAuthz
import ZkArche.Lib.Delimited
import ZkArche.Lib.UniqueMatch

/-!
# Attribution of a credential

The table of attribution records says which peer a credential reference stands for and with which
authorization.  The resolver wants exactly one record with the reference.  It then compares the peer
with the expected one, and the seven fields of the record with the authorization context.

Rust asks an iterator over the records with the reference for a first and for a second element.  C
loops over the table with the match it remembers and returns when it sees another one.
-/

namespace ZkArche

/-- The record attributes the context. -/
structure IotCoreAttributionRecordV1.Attributes (record : IotCoreAttributionRecordV1)
    (context : IotCoreAuthorizationContextV1) : Prop where
  holder : record.holderBinding = context.holderBinding
  audience : record.audienceId = context.audienceId
  rolePolicy : record.rolePolicyId = context.rolePolicyId
  scope : record.scopeBits = context.scopeBits
  generation : record.authorizationGeneration = context.authorizationGeneration
  policyEpoch : record.policyEpoch = context.policyEpoch
  revocationEpoch : record.revocationEpoch = context.revocationEpoch

/-- The seven comparisons, as the code groups them. -/
theorem attributes_iff {r : IotCoreAttributionRecordV1} {c : IotCoreAuthorizationContextV1} :
    r.Attributes c ↔ (((((r.holderBinding = c.holderBinding ∧ r.audienceId = c.audienceId) ∧
      r.rolePolicyId = c.rolePolicyId) ∧ r.scopeBits = c.scopeBits) ∧
      r.authorizationGeneration = c.authorizationGeneration) ∧ r.policyEpoch = c.policyEpoch) ∧
      r.revocationEpoch = c.revocationEpoch :=
  ⟨fun h => ⟨⟨⟨⟨⟨⟨h.1, h.2⟩, h.3⟩, h.4⟩, h.5⟩, h.6⟩, h.7⟩,
    fun ⟨⟨⟨⟨⟨⟨h1, h2⟩, h3⟩, h4⟩, h5⟩, h6⟩, h7⟩ => ⟨h1, h2, h3, h4, h5, h6, h7⟩⟩

/-- `record.credential_reference == credential_reference`. -/
def IotCoreAttributionRecordV1.carries (record : IotCoreAttributionRecordV1)
    (credentialReference : Bytes 32) : Bool :=
  record.credentialReference == credentialReference

theorem carries_iff {r : IotCoreAttributionRecordV1} {reference : Bytes 32} :
    r.carries reference = true ↔ r.credentialReference = reference := beq_iff_eq

/-- The comparison of the seven fields that both languages make. -/
def IotCoreAttributionRecordV1.differs (record : IotCoreAttributionRecordV1)
    (context : IotCoreAuthorizationContextV1) : Bool :=
  record.holderBinding != context.holderBinding
    || record.audienceId != context.audienceId
    || record.rolePolicyId != context.rolePolicyId
    || record.scopeBits != context.scopeBits
    || record.authorizationGeneration != context.authorizationGeneration
    || record.policyEpoch != context.policyEpoch
    || record.revocationEpoch != context.revocationEpoch

theorem differs_eq_false_iff {r : IotCoreAttributionRecordV1}
    {c : IotCoreAuthorizationContextV1} : r.differs c = false ↔ r.Attributes c := by
  simp only [IotCoreAttributionRecordV1.differs, attributes_iff, Bool.or_eq_false_iff,
    bne_eq_false_iff_eq]

/-! ## Rust -/

namespace Rust

/-- `IotCoreAttributionError`. -/
inductive IotCoreAttributionError where
  | missingReference | ambiguousReference | identityMismatch | authorizationMismatch
deriving DecidableEq

/-- `resolve_iot_core_attribution`. -/
def resolveIotCoreAttribution (records : List IotCoreAttributionRecordV1)
    (credentialReference expectedPeerIdentity : Bytes 32)
    (context : IotCoreAuthorizationContextV1) :
    Except IotCoreAttributionError IotCoreAttributionRecordV1 :=
  -- the iterator yields the records with the reference in the order of the table
  match records.filter (·.carries credentialReference) with
  | [] => .error .missingReference
  | record :: candidates => do
      ensure (candidates.head? = none) .ambiguousReference
      ensure (record.peerIdentity = expectedPeerIdentity) .identityMismatch
      ensure (¬ record.differs context) .authorizationMismatch
      return record

end Rust

/-! ## C -/

namespace C

/-- The failing values of `auth_v3_iot_core_authz_result_t` for attribution. -/
inductive IotCoreAttributionResult where
  | missingReference | ambiguousReference | identityMismatch | authorizationMismatch
deriving DecidableEq

/-- The loop of `auth_v3_iot_core_attribution_resolve`, with `match`. -/
def attributionLoop (credentialReference : Bytes 32) : Option IotCoreAttributionRecordV1 →
    List IotCoreAttributionRecordV1 →
    Except IotCoreAttributionResult (Option IotCoreAttributionRecordV1)
  | found, [] => .ok found
  | found, record :: records =>
      if record.carries credentialReference then
        if found ≠ none then .error .ambiguousReference
        else attributionLoop credentialReference (some record) records
      else attributionLoop credentialReference found records

/-- `auth_v3_iot_core_attribution_resolve`.  The pointers are there. -/
def authV3IotCoreAttributionResolve (records : List IotCoreAttributionRecordV1)
    (credentialReference expectedPeerIdentity : Bytes 32)
    (context : IotCoreAuthorizationContextV1) :
    Except IotCoreAttributionResult IotCoreAttributionRecordV1 := do
  match ← attributionLoop credentialReference none records with
  | none => .error .missingReference
  | some found =>
      ensure (¬ found.peerIdentity ≠ expectedPeerIdentity) .identityMismatch
      ensure (¬ found.differs context) .authorizationMismatch
      return found

end C

/-! ## One record decides -/

/-- The error of C for an error of Rust. -/
def Rust.IotCoreAttributionError.inC : Rust.IotCoreAttributionError → C.IotCoreAttributionResult
  | .missingReference => .missingReference
  | .ambiguousReference => .ambiguousReference
  | .identityMismatch => .identityMismatch
  | .authorizationMismatch => .authorizationMismatch

/-- What both languages decide of the only record. -/
def settleAttribution (expectedPeerIdentity : Bytes 32) (context : IotCoreAuthorizationContextV1) :
    UniqueMatch IotCoreAttributionRecordV1 →
    Except Rust.IotCoreAttributionError IotCoreAttributionRecordV1
  | .none => .error .missingReference
  | .several => .error .ambiguousReference
  | .one record => do
      ensure (record.peerIdentity = expectedPeerIdentity) .identityMismatch
      ensure (¬ record.differs context) .authorizationMismatch
      return record

section

variable {records : List IotCoreAttributionRecordV1} {reference peer : Bytes 32}
  {context : IotCoreAuthorizationContextV1}

theorem settleAttribution_eq_ok_iff {found : UniqueMatch IotCoreAttributionRecordV1}
    {r : IotCoreAttributionRecordV1} :
    settleAttribution peer context found = .ok r ↔
      found = .one r ∧ r.peerIdentity = peer ∧ r.Attributes context := by
  cases found with
  | none => simp [settleAttribution]
  | several => simp [settleAttribution]
  | one s =>
      simp only [settleAttribution, Except.bind_eq_ok_iff, ensure_eq_ok_iff, exists_const,
        Except.pure_eq_ok, Except.ok.injEq, UniqueMatch.one.injEq, ← differs_eq_false_iff,
        Bool.not_eq_true]
      constructor
      · rintro ⟨hpeer, hdiff, rfl⟩
        exact ⟨rfl, hpeer, hdiff⟩
      · rintro ⟨rfl, hpeer, hdiff⟩
        exact ⟨hpeer, hdiff, rfl⟩

/-- The error for a record, in the order of the checks. -/
theorem settleAttribution_eq_error_iff {found : UniqueMatch IotCoreAttributionRecordV1}
    {e : Rust.IotCoreAttributionError} :
    settleAttribution peer context found = .error e ↔
      (found = .none ∧ .missingReference = e) ∨ (found = .several ∧ .ambiguousReference = e) ∨
      (∃ r, found = .one r ∧ r.peerIdentity ≠ peer ∧ .identityMismatch = e) ∨
      (∃ r, found = .one r ∧ r.peerIdentity = peer ∧ ¬ r.Attributes context ∧
        .authorizationMismatch = e) := by
  cases found with
  | none => simp [settleAttribution]
  | several => simp [settleAttribution]
  | one r =>
      by_cases hpeer : r.peerIdentity = peer
      · by_cases hdiff : r.differs context = true
        · simp [settleAttribution, hpeer, hdiff, ← differs_eq_false_iff]
        · simp [settleAttribution, hpeer, hdiff, ← differs_eq_false_iff]
      · simp [settleAttribution, hpeer]

theorem Rust.resolveIotCoreAttribution_eq :
    Rust.resolveIotCoreAttribution records reference peer context =
      settleAttribution peer context (.find (·.carries reference) records) := by
  unfold Rust.resolveIotCoreAttribution UniqueMatch.find
  generalize records.filter (·.carries reference) = candidates
  rcases candidates with _ | ⟨r, _ | ⟨s, rest⟩⟩ <;> rfl

/-- What the loop ends with. -/
def C.attributionEnd : UniqueMatch IotCoreAttributionRecordV1 →
    Except C.IotCoreAttributionResult (Option IotCoreAttributionRecordV1)
  | .none => .ok none
  | .several => .error .ambiguousReference
  | .one record => .ok (some record)

/-- The loop ends with the only match among what it remembers and the rest. -/
theorem C.attributionLoop_eq (found : Option IotCoreAttributionRecordV1) :
    C.attributionLoop reference found records =
      C.attributionEnd (.ofMatches (found.toList ++ records.filter (·.carries reference))) := by
  induction records generalizing found with
  | nil => cases found <;> rfl
  | cons r records ih =>
      by_cases hr : r.carries reference = true
      · rw [C.attributionLoop, if_pos hr, List.filter_cons, if_pos hr]
        cases found with
        | none => rw [if_neg (not_not.mpr rfl), ih]; rfl
        | some m => rfl
      · rw [C.attributionLoop, if_neg hr, List.filter_cons, if_neg hr, ih]

/-- C resolves as Rust does. -/
theorem C.authV3IotCoreAttributionResolve_eq :
    C.authV3IotCoreAttributionResolve records reference peer context =
      (Rust.resolveIotCoreAttribution records reference peer context).mapError
        Rust.IotCoreAttributionError.inC := by
  rw [C.authV3IotCoreAttributionResolve, C.attributionLoop_eq, Rust.resolveIotCoreAttribution_eq,
    UniqueMatch.find]
  rw [Option.toList_none, List.nil_append]
  generalize UniqueMatch.ofMatches (records.filter (·.carries reference)) = only
  cases only with
  | none => rfl
  | several => rfl
  | one r =>
      by_cases hpeer : r.peerIdentity = peer
      · by_cases hdiff : r.differs context = true
        · simp [settleAttribution, C.attributionEnd, hpeer, hdiff, Except.mapError,
            Rust.IotCoreAttributionError.inC]
        · simp [settleAttribution, C.attributionEnd, hpeer, hdiff, Except.mapError]
      · simp [settleAttribution, C.attributionEnd, hpeer, Except.mapError,
          Rust.IotCoreAttributionError.inC]

theorem find_carries_of_inserts {others : List IotCoreAttributionRecordV1}
    (h : Inserts (fun r => r.credentialReference ≠ reference) records others) :
    others.filter (·.carries reference) = records.filter (·.carries reference) := by
  induction h with
  | nil => rfl
  | keep r _ ih => rw [List.filter_cons, List.filter_cons, ih]
  | insert r hr _ ih =>
      have hother : ¬ r.carries reference = true := by simpa [carries_iff] using hr
      rw [List.filter_cons, if_neg hother, ih]

end

/-- A record is returned when it is the only one with the reference and all else agrees.  The errors
are tried in one order.  Neither the order of the table nor the other references matter, and a
second copy of the record makes the reference ambiguous. -/
theorem attribution_resolved (reference peer : Bytes 32) (context : IotCoreAuthorizationContextV1)
    (records : List IotCoreAttributionRecordV1) :
    C.authV3IotCoreAttributionResolve records reference peer context =
      (Rust.resolveIotCoreAttribution records reference peer context).mapError
        Rust.IotCoreAttributionError.inC ∧
    (∀ r, Rust.resolveIotCoreAttribution records reference peer context = .ok r ↔
      records.countP (·.carries reference) = 1 ∧ r ∈ records ∧
        r.credentialReference = reference ∧ r.peerIdentity = peer ∧ r.Attributes context) ∧
    (Rust.resolveIotCoreAttribution records reference peer context = .error .missingReference ↔
      records.countP (·.carries reference) = 0) ∧
    (Rust.resolveIotCoreAttribution records reference peer context = .error .ambiguousReference ↔
      2 ≤ records.countP (·.carries reference)) ∧
    (Rust.resolveIotCoreAttribution records reference peer context = .error .identityMismatch ↔
      records.countP (·.carries reference) = 1 ∧
        ∃ r ∈ records, r.credentialReference = reference ∧ r.peerIdentity ≠ peer) ∧
    (Rust.resolveIotCoreAttribution records reference peer context =
        .error .authorizationMismatch ↔
      records.countP (·.carries reference) = 1 ∧
        ∃ r ∈ records, r.credentialReference = reference ∧ r.peerIdentity = peer ∧
          ¬ r.Attributes context) ∧
    (∀ others, others.Perm records →
      Rust.resolveIotCoreAttribution others reference peer context =
        Rust.resolveIotCoreAttribution records reference peer context) ∧
    (∀ others, Inserts (fun r => r.credentialReference ≠ reference) records others →
      Rust.resolveIotCoreAttribution others reference peer context =
        Rust.resolveIotCoreAttribution records reference peer context) ∧
    (∀ before after, records = before ++ after → ∀ r ∈ records,
      r.credentialReference = reference →
        Rust.resolveIotCoreAttribution (before ++ r :: after) reference peer context =
          .error .ambiguousReference) := by
  simp only [C.authV3IotCoreAttributionResolve_eq, Rust.resolveIotCoreAttribution_eq,
    settleAttribution_eq_ok_iff, settleAttribution_eq_error_iff, UniqueMatch.find_eq_none_iff,
    UniqueMatch.find_eq_several_iff, UniqueMatch.find_eq_one_iff, carries_iff]
  refine ⟨trivial, ?_, ?_, ?_, ?_, ?_, ?_, ?_, ?_⟩
  · simp [and_assoc]
  · simp
  · simp
  · simp [and_assoc]
  · simp [and_assoc]
  · intro others h
    rw [UniqueMatch.find_of_perm (h.filter _)]
  · intro others h
    rw [UniqueMatch.find, find_carries_of_inserts h, UniqueMatch.find]
  · intro before after hrecords r hr hcarries
    refine .inr (.inl ⟨?_, trivial⟩)
    have hone : 0 < (before ++ after).countP (·.carries reference) :=
      List.countP_pos_iff.mpr ⟨r, hrecords ▸ hr, carries_iff.mpr hcarries⟩
    rw [List.countP_append] at hone
    rw [List.countP_append, List.countP_cons, if_pos (carries_iff.mpr hcarries)]
    omega

end ZkArche
