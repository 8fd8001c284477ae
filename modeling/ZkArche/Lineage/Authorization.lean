import ZkArche.AuthV3.Attribution
import ZkArche.AuthV3.IotCoreCodec

/-!
# Authorization of a lineage replacement

A replacement is authorized by a chain of classifiers.  Two possession proofs are checked for the
session that is expected and for the references of the credentials.  The AUTH-v3 context of the
session is compared with the caller's expectation.  The authorization context is checked for its
shape and compared with an attribution record, and so are the peer, the predecessor and the scope
that is asked for.

`AuthorizationHolds` is what all of them ask for together, and `authorized_iff` says that nothing
else decides.  The C functions take pointers where Rust takes options, and return the same.

The hash of the authorization context in the session is compared with the hash that the caller
expects, and with nothing else (`authorization_binds_expected_hash`).
-/

namespace ZkArche

/-! ## Facts and decisions -/

/-- `LineageReplaceAuthorizationFacts`. -/
structure LineageReplaceAuthorizationFacts where
  currentCredentialControlValid : Bool
  successorKeyControlValid : Bool
  currentSessionAuthenticated : Bool
  currentSessionAuthorized : Bool
  currentContextBound : Bool
  predecessorBindingCurrent : Bool
  successorScopeWithinAuthorizedScope : Bool

/-- `LineageReplaceAuthorizationDecision`. -/
inductive LineageReplaceAuthorizationDecision where
  | authorizedReplacement | rejectCurrentCredentialControl | rejectSuccessorKeyControl
  | rejectSessionAuthentication | rejectSessionAuthorization | rejectContextBinding
  | rejectPredecessorBinding | rejectPrivilegeExpansion
deriving DecidableEq

/-- `LineageReplacePossessionDecision`. -/
inductive LineageReplacePossessionDecision where
  | rejectCurrentCredentialControl | rejectSuccessorKeyControl | verified
deriving DecidableEq

/-- `VerifiedLifecyclePossessionProof`. -/
structure VerifiedLifecyclePossessionProof where
  verificationValid : Bool
  sessionId : SessionId
  subjectReference : Bytes 32

/-- `LineageReplaceSessionBindingDecision`. -/
inductive LineageReplaceSessionBindingDecision where
  | bound | rejectCompletion | rejectVersion | rejectSuite | rejectProfile | rejectSessionId
  | rejectAuthzContext | rejectChannelBinding
deriving DecidableEq

/-- `LineageReplaceSessionBindingExpectation`. -/
structure LineageReplaceSessionBindingExpectation where
  authCompletionVerified : Bool
  expectedProtocolVersion : UInt8
  expectedSuiteId : UInt16
  expectedProfileId : UInt16
  expectedSessionId : SessionId
  expectedAuthzContextHash : Bytes 32
  expectedChannelBindingHash : Bytes 32

/-- `LineageReplaceAuthContextEvidence`. -/
structure LineageReplaceAuthContextEvidence where
  currentCredentialControlValid : Bool
  successorKeyControlValid : Bool
  currentSessionAuthenticated : Bool
  expectedPeerIdentity : Bytes 32
  predecessorCredentialReference : Bytes 32
  requestedSuccessorScopeBits : UInt64

/-- `LineageReplaceBoundAuthContextEvidence`. -/
structure LineageReplaceBoundAuthContextEvidence where
  currentCredentialControlValid : Bool
  successorKeyControlValid : Bool
  expectedPeerIdentity : Bytes 32
  predecessorCredentialReference : Bytes 32
  requestedSuccessorScopeBits : UInt64

/-- `LineageReplaceVerifiedBoundAuthContextEvidence`. -/
structure LineageReplaceVerifiedBoundAuthContextEvidence where
  currentCredentialProof : VerifiedLifecyclePossessionProof
  successorKeyProof : VerifiedLifecyclePossessionProof
  successorKeyReference : Bytes 32
  expectedPeerIdentity : Bytes 32
  predecessorCredentialReference : Bytes 32
  requestedSuccessorScopeBits : UInt64

/-! ## Rust -/

namespace Rust

/-- `classify_lineage_replace_authorization`. -/
def classifyLineageReplaceAuthorization (facts : LineageReplaceAuthorizationFacts) :
    LineageReplaceAuthorizationDecision :=
  if ¬ facts.currentCredentialControlValid then .rejectCurrentCredentialControl
  else if ¬ facts.successorKeyControlValid then .rejectSuccessorKeyControl
  else if ¬ facts.currentSessionAuthenticated then .rejectSessionAuthentication
  else if ¬ facts.currentSessionAuthorized then .rejectSessionAuthorization
  else if ¬ facts.currentContextBound then .rejectContextBinding
  else if ¬ facts.predecessorBindingCurrent then .rejectPredecessorBinding
  else if ¬ facts.successorScopeWithinAuthorizedScope then .rejectPrivilegeExpansion
  else .authorizedReplacement

/-- `classify_lineage_replace_possession`. -/
def classifyLineageReplacePossession
    (currentCredentialProof successorKeyProof : Option VerifiedLifecyclePossessionProof)
    (expectedSessionId : SessionId)
    (expectedPredecessorCredentialReference expectedSuccessorKeyReference : Bytes 32) :
    LineageReplacePossessionDecision :=
  match currentCredentialProof with
  | none => .rejectCurrentCredentialControl
  | some current =>
      if ¬ current.verificationValid ∨ current.sessionId ≠ expectedSessionId ∨
          current.subjectReference ≠ expectedPredecessorCredentialReference then
        .rejectCurrentCredentialControl
      else
        match successorKeyProof with
        | none => .rejectSuccessorKeyControl
        | some successor =>
            if ¬ successor.verificationValid ∨ successor.sessionId ≠ expectedSessionId ∨
                successor.subjectReference ≠ expectedSuccessorKeyReference then
              .rejectSuccessorKeyControl
            else .verified

/-- `classify_lineage_replace_session_binding`. -/
def classifyLineageReplaceSessionBinding (context : Option AuthV3Context)
    (expectation : Option LineageReplaceSessionBindingExpectation) :
    LineageReplaceSessionBindingDecision :=
  match context, expectation with
  | some context, some expectation =>
      if ¬ expectation.authCompletionVerified then .rejectCompletion
      else if context.protocolVersion ≠ expectation.expectedProtocolVersion then .rejectVersion
      else if context.suiteId ≠ expectation.expectedSuiteId then .rejectSuite
      else if context.profileId ≠ expectation.expectedProfileId then .rejectProfile
      else if context.sessionId ≠ expectation.expectedSessionId then .rejectSessionId
      else if context.authzContextHash ≠ expectation.expectedAuthzContextHash then
        .rejectAuthzContext
      else if context.channelBindingHash ≠ expectation.expectedChannelBindingHash then
        .rejectChannelBinding
      else .bound
  | _, _ => .rejectCompletion

/-- `context_shape_valid`. -/
def contextShapeValid (context : IotCoreAuthorizationContextV1) : Bool :=
  (context.holderBinding.val.any fun byte => byte != 0) &&
    (context.audienceId.val.any fun byte => byte != 0) &&
    context.rolePolicyId != 0 &&
    context.scopeBits == iotCoreScopeSecureAssociation &&
    context.authorizationGeneration != 0 &&
    context.policyEpoch != 0 &&
    context.revocationEpoch != 0

/-- `lineage_replace_authorization_from_iot_core`. -/
def lineageReplaceAuthorizationFromIotCore (context : Option IotCoreAuthorizationContextV1)
    (attribution : Option IotCoreAttributionRecordV1)
    (evidence : Option LineageReplaceAuthContextEvidence) :
    LineageReplaceAuthorizationDecision :=
  match evidence with
  | none => .rejectCurrentCredentialControl
  | some evidence =>
      let facts : LineageReplaceAuthorizationFacts :=
        ⟨evidence.currentCredentialControlValid, evidence.successorKeyControlValid,
          evidence.currentSessionAuthenticated, false, false, false, false⟩
      match context, attribution with
      | some context, some attribution =>
          if ¬ contextShapeValid context then classifyLineageReplaceAuthorization facts
          else
            let attributionContextMatch := attribution.holderBinding == context.holderBinding &&
              attribution.audienceId == context.audienceId &&
              attribution.rolePolicyId == context.rolePolicyId &&
              attribution.scopeBits == context.scopeBits &&
              attribution.authorizationGeneration == context.authorizationGeneration &&
              attribution.policyEpoch == context.policyEpoch &&
              attribution.revocationEpoch == context.revocationEpoch
            let peerMatch := attribution.peerIdentity == evidence.expectedPeerIdentity
            let predecessorMatch :=
              attribution.credentialReference == evidence.predecessorCredentialReference
            classifyLineageReplaceAuthorization { facts with
              currentSessionAuthorized := attributionContextMatch
              currentContextBound := attributionContextMatch && peerMatch
              predecessorBindingCurrent := predecessorMatch &&
                attribution.authorizationGeneration == context.authorizationGeneration
              successorScopeWithinAuthorizedScope := evidence.requestedSuccessorScopeBits != 0 &&
                evidence.requestedSuccessorScopeBits &&& ~~~context.scopeBits == 0 }
      | _, _ => classifyLineageReplaceAuthorization facts

/-- `lineage_replace_authorization_from_bound_iot_core`. -/
def lineageReplaceAuthorizationFromBoundIotCore (authContext : Option AuthV3Context)
    (sessionExpectation : Option LineageReplaceSessionBindingExpectation)
    (authorizationContext : Option IotCoreAuthorizationContextV1)
    (attribution : Option IotCoreAttributionRecordV1)
    (evidence : Option LineageReplaceBoundAuthContextEvidence) :
    LineageReplaceAuthorizationDecision :=
  match evidence with
  | none => .rejectCurrentCredentialControl
  | some evidence =>
      let sessionBound :=
        classifyLineageReplaceSessionBinding authContext sessionExpectation == .bound
      lineageReplaceAuthorizationFromIotCore authorizationContext attribution
        (some ⟨evidence.currentCredentialControlValid, evidence.successorKeyControlValid,
          sessionBound, evidence.expectedPeerIdentity, evidence.predecessorCredentialReference,
          evidence.requestedSuccessorScopeBits⟩)

/-- `lineage_replace_authorization_from_verified_bound_iot_core`. -/
def lineageReplaceAuthorizationFromVerifiedBoundIotCore (authContext : Option AuthV3Context)
    (sessionExpectation : Option LineageReplaceSessionBindingExpectation)
    (authorizationContext : Option IotCoreAuthorizationContextV1)
    (attribution : Option IotCoreAttributionRecordV1)
    (evidence : Option LineageReplaceVerifiedBoundAuthContextEvidence) :
    LineageReplaceAuthorizationDecision :=
  match evidence with
  | none => .rejectCurrentCredentialControl
  | some evidence =>
      match sessionExpectation with
      | none => .rejectSessionAuthentication
      | some sessionExpectation =>
          match classifyLineageReplacePossession (some evidence.currentCredentialProof)
              (some evidence.successorKeyProof) sessionExpectation.expectedSessionId
              evidence.predecessorCredentialReference evidence.successorKeyReference with
          | .rejectCurrentCredentialControl => .rejectCurrentCredentialControl
          | .rejectSuccessorKeyControl => .rejectSuccessorKeyControl
          | .verified =>
              lineageReplaceAuthorizationFromBoundIotCore authContext (some sessionExpectation)
                authorizationContext attribution
                (some ⟨true, true, evidence.expectedPeerIdentity,
                  evidence.predecessorCredentialReference, evidence.requestedSuccessorScopeBits⟩)

end Rust

/-! ## C -/

namespace C

/-- `lineage_replace_classify_authorization`. -/
def lineageReplaceClassifyAuthorization :
    Option LineageReplaceAuthorizationFacts → LineageReplaceAuthorizationDecision
  | none => .rejectCurrentCredentialControl
  | some facts =>
      if ¬ facts.currentCredentialControlValid then .rejectCurrentCredentialControl
      else if ¬ facts.successorKeyControlValid then .rejectSuccessorKeyControl
      else if ¬ facts.currentSessionAuthenticated then .rejectSessionAuthentication
      else if ¬ facts.currentSessionAuthorized then .rejectSessionAuthorization
      else if ¬ facts.currentContextBound then .rejectContextBinding
      else if ¬ facts.predecessorBindingCurrent then .rejectPredecessorBinding
      else if ¬ facts.successorScopeWithinAuthorizedScope then .rejectPrivilegeExpansion
      else .authorizedReplacement

/-- A proof is missing, or not valid for the session and the subject. -/
def possessionFails (proof : Option VerifiedLifecyclePossessionProof) (sessionId : SessionId)
    (reference : Bytes 32) : Bool :=
  match proof with
  | none => true
  | some proof =>
      !proof.verificationValid || proof.sessionId != sessionId ||
        proof.subjectReference != reference

/-- `lineage_replace_classify_possession`.  The expected values are arrays of their callers, so
they are there. -/
def lineageReplaceClassifyPossession
    (currentCredentialProof successorKeyProof : Option VerifiedLifecyclePossessionProof)
    (expectedSessionId : SessionId)
    (expectedPredecessorCredentialReference expectedSuccessorKeyReference : Bytes 32) :
    LineageReplacePossessionDecision :=
  if possessionFails currentCredentialProof expectedSessionId
      expectedPredecessorCredentialReference then
    .rejectCurrentCredentialControl
  else if possessionFails successorKeyProof expectedSessionId expectedSuccessorKeyReference then
    .rejectSuccessorKeyControl
  else .verified

/-- `lineage_replace_classify_session_binding`. -/
def lineageReplaceClassifySessionBinding (context : Option AuthV3Context)
    (expectation : Option LineageReplaceSessionBindingExpectation) :
    LineageReplaceSessionBindingDecision :=
  match context, expectation with
  | some context, some expectation =>
      if ¬ expectation.authCompletionVerified then .rejectCompletion
      else if context.protocolVersion ≠ expectation.expectedProtocolVersion then .rejectVersion
      else if context.suiteId ≠ expectation.expectedSuiteId then .rejectSuite
      else if context.profileId ≠ expectation.expectedProfileId then .rejectProfile
      else if context.sessionId ≠ expectation.expectedSessionId then .rejectSessionId
      else if context.authzContextHash ≠ expectation.expectedAuthzContextHash then
        .rejectAuthzContext
      else if context.channelBindingHash ≠ expectation.expectedChannelBindingHash then
        .rejectChannelBinding
      else .bound
  | _, _ => .rejectCompletion

/-- `bytes_nonzero`. -/
def bytesNonzero (value : List UInt8) : Bool := value.foldl (fun acc byte => acc ||| byte) 0 != 0

/-- `context_shape_valid`. -/
def contextShapeValid : Option IotCoreAuthorizationContextV1 → Bool
  | none => false
  | some context =>
      bytesNonzero context.holderBinding.val &&
        bytesNonzero context.audienceId.val &&
        context.rolePolicyId != 0 &&
        context.scopeBits == iotCoreScopeSecureAssociation &&
        context.authorizationGeneration != 0 &&
        context.policyEpoch != 0 &&
        context.revocationEpoch != 0

/-- `lineage_replace_authorization_from_iot_core`. -/
def lineageReplaceAuthorizationFromIotCore (context : Option IotCoreAuthorizationContextV1)
    (attribution : Option IotCoreAttributionRecordV1)
    (evidence : Option LineageReplaceAuthContextEvidence) :
    LineageReplaceAuthorizationDecision :=
  match evidence with
  | none => .rejectCurrentCredentialControl
  | some evidence =>
      let facts : LineageReplaceAuthorizationFacts :=
        ⟨evidence.currentCredentialControlValid, evidence.successorKeyControlValid,
          evidence.currentSessionAuthenticated, false, false, false, false⟩
      if ¬ contextShapeValid context ∨ attribution = none then
        lineageReplaceClassifyAuthorization (some facts)
      else
        match context, attribution with
        | some context, some attribution =>
            let attributionContextMatch := attribution.holderBinding == context.holderBinding &&
              attribution.audienceId == context.audienceId &&
              attribution.rolePolicyId == context.rolePolicyId &&
              attribution.scopeBits == context.scopeBits &&
              attribution.authorizationGeneration == context.authorizationGeneration &&
              attribution.policyEpoch == context.policyEpoch &&
              attribution.revocationEpoch == context.revocationEpoch
            let peerMatch := attribution.peerIdentity == evidence.expectedPeerIdentity
            let predecessorMatch :=
              attribution.credentialReference == evidence.predecessorCredentialReference
            lineageReplaceClassifyAuthorization (some { facts with
              currentSessionAuthorized := attributionContextMatch
              currentContextBound := attributionContextMatch && peerMatch
              predecessorBindingCurrent := predecessorMatch &&
                attribution.authorizationGeneration == context.authorizationGeneration
              successorScopeWithinAuthorizedScope := evidence.requestedSuccessorScopeBits != 0 &&
                evidence.requestedSuccessorScopeBits &&& ~~~context.scopeBits == 0 })
        -- not reached: both are there
        | _, _ => lineageReplaceClassifyAuthorization (some facts)

/-- `lineage_replace_authorization_from_bound_iot_core`. -/
def lineageReplaceAuthorizationFromBoundIotCore (authContext : Option AuthV3Context)
    (sessionExpectation : Option LineageReplaceSessionBindingExpectation)
    (authorizationContext : Option IotCoreAuthorizationContextV1)
    (attribution : Option IotCoreAttributionRecordV1)
    (evidence : Option LineageReplaceBoundAuthContextEvidence) :
    LineageReplaceAuthorizationDecision :=
  match evidence with
  | none => .rejectCurrentCredentialControl
  | some evidence =>
      lineageReplaceAuthorizationFromIotCore authorizationContext attribution
        (some ⟨evidence.currentCredentialControlValid, evidence.successorKeyControlValid,
          lineageReplaceClassifySessionBinding authContext sessionExpectation == .bound,
          evidence.expectedPeerIdentity, evidence.predecessorCredentialReference,
          evidence.requestedSuccessorScopeBits⟩)

/-- `lineage_replace_authorization_from_verified_bound_iot_core`. -/
def lineageReplaceAuthorizationFromVerifiedBoundIotCore (authContext : Option AuthV3Context)
    (sessionExpectation : Option LineageReplaceSessionBindingExpectation)
    (authorizationContext : Option IotCoreAuthorizationContextV1)
    (attribution : Option IotCoreAttributionRecordV1)
    (evidence : Option LineageReplaceVerifiedBoundAuthContextEvidence) :
    LineageReplaceAuthorizationDecision :=
  match evidence, sessionExpectation with
  | none, _ => .rejectCurrentCredentialControl
  | some _, none => .rejectSessionAuthentication
  | some evidence, some expectation =>
      let possession := lineageReplaceClassifyPossession (some evidence.currentCredentialProof)
        (some evidence.successorKeyProof) expectation.expectedSessionId
        evidence.predecessorCredentialReference evidence.successorKeyReference
      if possession = .rejectCurrentCredentialControl then .rejectCurrentCredentialControl
      else if possession = .rejectSuccessorKeyControl then .rejectSuccessorKeyControl
      else
        lineageReplaceAuthorizationFromBoundIotCore authContext (some expectation)
          authorizationContext attribution
          (some ⟨true, true, evidence.expectedPeerIdentity,
            evidence.predecessorCredentialReference, evidence.requestedSuccessorScopeBits⟩)

end C

/-! ## The C functions return the same -/

theorem classifyAuthorization_same (facts : LineageReplaceAuthorizationFacts) :
    C.lineageReplaceClassifyAuthorization (some facts) =
      Rust.classifyLineageReplaceAuthorization facts := rfl

theorem classifyPossession_same (current successor : Option VerifiedLifecyclePossessionProof)
    (sessionId : SessionId) (predecessorReference successorReference : Bytes 32) :
    C.lineageReplaceClassifyPossession current successor sessionId predecessorReference
        successorReference =
      Rust.classifyLineageReplacePossession current successor sessionId predecessorReference
        successorReference := by
  cases current <;> cases successor <;>
    simp [C.lineageReplaceClassifyPossession, C.possessionFails,
      Rust.classifyLineageReplacePossession, or_assoc]

theorem contextShapeValid_same (context : IotCoreAuthorizationContextV1) :
    C.contextShapeValid (some context) = Rust.contextShapeValid context := by
  have hbytes : ∀ l : List UInt8, C.bytesNonzero l = l.any fun byte => byte != 0 := by
    intro l
    rw [Bool.eq_iff_iff, C.bytesNonzero, bne_iff_ne]
    refine (C.allZero_iff l).not.trans ?_
    simp [Rust.isAllZero]
  rw [C.contextShapeValid, Rust.contextShapeValid, hbytes, hbytes]

theorem authorizationFromIotCore_same (context : Option IotCoreAuthorizationContextV1)
    (attribution : Option IotCoreAttributionRecordV1)
    (evidence : Option LineageReplaceAuthContextEvidence) :
    C.lineageReplaceAuthorizationFromIotCore context attribution evidence =
      Rust.lineageReplaceAuthorizationFromIotCore context attribution evidence := by
  cases evidence with
  | none => rfl
  | some evidence =>
      cases context with
      | none => rfl
      | some context =>
          cases attribution with
          | none => simp [C.lineageReplaceAuthorizationFromIotCore,
              Rust.lineageReplaceAuthorizationFromIotCore, classifyAuthorization_same]
          | some attribution =>
              simp only [C.lineageReplaceAuthorizationFromIotCore,
                Rust.lineageReplaceAuthorizationFromIotCore, classifyAuthorization_same,
                contextShapeValid_same, reduceCtorEq, or_false]

/-- Both languages authorize alike, with the same reason for a rejection. -/
theorem authorization_same (authContext : Option AuthV3Context)
    (sessionExpectation : Option LineageReplaceSessionBindingExpectation)
    (authorizationContext : Option IotCoreAuthorizationContextV1)
    (attribution : Option IotCoreAttributionRecordV1)
    (evidence : Option LineageReplaceVerifiedBoundAuthContextEvidence) :
    C.lineageReplaceAuthorizationFromVerifiedBoundIotCore authContext sessionExpectation
        authorizationContext attribution evidence =
      Rust.lineageReplaceAuthorizationFromVerifiedBoundIotCore authContext sessionExpectation
        authorizationContext attribution evidence := by
  cases evidence with
  | none => rfl
  | some evidence =>
      cases sessionExpectation with
      | none => rfl
      | some expectation =>
          simp only [C.lineageReplaceAuthorizationFromVerifiedBoundIotCore,
            Rust.lineageReplaceAuthorizationFromVerifiedBoundIotCore, classifyPossession_same,
            C.lineageReplaceAuthorizationFromBoundIotCore,
            Rust.lineageReplaceAuthorizationFromBoundIotCore, authorizationFromIotCore_same]
          cases Rust.classifyLineageReplacePossession (some evidence.currentCredentialProof)
            (some evidence.successorKeyProof) expectation.expectedSessionId
            evidence.predecessorCredentialReference evidence.successorKeyReference <;> rfl

/-! ## What authorizes a replacement -/

/-- The proof is valid for the session and the subject. -/
structure VerifiedLifecyclePossessionProof.ValidFor (proof : VerifiedLifecyclePossessionProof)
    (sessionId : SessionId) (reference : Bytes 32) : Prop where
  verified : proof.verificationValid = true
  session : proof.sessionId = sessionId
  subject : proof.subjectReference = reference

/-- The session is the one that is expected. -/
structure SessionMatches (context : AuthV3Context)
    (expectation : LineageReplaceSessionBindingExpectation) : Prop where
  completion : expectation.authCompletionVerified = true
  version : context.protocolVersion = expectation.expectedProtocolVersion
  suite : context.suiteId = expectation.expectedSuiteId
  profile : context.profileId = expectation.expectedProfileId
  sessionId : context.sessionId = expectation.expectedSessionId
  authzHash : context.authzContextHash = expectation.expectedAuthzContextHash
  channelBinding : context.channelBindingHash = expectation.expectedChannelBindingHash

/-- What authorizes a replacement. -/
structure AuthorizationHolds (authContext : AuthV3Context)
    (expectation : LineageReplaceSessionBindingExpectation)
    (context : IotCoreAuthorizationContextV1) (record : IotCoreAttributionRecordV1)
    (evidence : LineageReplaceVerifiedBoundAuthContextEvidence) : Prop where
  current : evidence.currentCredentialProof.ValidFor expectation.expectedSessionId
    evidence.predecessorCredentialReference
  successor : evidence.successorKeyProof.ValidFor expectation.expectedSessionId
    evidence.successorKeyReference
  session : SessionMatches authContext expectation
  shape : context.Valid
  attributed : record.Attributes context
  peer : record.peerIdentity = evidence.expectedPeerIdentity
  predecessor : record.credentialReference = evidence.predecessorCredentialReference
  scopeNonzero : evidence.requestedSuccessorScopeBits ≠ 0
  scopeWithin : evidence.requestedSuccessorScopeBits &&& ~~~context.scopeBits = 0

/-- A guard that rejects in front of the rest. -/
theorem ite_reject_iff {α : Type} {c : Prop} [Decidable c] {bad rest good : α} (h : bad ≠ good) :
    (if c then bad else rest) = good ↔ ¬ c ∧ rest = good := by
  by_cases hc : c
  · rw [if_pos hc]
    exact ⟨fun hbad => absurd hbad h, fun hno => absurd hc hno.1⟩
  · rw [if_neg hc]
    exact ⟨fun hrest => ⟨hc, hrest⟩, fun hrest => hrest.2⟩

namespace Rust

theorem classifyPossession_eq_verified_iff {current successor : VerifiedLifecyclePossessionProof}
    {sessionId : SessionId} {predecessorReference successorReference : Bytes 32} :
    classifyLineageReplacePossession (some current) (some successor) sessionId predecessorReference
        successorReference = .verified ↔
      current.ValidFor sessionId predecessorReference ∧
        successor.ValidFor sessionId successorReference := by
  simp (disch := decide) only [classifyLineageReplacePossession, ite_reject_iff, not_or, not_not,
    ne_eq, and_true]
  constructor
  · rintro ⟨⟨h1, h2, h3⟩, ⟨h4, h5, h6⟩⟩
    exact ⟨⟨h1, h2, h3⟩, ⟨h4, h5, h6⟩⟩
  · rintro ⟨⟨h1, h2, h3⟩, ⟨h4, h5, h6⟩⟩
    exact ⟨⟨h1, h2, h3⟩, ⟨h4, h5, h6⟩⟩

theorem classifySessionBinding_eq_bound_iff {context : AuthV3Context}
    {expectation : LineageReplaceSessionBindingExpectation} :
    classifyLineageReplaceSessionBinding (some context) (some expectation) = .bound ↔
      SessionMatches context expectation := by
  simp (disch := decide) only [classifyLineageReplaceSessionBinding, ite_reject_iff, not_not,
    ne_eq, and_true]
  constructor
  · rintro ⟨h1, h2, h3, h4, h5, h6, h7⟩
    exact ⟨h1, h2, h3, h4, h5, h6, h7⟩
  · rintro ⟨h1, h2, h3, h4, h5, h6, h7⟩
    exact ⟨h1, h2, h3, h4, h5, h6, h7⟩

theorem contextShapeValid_iff {context : IotCoreAuthorizationContextV1} :
    contextShapeValid context = true ↔ context.Valid := by
  have hnonzero : ∀ b : Bytes 32, (b.val.any fun byte => byte != 0) = true ↔ b ≠ Bytes.zero 32 := by
    intro b
    rw [ne_eq, ← isAllZero_iff]
    simp [isAllZero]
  simp only [contextShapeValid, Bool.and_eq_true, hnonzero, bne_iff_ne, beq_iff_eq]
  constructor
  · rintro ⟨⟨⟨⟨⟨⟨h1, h2⟩, h3⟩, h4⟩, h5⟩, h6⟩, h7⟩
    exact ⟨h1, h2, h3, h4, h5, h6, h7⟩
  · rintro ⟨h1, h2, h3, h4, h5, h6, h7⟩
    exact ⟨⟨⟨⟨⟨⟨h1, h2⟩, h3⟩, h4⟩, h5⟩, h6⟩, h7⟩

theorem classifyAuthorization_eq_authorized_iff {facts : LineageReplaceAuthorizationFacts} :
    classifyLineageReplaceAuthorization facts = .authorizedReplacement ↔
      facts.currentCredentialControlValid ∧ facts.successorKeyControlValid ∧
        facts.currentSessionAuthenticated ∧ facts.currentSessionAuthorized ∧
        facts.currentContextBound ∧ facts.predecessorBindingCurrent ∧
        facts.successorScopeWithinAuthorizedScope := by
  simp (disch := decide) only [classifyLineageReplaceAuthorization, ite_reject_iff, not_not,
    and_true]

/-- What the comparison with the attribution record asks for. -/
theorem authorizationFromIotCore_iff {context : Option IotCoreAuthorizationContextV1}
    {attribution : Option IotCoreAttributionRecordV1}
    {evidence : LineageReplaceAuthContextEvidence} :
    lineageReplaceAuthorizationFromIotCore context attribution (some evidence) =
        .authorizedReplacement ↔
      (evidence.currentCredentialControlValid ∧ evidence.successorKeyControlValid ∧
        evidence.currentSessionAuthenticated) ∧
      ∃ c r, context = some c ∧ attribution = some r ∧ c.Valid ∧ r.Attributes c ∧
        r.peerIdentity = evidence.expectedPeerIdentity ∧
        r.credentialReference = evidence.predecessorCredentialReference ∧
        evidence.requestedSuccessorScopeBits ≠ 0 ∧
        evidence.requestedSuccessorScopeBits &&& ~~~c.scopeBits = 0 := by
  cases context with
  | none => simp [lineageReplaceAuthorizationFromIotCore, classifyAuthorization_eq_authorized_iff]
  | some c =>
      cases attribution with
      | none =>
          simp [lineageReplaceAuthorizationFromIotCore, classifyAuthorization_eq_authorized_iff]
      | some r =>
          simp only [lineageReplaceAuthorizationFromIotCore]
          by_cases hshape : contextShapeValid c = true
          · rw [if_neg (not_not.mpr hshape), classifyAuthorization_eq_authorized_iff]
            simp only [Bool.and_eq_true, beq_iff_eq, bne_iff_ne, ← attributes_iff]
            constructor
            · rintro ⟨h1, h2, h3, hmatch, ⟨-, hpeer⟩, ⟨hpred, -⟩, hscope, hwithin⟩
              exact ⟨⟨h1, h2, h3⟩, c, r, rfl, rfl, contextShapeValid_iff.mp hshape, hmatch, hpeer,
                hpred, hscope, hwithin⟩
            · rintro ⟨⟨h1, h2, h3⟩, _, _, hc, hr, -, hmatch, hpeer, hpred, hscope, hwithin⟩
              cases hc
              cases hr
              exact ⟨h1, h2, h3, hmatch, ⟨hmatch, hpeer⟩, ⟨hpred, hmatch.generation⟩, hscope,
                hwithin⟩
          · rw [if_pos hshape, classifyAuthorization_eq_authorized_iff]
            constructor
            · rintro ⟨-, -, -, h, -⟩
              cases h
            · rintro ⟨-, _, _, hc, -, hvalid, -⟩
              cases hc
              exact absurd (contextShapeValid_iff.mpr hvalid) hshape

/-- A replacement is authorized when all is there and everything holds. -/
theorem authorized_iff {authContext : Option AuthV3Context}
    {sessionExpectation : Option LineageReplaceSessionBindingExpectation}
    {authorizationContext : Option IotCoreAuthorizationContextV1}
    {attribution : Option IotCoreAttributionRecordV1}
    {evidence : Option LineageReplaceVerifiedBoundAuthContextEvidence} :
    lineageReplaceAuthorizationFromVerifiedBoundIotCore authContext sessionExpectation
        authorizationContext attribution evidence = .authorizedReplacement ↔
      ∃ a x c r e, authContext = some a ∧ sessionExpectation = some x ∧
        authorizationContext = some c ∧ attribution = some r ∧ evidence = some e ∧
        AuthorizationHolds a x c r e := by
  cases evidence with
  | none => simp [lineageReplaceAuthorizationFromVerifiedBoundIotCore]
  | some e =>
      cases sessionExpectation with
      | none => simp [lineageReplaceAuthorizationFromVerifiedBoundIotCore]
      | some x =>
          simp only [lineageReplaceAuthorizationFromVerifiedBoundIotCore]
          constructor
          · intro h
            split at h
            next => cases h
            next => cases h
            next hverified =>
              obtain ⟨hcurrent, hsuccessor⟩ := classifyPossession_eq_verified_iff.mp hverified
              obtain ⟨⟨-, -, hbound⟩, c, r, rfl, rfl, hvalid, hattributed, hpeer, hpred, hscope,
                hwithin⟩ := authorizationFromIotCore_iff.mp h
              cases authContext with
              | none => cases hbound
              | some a =>
                  exact ⟨a, x, c, r, e, rfl, rfl, rfl, rfl, rfl, hcurrent, hsuccessor,
                    classifySessionBinding_eq_bound_iff.mp (beq_iff_eq.mp hbound), hvalid,
                    hattributed, hpeer, hpred, hscope, hwithin⟩
          · rintro ⟨a, _, c, r, _, rfl, hx, rfl, rfl, he, h⟩
            cases hx
            cases he
            rw [classifyPossession_eq_verified_iff.mpr ⟨h.current, h.successor⟩]
            refine authorizationFromIotCore_iff.mpr ⟨⟨rfl, rfl, ?_⟩, c, r, rfl, rfl, h.shape,
              h.attributed, h.peer, h.predecessor, h.scopeNonzero, h.scopeWithin⟩
            exact beq_iff_eq.mpr (classifySessionBinding_eq_bound_iff.mpr h.session)

end Rust

/-! ## The hash of the authorization context -/

/-- In both languages an authorized replacement has a session with the hash that the caller expects,
and a context of valid shape that the record attributes.  So the hash in the session is the hash of
the context exactly when the caller expects that one. -/
theorem authorization_binds_expected_hash (sha256 : List UInt8 → Bytes 32)
    {authContext : Option AuthV3Context}
    {sessionExpectation : Option LineageReplaceSessionBindingExpectation}
    {authorizationContext : Option IotCoreAuthorizationContextV1}
    {attribution : Option IotCoreAttributionRecordV1}
    {evidence : Option LineageReplaceVerifiedBoundAuthContextEvidence}
    (h : Rust.lineageReplaceAuthorizationFromVerifiedBoundIotCore authContext sessionExpectation
          authorizationContext attribution evidence = .authorizedReplacement ∨
        C.lineageReplaceAuthorizationFromVerifiedBoundIotCore authContext sessionExpectation
          authorizationContext attribution evidence = .authorizedReplacement) :
    ∃ a x c r e, authContext = some a ∧ sessionExpectation = some x ∧
      authorizationContext = some c ∧ attribution = some r ∧ evidence = some e ∧
      a.authzContextHash = x.expectedAuthzContextHash ∧ c.Valid ∧ r.Attributes c ∧
      (Rust.hashIotCoreAuthorizationContext sha256 c = .ok a.authzContextHash ↔
        Rust.hashIotCoreAuthorizationContext sha256 c = .ok x.expectedAuthzContextHash) := by
  rw [authorization_same, or_self] at h
  obtain ⟨a, x, c, r, e, ha, hx, hc, hr, he, hholds⟩ := Rust.authorized_iff.mp h
  refine ⟨a, x, c, r, e, ha, hx, hc, hr, he, hholds.session.authzHash, hholds.shape,
    hholds.attributed, ?_⟩
  rw [hholds.session.authzHash]

/-- A string of equal bytes. -/
def demoBytes (n : ℕ) (b : UInt8) : Bytes n := ⟨List.replicate n b, List.length_replicate⟩

/-- A session with the hash given. -/
def demoAuthContext (authzHash : Bytes 32) : AuthV3Context :=
  ⟨3, 1, 1, 0, demoBytes 16 1, authzHash, demoBytes 32 0, demoBytes 32 2⟩

/-- The expectation of that session. -/
def demoExpectation (authzHash : Bytes 32) : LineageReplaceSessionBindingExpectation :=
  ⟨true, 3, 1, 1, demoBytes 16 1, authzHash, demoBytes 32 2⟩

/-- A valid context. -/
def demoAuthorizationContext : IotCoreAuthorizationContextV1 :=
  ⟨demoBytes 32 3, demoBytes 32 4, 5, 1, 6, 7, 8⟩

/-- The record of the context. -/
def demoAttribution : IotCoreAttributionRecordV1 :=
  ⟨demoBytes 32 9, demoBytes 32 10, demoBytes 32 3, demoBytes 32 4, 5, 1, 6, 7, 8⟩

/-- Evidence for a replacement by a successor of the same scope. -/
def demoEvidence : LineageReplaceVerifiedBoundAuthContextEvidence :=
  ⟨⟨true, demoBytes 16 1, demoBytes 32 9⟩, ⟨true, demoBytes 16 1, demoBytes 32 11⟩,
    demoBytes 32 11, demoBytes 32 10, demoBytes 32 9, 1⟩

theorem demo_authorizationHolds (authzHash : Bytes 32) :
    AuthorizationHolds (demoAuthContext authzHash) (demoExpectation authzHash)
      demoAuthorizationContext demoAttribution demoEvidence where
  current := ⟨rfl, rfl, rfl⟩
  successor := ⟨rfl, rfl, rfl⟩
  session := ⟨rfl, rfl, rfl, rfl, rfl, rfl, rfl⟩
  shape := Rust.contextShapeValid_iff.mp (by decide)
  attributed := ⟨rfl, rfl, rfl, rfl, rfl, rfl, rfl⟩
  peer := rfl
  predecessor := rfl
  scopeNonzero := by decide
  scopeWithin := by decide

theorem demo_authorized (authzHash : Bytes 32) :
    Rust.lineageReplaceAuthorizationFromVerifiedBoundIotCore (some (demoAuthContext authzHash))
      (some (demoExpectation authzHash)) (some demoAuthorizationContext) (some demoAttribution)
      (some demoEvidence) = .authorizedReplacement :=
  Rust.authorized_iff.mpr ⟨_, _, _, _, _, rfl, rfl, rfl, rfl, rfl, demo_authorizationHolds authzHash⟩

theorem authorization_binds_expected_hash_demo :
    ∃ a x c r e, some (demoAuthContext (demoBytes 32 12)) = some a ∧
      some (demoExpectation (demoBytes 32 12)) = some x ∧
      some demoAuthorizationContext = some c ∧ some demoAttribution = some r ∧
      some demoEvidence = some e ∧
      a.authzContextHash = x.expectedAuthzContextHash ∧ c.Valid ∧ r.Attributes c ∧
      (Rust.hashIotCoreAuthorizationContext (fun _ => demoBytes 32 12) c =
          .ok a.authzContextHash ↔
        Rust.hashIotCoreAuthorizationContext (fun _ => demoBytes 32 12) c =
          .ok x.expectedAuthzContextHash) :=
  authorization_binds_expected_hash (fun _ => demoBytes 32 12) (.inl (demo_authorized _))

/-- No hash function makes the hash in the session that of the context, in neither language: the
caller may expect any other hash. -/
theorem authorized_with_other_hash :
    ¬ ∃ sha256 : List UInt8 → Bytes 32,
      (∀ a x c r e, Rust.lineageReplaceAuthorizationFromVerifiedBoundIotCore a x (some c) r e =
          .authorizedReplacement →
        ∃ session, a = some session ∧
          Rust.hashIotCoreAuthorizationContext sha256 c = .ok session.authzContextHash) ∨
      ∀ a x c r e, C.lineageReplaceAuthorizationFromVerifiedBoundIotCore a x (some c) r e =
          .authorizedReplacement →
        ∃ session, a = some session ∧
          Rust.hashIotCoreAuthorizationContext sha256 c = .ok session.authzContextHash := by
  rintro ⟨sha256, h⟩
  simp only [authorization_same, or_self] at h
  obtain ⟨_, ha, hzero⟩ := h _ _ _ _ _ (demo_authorized (demoBytes 32 0))
  obtain ⟨_, hb, hone⟩ := h _ _ _ _ _ (demo_authorized (demoBytes 32 1))
  cases ha
  cases hb
  rw [hzero] at hone
  have hne : demoBytes 32 0 ≠ demoBytes 32 1 := by decide
  exact hne (Except.ok.inj hone)

end ZkArche
