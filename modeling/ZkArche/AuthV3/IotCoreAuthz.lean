import ZkArche.AuthV3.Context
import ZkArche.Wire.Hello

/-!
# The authorization context of `iot-core`

The profile fixes the shape of an authorization context.  It has seven entries with the ids one to
seven.  The first two hold 32 bytes each and the others a 64-bit number, so every encoding has 148
bytes.  A context is valid when the holder, the audience and the five numbers but one are not
zero, and the scope is the one that is defined.

Encoding validates and hands the seven entries to the generic encoder.  Decoding checks the length,
runs the generic parser with a limit of seven entries, checks the shape, reads the fields and
validates.  The Rust hash is over the encoding, and the C hash is over its pieces.
-/

namespace ZkArche

/-- `iot_core_authorization_context_v1`. -/
@[ext] structure IotCoreAuthorizationContextV1 where
  holderBinding : Bytes 32
  audienceId : Bytes 32
  rolePolicyId : UInt64
  scopeBits : UInt64
  authorizationGeneration : UInt64
  policyEpoch : UInt64
  revocationEpoch : UInt64
deriving DecidableEq

/-- `IotCoreAttributionRecordV1`. -/
structure IotCoreAttributionRecordV1 where
  credentialReference : Bytes 32
  peerIdentity : Bytes 32
  holderBinding : Bytes 32
  audienceId : Bytes 32
  rolePolicyId : UInt64
  scopeBits : UInt64
  authorizationGeneration : UInt64
  policyEpoch : UInt64
  revocationEpoch : UInt64
deriving DecidableEq

/-- `IOT_CORE_AUTHZ_HOLDER_BINDING_ID`. -/
def iotCoreAuthzHolderBindingId : UInt16 := 0x0001
/-- `IOT_CORE_AUTHZ_AUDIENCE_ID`. -/
def iotCoreAuthzAudienceId : UInt16 := 0x0002
/-- `IOT_CORE_AUTHZ_ROLE_POLICY_ID`. -/
def iotCoreAuthzRolePolicyId : UInt16 := 0x0003
/-- `IOT_CORE_AUTHZ_SCOPE_BITS_ID`. -/
def iotCoreAuthzScopeBitsId : UInt16 := 0x0004
/-- `IOT_CORE_AUTHZ_GENERATION_ID`. -/
def iotCoreAuthzGenerationId : UInt16 := 0x0005
/-- `IOT_CORE_AUTHZ_POLICY_EPOCH_ID`. -/
def iotCoreAuthzPolicyEpochId : UInt16 := 0x0006
/-- `IOT_CORE_AUTHZ_REVOCATION_EPOCH_ID`. -/
def iotCoreAuthzRevocationEpochId : UInt16 := 0x0007

/-- `IOT_CORE_SCOPE_SECURE_ASSOCIATION`. -/
def iotCoreScopeSecureAssociation : UInt64 := 1
/-- `IOT_CORE_AUTHZ_ENTRY_COUNT`. -/
def iotCoreAuthzEntryCount : ℕ := 7
/-- `IOT_CORE_AUTHZ_CANONICAL_LEN`. -/
def iotCoreAuthzCanonicalLen : ℕ := 148

/-- The expected ids and lengths, `expected` in Rust, `expected_ids` and `expected_lengths` in
C. -/
def iotCoreAuthzExpected : List (UInt16 × ℕ) :=
  [(iotCoreAuthzHolderBindingId, 32), (iotCoreAuthzAudienceId, 32), (iotCoreAuthzRolePolicyId, 8),
    (iotCoreAuthzScopeBitsId, 8), (iotCoreAuthzGenerationId, 8), (iotCoreAuthzPolicyEpochId, 8),
    (iotCoreAuthzRevocationEpochId, 8)]

/-- The check of the loops over the expected ids and lengths. -/
def MatchesExpected (entries : List ContextEntry) : Prop :=
  ∀ x ∈ entries.zip iotCoreAuthzExpected, ¬ (x.1.id ≠ x.2.1 ∨ x.1.value.length ≠ x.2.2)

instance (entries : List ContextEntry) : Decidable (MatchesExpected entries) :=
  inferInstanceAs (Decidable (∀ x ∈ entries.zip iotCoreAuthzExpected, _))

/-! ## Rust -/

namespace Rust

/-- `IotCoreAuthorizationError`. -/
inductive IotCoreAuthorizationError where
  | invalidHolderBinding | invalidAudience | invalidRolePolicy | invalidScope
  | invalidAuthorizationGeneration | invalidPolicyEpoch | invalidRevocationEpoch
  | invalidEncodingLength | invalidContextKind | invalidEntrySchema
  | encoding (e : ContextEncodingError)
  | parsing (e : ContextParseError)
deriving DecidableEq

/-- `is_all_zero`. -/
def isAllZero (value : List UInt8) : Bool := value.all fun byte => byte == 0

/-- `validate_iot_core_authorization_context`. -/
def validateIotCoreAuthorizationContext (context : IotCoreAuthorizationContextV1) :
    Except IotCoreAuthorizationError Unit := do
  ensure (¬ isAllZero context.holderBinding.val) .invalidHolderBinding
  ensure (¬ isAllZero context.audienceId.val) .invalidAudience
  ensure (¬ context.rolePolicyId = 0) .invalidRolePolicy
  ensure (¬ context.scopeBits ≠ iotCoreScopeSecureAssociation) .invalidScope
  ensure (¬ context.authorizationGeneration = 0) .invalidAuthorizationGeneration
  ensure (¬ context.policyEpoch = 0) .invalidPolicyEpoch
  ensure (¬ context.revocationEpoch = 0) .invalidRevocationEpoch

/-- The entries of `with_entries`. -/
def iotCoreEntries (context : IotCoreAuthorizationContextV1) : List ContextEntry :=
  [⟨iotCoreAuthzHolderBindingId, context.holderBinding.val⟩,
    ⟨iotCoreAuthzAudienceId, context.audienceId.val⟩,
    ⟨iotCoreAuthzRolePolicyId, u64LE context.rolePolicyId⟩,
    ⟨iotCoreAuthzScopeBitsId, u64LE context.scopeBits⟩,
    ⟨iotCoreAuthzGenerationId, u64LE context.authorizationGeneration⟩,
    ⟨iotCoreAuthzPolicyEpochId, u64LE context.policyEpoch⟩,
    ⟨iotCoreAuthzRevocationEpochId, u64LE context.revocationEpoch⟩]

/-- `encode_iot_core_authorization_context`. -/
def encodeIotCoreAuthorizationContext (context : IotCoreAuthorizationContextV1) :
    Except IotCoreAuthorizationError (List UInt8) := do
  validateIotCoreAuthorizationContext context
  (encodeCanonicalContext .authorization (iotCoreEntries context)).mapError .encoding

/-- `hash_iot_core_authorization_context`. -/
def hashIotCoreAuthorizationContext (sha256 : List UInt8 → Bytes 32)
    (context : IotCoreAuthorizationContextV1) : Except IotCoreAuthorizationError (Bytes 32) := do
  validateIotCoreAuthorizationContext context
  (hashCanonicalContext sha256 .authorization (iotCoreEntries context)).mapError .encoding

/-- A decoder ends with a value, an error, or a panic. -/
abbrev Decode (α : Type) := Except (Halt IotCoreAuthorizationError) α

/-- `entries[i].value`. -/
def valueAt (entries : List ContextEntry) (i : ℕ) : Decode (List UInt8) :=
  match entries[i]? with
  | some entry => .ok entry.value
  | none => .error (.outside i)

/-- `value.try_into().map_err(|_| InvalidEntrySchema)?`. -/
def tryInto (n : ℕ) (value : List UInt8) : Decode (Bytes n) :=
  if h : value.length = n then .ok ⟨value, h⟩ else .error (.err .invalidEntrySchema)

/-- `load_u64_le`, which panics on any other length. -/
def loadU64Le (value : List UInt8) : Decode UInt64 :=
  if value.length = 8 then .ok (UInt64.ofNat (leNat value)) else .error (.outside value.length)

/-- The fields of the entries, as `decode_iot_core_authorization_context_bytes` reads them. -/
def readFields (entries : List ContextEntry) : Decode IotCoreAuthorizationContextV1 := do
  let holderBinding ← valueAt entries 0 >>= tryInto 32
  let audienceId ← valueAt entries 1 >>= tryInto 32
  let rolePolicyId ← valueAt entries 2 >>= loadU64Le
  let scopeBits ← valueAt entries 3 >>= loadU64Le
  let authorizationGeneration ← valueAt entries 4 >>= loadU64Le
  let policyEpoch ← valueAt entries 5 >>= loadU64Le
  let revocationEpoch ← valueAt entries 6 >>= loadU64Le
  return ⟨holderBinding, audienceId, rolePolicyId, scopeBits, authorizationGeneration, policyEpoch,
    revocationEpoch⟩

/-- The conversion of `?` on a parse. -/
def Halt.parsing : Halt ContextParseError → Halt IotCoreAuthorizationError
  | .err e => .err (.parsing e)
  | .outside i => .outside i

/-- `decode_iot_core_authorization_context_bytes`. -/
def decodeIotCoreAuthorizationContextBytes (input : List UInt8) :
    Decode IotCoreAuthorizationContextV1 := do
  ensure (¬ input.length ≠ iotCoreAuthzCanonicalLen) (.err .invalidEncodingLength)
  let parsed ← (parseCanonicalContextBounded input iotCoreAuthzEntryCount).mapError Halt.parsing
  ensure (¬ parsed.kind ≠ .authorization) (.err .invalidContextKind)
  ensure (¬ parsed.entries.length ≠ iotCoreAuthzEntryCount) (.err .invalidEntrySchema)
  ensure (MatchesExpected parsed.entries) (.err .invalidEntrySchema)
  let context ← readFields parsed.entries
  (validateIotCoreAuthorizationContext context).mapError .err
  return context

/-- `hash_iot_core_authorization_context_bytes`. -/
def hashIotCoreAuthorizationContextBytes (sha256 : List UInt8 → Bytes 32) (input : List UInt8) :
    Decode (Bytes 32) := do
  let _ ← decodeIotCoreAuthorizationContextBytes input
  return sha256 input

end Rust

/-! ## C -/

namespace C

/-- The failing values of `auth_v3_iot_core_authz_result_t`, and those of the generic encoder that
the encoder passes on. -/
inductive IotCoreAuthzResult where
  | invalidArgument | invalidHolder | invalidAudience | invalidRolePolicy | invalidScope
  | invalidGeneration | invalidPolicyEpoch | invalidRevocationEpoch | invalidEncodingLength
  | invalidContextKind | invalidEntrySchema | entryLimitExceeded | invalidEncoding
  | context (r : ContextResult)
deriving DecidableEq

/-- `all_zero`. -/
def allZero (value : List UInt8) : Prop := value.foldl (fun acc byte => acc ||| byte) 0 = 0

instance (value : List UInt8) : Decidable (allZero value) :=
  inferInstanceAs (Decidable (value.foldl (fun acc byte => acc ||| byte) 0 = 0))

/-- `auth_v3_iot_core_authz_validate`. -/
def authV3IotCoreAuthzValidate (context : IotCoreAuthorizationContextV1) :
    Except IotCoreAuthzResult Unit := do
  ensure (¬ allZero context.holderBinding.val) .invalidHolder
  ensure (¬ allZero context.audienceId.val) .invalidAudience
  ensure (¬ context.rolePolicyId = 0) .invalidRolePolicy
  ensure (¬ context.scopeBits ≠ iotCoreScopeSecureAssociation) .invalidScope
  ensure (¬ context.authorizationGeneration = 0) .invalidGeneration
  ensure (¬ context.policyEpoch = 0) .invalidPolicyEpoch
  ensure (¬ context.revocationEpoch = 0) .invalidRevocationEpoch

/-- An entry of 32 bytes. -/
def bytesEntry (id : UInt16) (value : Bytes 32) : ContextEntry where
  id := id
  value := value.val
  short := by simp

/-- An entry with a number. -/
def numberEntry (id : UInt16) (value : UInt64) : ContextEntry where
  id := id
  value := u64LE value
  short := by simp [u64LE]

/-- `build_entries`. -/
def buildEntries (context : IotCoreAuthorizationContextV1) :
    Except IotCoreAuthzResult (List ContextEntry) := do
  authV3IotCoreAuthzValidate context
  return [bytesEntry iotCoreAuthzHolderBindingId context.holderBinding,
    bytesEntry iotCoreAuthzAudienceId context.audienceId,
    numberEntry iotCoreAuthzRolePolicyId context.rolePolicyId,
    numberEntry iotCoreAuthzScopeBitsId context.scopeBits,
    numberEntry iotCoreAuthzGenerationId context.authorizationGeneration,
    numberEntry iotCoreAuthzPolicyEpochId context.policyEpoch,
    numberEntry iotCoreAuthzRevocationEpochId context.revocationEpoch]

/-- `auth_v3_iot_core_authz_encode`. -/
def authV3IotCoreAuthzEncode (context : IotCoreAuthorizationContextV1) (outCapacity : ℕ) :
    Except IotCoreAuthzResult (List UInt8) := do
  let entries ← buildEntries context
  let out ← (Output.result
    ((authV3ContextEncode .authorization entries outCapacity).exec ⟨[], 0⟩)).mapError .context
  ensure (¬ out.length ≠ iotCoreAuthzCanonicalLen) .invalidArgument
  return out

/-- `auth_v3_iot_core_authz_hash`. -/
def authV3IotCoreAuthzHash {sha256 : List UInt8 → Bytes 32} (H : StreamHash sha256)
    (context : IotCoreAuthorizationContextV1) : Except IotCoreAuthzResult (Bytes 32) := do
  let entries ← buildEntries context
  (authV3ContextHash H .authorization entries).mapError .context

/-- A decoder ends with a value, an error, or a read outside. -/
abbrev Decode (α : Type) := Except (Halt IotCoreAuthzResult) α

/-- `entries[i].value`. -/
def valueAt (entries : List ContextEntry) (i : ℕ) : Decode (List UInt8) :=
  match entries[i]? with
  | some entry => .ok entry.value
  | none => .error (.outside i)

/-- `memcpy` of 32 bytes. -/
def copy32 (value : List UInt8) : Decode (Bytes 32) :=
  if h : 32 ≤ value.length then .ok ⟨value.take 32, by simpa using h⟩ else .error (.outside 32)

/-- `load_u64_le`. -/
def loadU64Le (value : List UInt8) : Decode UInt64 :=
  if 8 ≤ value.length then .ok (loadU64LE value 0) else .error (.outside 8)

/-- The fields of the entries, as `auth_v3_iot_core_authz_decode_bytes` reads them. -/
def readFields (entries : List ContextEntry) : Decode IotCoreAuthorizationContextV1 := do
  let holderBinding ← valueAt entries 0 >>= copy32
  let audienceId ← valueAt entries 1 >>= copy32
  let rolePolicyId ← valueAt entries 2 >>= loadU64Le
  let scopeBits ← valueAt entries 3 >>= loadU64Le
  let authorizationGeneration ← valueAt entries 4 >>= loadU64Le
  let policyEpoch ← valueAt entries 5 >>= loadU64Le
  let revocationEpoch ← valueAt entries 6 >>= loadU64Le
  return ⟨holderBinding, audienceId, rolePolicyId, scopeBits, authorizationGeneration, policyEpoch,
    revocationEpoch⟩

/-- How the decoder reports the result of the parser. -/
def Halt.reported : Halt ContextParseResult → Halt IotCoreAuthzResult
  | .err .entryBufferTooSmall => .err .entryLimitExceeded
  | .err _ => .err .invalidEncoding
  | .outside i => .outside i

/-- `auth_v3_iot_core_authz_decode_bytes`. -/
def authV3IotCoreAuthzDecodeBytes (input : List UInt8) :
    Decode IotCoreAuthorizationContextV1 := do
  ensure (¬ input.length ≠ iotCoreAuthzCanonicalLen) (.err .invalidEncodingLength)
  let parsed ← (authV3ContextParseBytes input iotCoreAuthzEntryCount).mapError Halt.reported
  ensure (¬ parsed.kind ≠ .authorization) (.err .invalidContextKind)
  ensure (¬ parsed.entryCount ≠ iotCoreAuthzEntryCount) (.err .invalidEntrySchema)
  ensure (MatchesExpected (parsed.entries.map ContextEntry.toContextEntry))
    (.err .invalidEntrySchema)
  let context ← readFields parsed.entries
  (authV3IotCoreAuthzValidate context).mapError .err
  return context

/-- `auth_v3_iot_core_authz_hash_bytes`.  `crypto_hash_sha256` always returns zero. -/
def authV3IotCoreAuthzHashBytes (sha256 : List UInt8 → Bytes 32) (input : List UInt8) :
    Decode (Bytes 32) := do
  let _ ← authV3IotCoreAuthzDecodeBytes input
  return sha256 input

end C

end ZkArche
