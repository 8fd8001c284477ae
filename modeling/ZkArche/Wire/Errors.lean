import ZkArche.Lib.Bytes

/-!
# Error codes

The C library returns an `auth_err_t` from every fallible function.  `AUTH_OK` is
the `ok` side of an `Except`, so `C.AuthErr` lists the failing codes only.  A code
from `0x0100` up may travel in an ERROR packet.  The codes below it are local.

The Rust crate splits the same table in two.  `Rust.ErrorCode` holds the codes that
may travel, and `Rust.ProtoError` adds the failures that have no code of their own.

Each side maps a received code back through a closed table and reads everything
else as *unspecified*, so a peer cannot make a client see a success
(`C.normalizeWireErrorCode`, `Rust.ErrorCode.fromU16`).
-/

namespace ZkArche

namespace C

/-- The failing values of `auth_err_t`. -/
inductive AuthErr where
  | invalidArgument | bufferTooSmall | notInitialized | io | timeout
  | unsupportedVersion | unsupportedSuite | capMismatch
  | malformedPacket | unknownPktType | payloadTooLarge | payloadTooShort | invalidEncoding
  | invalidPoint | noncanonicalScalar | identityPoint | proofVerify | keyConfirm
  | peerKeyMismatch
  | unknownSession | sessionExpired | replayDetected | seqOutOfOrder
  | unknownDevice | deviceNotEnrolled | roleNotPermitted | pairingTokenBad
  | rateLimited | serverBusy | tooManyActive
  | storageFailure | credentialMissing | registryCorrupt
  | unspecified
deriving DecidableEq, Repr

/-- The wire-stable `u16` of an error. -/
def AuthErr.code : AuthErr → Nat
  | .invalidArgument => 0x0001
  | .bufferTooSmall => 0x0002
  | .notInitialized => 0x0003
  | .io => 0x0004
  | .timeout => 0x0005
  | .unsupportedVersion => 0x0101
  | .unsupportedSuite => 0x0102
  | .capMismatch => 0x0103
  | .malformedPacket => 0x0201
  | .unknownPktType => 0x0202
  | .payloadTooLarge => 0x0203
  | .payloadTooShort => 0x0204
  | .invalidEncoding => 0x0205
  | .invalidPoint => 0x0301
  | .noncanonicalScalar => 0x0302
  | .identityPoint => 0x0303
  | .proofVerify => 0x0304
  | .keyConfirm => 0x0305
  | .peerKeyMismatch => 0x0306
  | .unknownSession => 0x0401
  | .sessionExpired => 0x0402
  | .replayDetected => 0x0403
  | .seqOutOfOrder => 0x0404
  | .unknownDevice => 0x0501
  | .deviceNotEnrolled => 0x0502
  | .roleNotPermitted => 0x0503
  | .pairingTokenBad => 0x0504
  | .rateLimited => 0x0601
  | .serverBusy => 0x0602
  | .tooManyActive => 0x0603
  | .storageFailure => 0x0701
  | .credentialMissing => 0x0702
  | .registryCorrupt => 0x0703
  | .unspecified => 0x7FFF

/-- `auth_strerror`: the text an ERROR packet carries after the code. -/
def authStrerror : AuthErr → String
  | .invalidArgument => "invalid argument"
  | .bufferTooSmall => "buffer too small"
  | .notInitialized => "not initialized"
  | .io => "I/O error"
  | .timeout => "timeout"
  | .unsupportedVersion => "unsupported protocol version"
  | .unsupportedSuite => "unsupported cipher suite"
  | .capMismatch => "capability mismatch"
  | .malformedPacket => "malformed packet"
  | .unknownPktType => "unknown packet type"
  | .payloadTooLarge => "payload too large"
  | .payloadTooShort => "payload too short"
  | .invalidEncoding => "invalid encoding"
  | .invalidPoint => "invalid Ristretto255 point"
  | .noncanonicalScalar => "non-canonical scalar"
  | .identityPoint => "identity point rejected"
  | .proofVerify => "proof verification failed"
  | .keyConfirm => "key confirmation failed"
  | .peerKeyMismatch => "peer key mismatch"
  | .unknownSession => "unknown session"
  | .sessionExpired => "session expired"
  | .replayDetected => "replay detected"
  | .seqOutOfOrder => "sequence number out of order"
  | .unknownDevice => "unknown device"
  | .deviceNotEnrolled => "device not enrolled"
  | .roleNotPermitted => "role not permitted"
  | .pairingTokenBad => "pairing token invalid"
  | .rateLimited => "rate limited"
  | .serverBusy => "server busy"
  | .tooManyActive => "too many active sessions"
  | .storageFailure => "storage failure"
  | .credentialMissing => "credential missing"
  | .registryCorrupt => "registry corrupt"
  | .unspecified => "unspecified"

/-- The errors a received code may name: everything but the five local ones. -/
def wireErrors : List AuthErr :=
  [.unsupportedVersion, .unsupportedSuite, .capMismatch, .malformedPacket, .unknownPktType,
    .payloadTooLarge, .payloadTooShort, .invalidEncoding, .invalidPoint, .noncanonicalScalar,
    .identityPoint, .proofVerify, .keyConfirm, .peerKeyMismatch, .unknownSession,
    .sessionExpired, .replayDetected, .seqOutOfOrder, .unknownDevice, .deviceNotEnrolled,
    .roleNotPermitted, .pairingTokenBad, .rateLimited, .serverBusy, .tooManyActive,
    .storageFailure, .credentialMissing, .registryCorrupt, .unspecified]

/-- `normalize_wire_error_code`: a code outside the table is `AUTH_ERR_UNSPECIFIED`. -/
def normalizeWireErrorCode (code : Nat) : AuthErr :=
  (wireErrors.find? fun e => e.code == code).getD .unspecified

end C

namespace Rust

/-- `ErrorCode`: the codes that travel in an ERROR packet. -/
inductive ErrorCode where
  | unsupportedVersion | unsupportedSuite | capabilityMismatch
  | malformedPacket | unknownPacketType | payloadTooLarge | payloadTooShort | invalidEncoding
  | invalidPoint | nonCanonicalScalar | identityPoint | proofVerifyFailed | keyConfirmFailed
  | peerKeyMismatch
  | unknownSession | sessionExpired | replayDetected | sequenceOutOfOrder
  | unknownDevice | deviceNotEnrolled | roleNotPermitted | pairingTokenInvalid
  | rateLimited | serverBusy | tooManyActive
  | storageFailure | credentialMissing | registryCorrupt
  | unspecified
deriving DecidableEq, Repr

/-- `ErrorCode::as_u16`. -/
def ErrorCode.asU16 : ErrorCode → Nat
  | .unsupportedVersion => 0x0101
  | .unsupportedSuite => 0x0102
  | .capabilityMismatch => 0x0103
  | .malformedPacket => 0x0201
  | .unknownPacketType => 0x0202
  | .payloadTooLarge => 0x0203
  | .payloadTooShort => 0x0204
  | .invalidEncoding => 0x0205
  | .invalidPoint => 0x0301
  | .nonCanonicalScalar => 0x0302
  | .identityPoint => 0x0303
  | .proofVerifyFailed => 0x0304
  | .keyConfirmFailed => 0x0305
  | .peerKeyMismatch => 0x0306
  | .unknownSession => 0x0401
  | .sessionExpired => 0x0402
  | .replayDetected => 0x0403
  | .sequenceOutOfOrder => 0x0404
  | .unknownDevice => 0x0501
  | .deviceNotEnrolled => 0x0502
  | .roleNotPermitted => 0x0503
  | .pairingTokenInvalid => 0x0504
  | .rateLimited => 0x0601
  | .serverBusy => 0x0602
  | .tooManyActive => 0x0603
  | .storageFailure => 0x0701
  | .credentialMissing => 0x0702
  | .registryCorrupt => 0x0703
  | .unspecified => 0x7FFF

/-- The codes `ErrorCode::from_u16` recognises. -/
def knownCodes : List ErrorCode :=
  [.unsupportedVersion, .unsupportedSuite, .capabilityMismatch, .malformedPacket,
    .unknownPacketType, .payloadTooLarge, .payloadTooShort, .invalidEncoding, .invalidPoint,
    .nonCanonicalScalar, .identityPoint, .proofVerifyFailed, .keyConfirmFailed,
    .peerKeyMismatch, .unknownSession, .sessionExpired, .replayDetected, .sequenceOutOfOrder,
    .unknownDevice, .deviceNotEnrolled, .roleNotPermitted, .pairingTokenInvalid, .rateLimited,
    .serverBusy, .tooManyActive, .storageFailure, .credentialMissing, .registryCorrupt]

/-- `ErrorCode::from_u16`. -/
def ErrorCode.fromU16 (code : Nat) : ErrorCode :=
  (knownCodes.find? fun e => e.asU16 == code).getD .unspecified

/-- `ProtoError`: every fallible path of the crate returns this. -/
inductive ProtoError where
  | wire (code : ErrorCode) (msg : String)
  | transport (msg : String)
  | storage (msg : String)
  | internal (msg : String)
deriving DecidableEq, Repr

/-- `wire_code_and_msg` of the server: what an error becomes in an ERROR packet. -/
def wireCodeAndMsg : ProtoError → ErrorCode × String
  | .wire code msg => (code, msg)
  | .storage m => (.storageFailure, m)
  | .transport m => (.unspecified, m)
  | .internal m => (.unspecified, m)

/-- `ProtoError::from_wire_payload`.  The text is kept when it is valid UTF-8. -/
def ProtoError.fromWirePayload (bytes : List UInt8) : ProtoError :=
  if bytes.length < 2 then .wire .malformedPacket "error payload too short"
  else
    .wire (ErrorCode.fromU16 (leNat (bytes.take 2)))
      ((String.fromUTF8? ⟨(bytes.drop 2).toArray⟩).getD "<non-utf8>")

end Rust

/-! ## The two tables agree -/

namespace C

/-- An error code survives the trip through an ERROR packet. -/
theorem normalizeWireErrorCode_code (e : AuthErr) (h : 0x0100 ≤ e.code) :
    normalizeWireErrorCode e.code = e := by
  cases e <;> first | rfl | (exfalso; revert h; decide)

end C

namespace Rust

/-- An error code survives the trip through an ERROR packet. -/
theorem ErrorCode.fromU16_asU16 (e : ErrorCode) : ErrorCode.fromU16 e.asU16 = e := by
  cases e <;> rfl

end Rust

end ZkArche
