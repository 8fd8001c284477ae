import ZkArche.Crypto.TranscriptV3
import ZkArche.Lib.CheckedRead
import ZkArche.Lib.Output
import ZkArche.Lib.StreamHash

/-!
# Canonical contexts

A *context* has a kind and a list of entries, each with an id and a value.  Its encoding is the
magic `ZKCTX`, a version, the kind and the number of entries, and then the entries.  An entry is
its id, a byte of flags that is zero, the length of the value and the value.

Encoders and parsers make the same three checks on every id (`checkId`).  An id is not zero, it is
larger than the one before it, and in a context of critical extensions it has the high bit and
another one.

The C parser tests the declared count against the length of the input before it tests it against
the capacity of the caller.  The Rust parser does it the other way round.

An entry of C has a 16-bit length, so its value is short by its type.  An entry of Rust may be too
long to encode.
-/

namespace ZkArche

/-- `AUTH_V3_CONTEXT_MAGIC` / `CONTEXT_MAGIC`. -/
def contextMagic : List UInt8 := ascii "ZKCTX"

/-- `AUTH_V3_CONTEXT_ENCODING_VERSION` / `CONTEXT_ENCODING_VERSION`. -/
def contextEncodingVersion : UInt8 := 1

/-- `auth_v3_context_kind_t` / `ContextKind`. -/
inductive ContextKind where
  | authorization | criticalExtensions | channelBinding
deriving DecidableEq

/-- The byte of a kind. -/
def ContextKind.toU8 : ContextKind → UInt8
  | .authorization => 1
  | .criticalExtensions => 2
  | .channelBinding => 3

/-- `ContextEntry`. -/
structure ContextEntry where
  id : UInt16
  value : List UInt8
deriving DecidableEq

/-- The three checks on an id, which every loop over entries makes in this order.  `index` counts
the entries before this one and `previous` is the id of the last of them. -/
def checkId {ε : Type} (kind : ContextKind) (index : ℕ) (previous id : UInt16)
    (invalidId nonCanonicalOrder invalidCriticalId : ε) : Except ε Unit := do
  ensure (id ≠ 0) invalidId
  ensure (¬ (index > 0 ∧ id ≤ previous)) nonCanonicalOrder
  ensure (¬ (kind = .criticalExtensions ∧ (id &&& 0x8000 = 0 ∨ id &&& 0x7fff = 0)))
    invalidCriticalId

/-! ## Rust -/

namespace Rust

/-- `ContextEncodingError`. -/
inductive ContextEncodingError where
  | invalidId | nonCanonicalOrder | invalidCriticalId | tooManyEntries | valueTooLong
deriving DecidableEq

/-- The loop of `validate_entries`. -/
def validateLoop (kind : ContextKind) : ℕ → UInt16 → List ContextEntry →
    Except ContextEncodingError Unit
  | _, _, [] => .ok ()
  | index, previous, entry :: entries => do
      checkId kind index previous entry.id .invalidId .nonCanonicalOrder .invalidCriticalId
      ensure (entry.value.length ≤ 0xFFFF) .valueTooLong
      validateLoop kind (index + 1) entry.id entries

/-- `validate_entries`. -/
def validateEntries (kind : ContextKind) (entries : List ContextEntry) :
    Except ContextEncodingError Unit := do
  ensure (entries.length ≤ 0xFFFF) .tooManyEntries
  validateLoop kind 0 0 entries

/-- `encode_canonical_context`. -/
def encodeCanonicalContext (kind : ContextKind) (entries : List ContextEntry) :
    Except ContextEncodingError (List UInt8) := do
  validateEntries kind entries
  let out := contextMagic ++ [contextEncodingVersion] ++ [kind.toU8] ++ natLE 2 entries.length
  return entries.foldl (fun out entry =>
    out ++ u16LE entry.id ++ [0] ++ natLE 2 entry.value.length ++ entry.value) out

/-- `hash_canonical_context`. -/
def hashCanonicalContext (sha256 : List UInt8 → Bytes 32) (kind : ContextKind)
    (entries : List ContextEntry) : Except ContextEncodingError (Bytes 32) := do
  let encoded ← encodeCanonicalContext kind entries
  return sha256 encoded

/-- `ContextParseError`. -/
inductive ContextParseError where
  | truncated | invalidMagic | unsupportedVersion | unknownKind | invalidId | nonCanonicalOrder
  | invalidCriticalId | nonZeroFlags | trailingBytes | entryLimitExceeded
deriving DecidableEq

/-- `ParsedContext`. -/
structure ParsedContext where
  kind : ContextKind
  entries : List ContextEntry
deriving DecidableEq

/-- A parse ends with a value, an error, or a panic at an index. -/
abbrev Parse (α : Type) := Except (Halt ContextParseError) α

/-- `parse_kind`. -/
def parseKind (value : UInt8) : Parse ContextKind :=
  if value = 1 then .ok .authorization
  else if value = 2 then .ok .criticalExtensions
  else if value = 3 then .ok .channelBinding
  else .error (.err .unknownKind)

/-- `input.get(first..last).ok_or(Truncated)?`. -/
def getRange (input : List UInt8) (first last : ℕ) : Parse (List UInt8) :=
  if first ≤ last ∧ last ≤ input.length then .ok ((input.drop first).take (last - first))
  else .error (.err .truncated)

/-- The body of the loop of `parse_canonical_context_impl`: an entry, and the offset behind it.  A
slice is never so long that the sums overflow. -/
def parseEntry (input : List UInt8) (kind : ContextKind) (index : ℕ) (previousId : UInt16)
    (offset : ℕ) : Parse (ContextEntry × ℕ) := do
  let headerEnd := offset + 5
  let header ← getRange input offset headerEnd
  let id ← u16At header 0
  let flags ← byteAt header 2
  let valueLen ← u16At header 3
  checkId kind index previousId id (.err .invalidId) (.err .nonCanonicalOrder)
    (.err .invalidCriticalId)
  ensure (flags = 0) (.err .nonZeroFlags)
  let valueEnd := headerEnd + valueLen.toNat
  let value ← getRange input headerEnd valueEnd
  return (⟨id, value⟩, valueEnd)

/-- The loop of `parse_canonical_context_impl`, with the number of entries left first. -/
def parseEntries (input : List UInt8) (kind : ContextKind) : ℕ → ℕ → List ContextEntry → UInt16 →
    ℕ → Parse (List ContextEntry × ℕ)
  | 0, _, entries, _, offset => .ok (entries, offset)
  | left + 1, index, entries, previousId, offset => do
      let (entry, offset) ← parseEntry input kind index previousId offset
      parseEntries input kind left (index + 1) (entries ++ [entry]) entry.id offset

/-- `parse_canonical_context_impl`. -/
def parseCanonicalContextImpl (input : List UInt8) (maxEntries : Option ℕ) :
    Parse ParsedContext := do
  ensure (¬ input.length < 9) (.err .truncated)
  let magic ← bytesAt input 0 contextMagic.length
  ensure (magic = contextMagic) (.err .invalidMagic)
  let version ← byteAt input 5
  ensure (version = contextEncodingVersion) (.err .unsupportedVersion)
  let kindByte ← byteAt input 6
  let kind ← parseKind kindByte
  let entryCount ← u16At input 7
  ensure (¬ ∃ limit ∈ maxEntries, entryCount.toNat > limit) (.err .entryLimitExceeded)
  ensure (¬ entryCount.toNat > (input.length - 9) / 5) (.err .truncated)
  let (entries, offset) ← parseEntries input kind entryCount.toNat 0 [] 0 9
  ensure (offset = input.length) (.err .trailingBytes)
  return ⟨kind, entries⟩

/-- `parse_canonical_context`. -/
def parseCanonicalContext (input : List UInt8) : Parse ParsedContext :=
  parseCanonicalContextImpl input none

/-- `parse_canonical_context_bounded`. -/
def parseCanonicalContextBounded (input : List UInt8) (maxEntries : ℕ) : Parse ParsedContext :=
  parseCanonicalContextImpl input (some maxEntries)

/-- `hash_canonical_context_bytes`. -/
def hashCanonicalContextBytes (sha256 : List UInt8 → Bytes 32) (input : List UInt8) :
    Parse (Bytes 32) := do
  let _ ← parseCanonicalContext input
  return sha256 input

end Rust

/-! ## C -/

namespace C

/-- `auth_v3_context_entry_t`. -/
structure ContextEntry extends ZkArche.ContextEntry where
  /-- The length has 16 bits. -/
  short : value.length ≤ 0xFFFF
deriving DecidableEq

/-- The failing values of `auth_v3_context_result_t`. -/
inductive ContextResult where
  | invalidArgument | invalidId | nonCanonicalOrder | invalidCriticalId | bufferTooSmall
deriving DecidableEq

/-- `SIZE_MAX`. -/
def sizeMax : ℕ := 2 ^ 64 - 1

/-- The loop of `validate_entries`, with the length so far. -/
def validateLoop (kind : ContextKind) : ℕ → UInt16 → ℕ → List ContextEntry →
    Except ContextResult ℕ
  | _, _, total, [] => .ok total
  | i, previous, total, entry :: entries => do
      checkId kind i previous entry.id .invalidId .nonCanonicalOrder .invalidCriticalId
      ensure (¬ total > sizeMax - 5 - entry.value.length) .invalidArgument
      validateLoop kind (i + 1) entry.id (total + (5 + entry.value.length)) entries

/-- `validate_entries`: the length of the encoding. -/
def validateEntries (kind : ContextKind) (entries : List ContextEntry) :
    Except ContextResult ℕ := do
  ensure (¬ entries.length > 0xFFFF) .invalidArgument
  validateLoop kind 0 0 9 entries

/-- The header that `auth_v3_context_encode` and `auth_v3_context_hash` write. -/
def contextHeader (kind : ContextKind) (entryCount : ℕ) : List UInt8 :=
  contextMagic ++ [contextEncodingVersion, kind.toU8] ++ natLE 2 entryCount

/-- The five bytes in front of a value. -/
def entryHeader (entry : ContextEntry) : List UInt8 :=
  u16LE entry.id ++ [0] ++ natLE 2 entry.value.length

/-- `auth_v3_context_encode`. -/
def authV3ContextEncode (kind : ContextKind) (entries : List ContextEntry) (outCapacity : ℕ) :
    Routine ContextResult (Output UInt8) Unit := do
  let needed ← Routine.lift (validateEntries kind entries)
  Routine.lift (ensure (¬ outCapacity < needed) .bufferTooSmall)
  (do
    Output.write (contextHeader kind entries.length)
    Output.each (fun entry => do
      Output.write (entryHeader entry)
      if entry.value.length > 0 then Output.write entry.value else pure ()) entries)
    >>= fun _ => Output.report

/-- `auth_v3_context_hash`. -/
def authV3ContextHash {sha256 : List UInt8 → Bytes 32} (H : StreamHash sha256)
    (kind : ContextKind) (entries : List ContextEntry) : Except ContextResult (Bytes 32) := do
  let _ ← validateEntries kind entries
  let state := H.update H.init (contextHeader kind entries.length)
  return H.final (entries.foldl (fun state entry =>
    let state := H.update state (entryHeader entry)
    if entry.value.length > 0 then H.update state entry.value else state) state)

/-- The failing values of `auth_v3_context_parse_result_t`. -/
inductive ContextParseResult where
  | invalidArgument | truncated | invalidMagic | unsupportedVersion | unknownKind | invalidId
  | nonCanonicalOrder | invalidCriticalId | nonzeroFlags | trailingBytes | entryBufferTooSmall
deriving DecidableEq

/-- What the caller of `auth_v3_context_parse_bytes` gets. -/
@[ext] structure ParsedContext where
  kind : ContextKind
  entries : List ContextEntry
  entryCount : ℕ
deriving DecidableEq

/-- A parse ends with a value, an error, or a read outside the input. -/
abbrev Parse (α : Type) := Except (Halt ContextParseResult) α

/-- The cast of a byte to `auth_v3_context_kind_t`. -/
def castKind (value : UInt8) : ContextKind :=
  if value = 1 then .authorization
  else if value = 2 then .criticalExtensions
  else .channelBinding

/-- An entry whose value is in the input. -/
def entryInto (input : List UInt8) (id : UInt16) (offset : ℕ) (valueLen : UInt16) :
    ContextEntry where
  id := id
  value := (input.drop offset).take valueLen.toNat
  short := by
    have hlen := valueLen.toNat_lt
    rw [List.length_take]
    omega

/-- The body of the loop of `parse_impl`: an entry, and the offset behind it. -/
def parseEntry (input : List UInt8) (kind : ContextKind) (i : ℕ) (previousId : UInt16)
    (offset : ℕ) : Parse (ContextEntry × ℕ) := do
  ensure (¬ (offset > input.length ∨ input.length - offset < 5)) (.err .truncated)
  let id ← u16At input offset
  let flags ← byteAt input (offset + 2)
  let valueLen ← u16At input (offset + 3)
  let offset := offset + 5
  checkId kind i previousId id (.err .invalidId) (.err .nonCanonicalOrder)
    (.err .invalidCriticalId)
  ensure (¬ flags ≠ 0) (.err .nonzeroFlags)
  ensure (¬ (offset > input.length ∨ valueLen.toNat > input.length - offset)) (.err .truncated)
  return (entryInto input id offset valueLen, offset + valueLen.toNat)

/-- The loop of `parse_impl`, with the number of entries left first. -/
def parseEntries (input : List UInt8) (kind : ContextKind) (captureEntries : Bool) :
    ℕ → ℕ → List ContextEntry → UInt16 → ℕ → Parse (List ContextEntry × ℕ)
  | 0, _, entriesOut, _, offset => .ok (entriesOut, offset)
  | left + 1, i, entriesOut, previousId, offset => do
      let (entry, offset) ← parseEntry input kind i previousId offset
      let entriesOut := if captureEntries then entriesOut ++ [entry] else entriesOut
      parseEntries input kind captureEntries left (i + 1) entriesOut entry.id offset

/-- `parse_impl`. -/
def parseImpl (input : List UInt8) (entriesCapacity : ℕ) (captureEntries : Bool) :
    Parse ParsedContext := do
  ensure (¬ input.length < 9) (.err .truncated)
  let magic ← bytesAt input 0 contextMagic.length
  ensure (¬ magic ≠ contextMagic) (.err .invalidMagic)
  let version ← byteAt input 5
  ensure (¬ version ≠ contextEncodingVersion) (.err .unsupportedVersion)
  let kindByte ← byteAt input 6
  ensure (¬ (kindByte < ContextKind.authorization.toU8 ∨ kindByte > ContextKind.channelBinding.toU8))
    (.err .unknownKind)
  let kind := castKind kindByte
  let entryCount ← u16At input 7
  ensure (¬ entryCount.toNat > (input.length - 9) / 5) (.err .truncated)
  ensure (¬ (captureEntries = true ∧ entryCount.toNat > entriesCapacity))
    (.err .entryBufferTooSmall)
  let (entries, offset) ← parseEntries input kind captureEntries entryCount.toNat 0 [] 0 9
  ensure (¬ offset ≠ input.length) (.err .trailingBytes)
  return ⟨kind, entries, entryCount.toNat⟩

/-- `auth_v3_context_parse_bytes`. -/
def authV3ContextParseBytes (input : List UInt8) (entriesCapacity : ℕ) : Parse ParsedContext :=
  parseImpl input entriesCapacity true

/-- `auth_v3_context_hash_bytes`.  `crypto_hash_sha256` always returns zero. -/
def authV3ContextHashBytes (sha256 : List UInt8 → Bytes 32) (input : List UInt8) :
    Parse (Bytes 32) := do
  let _ ← parseImpl input 0 false
  return sha256 input

end C

end ZkArche
