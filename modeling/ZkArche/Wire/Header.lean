import ZkArche.Wire.Errors

/-!
# Packet framing

A packet is a 24-byte header followed by its payload.

```text
 0  version     u8
 1  pkt_type    u8
 2  flags       u16 LE
 4  session_id  16 bytes
20  seq         u32 LE
24  payload
```

Both implementations read and write this layout.  `Header`, `Header.bytes` and
`Header.read` are the layout itself.  Above it stand the C functions of `wire.c` and
the Rust functions of `wire.rs`, with the checks and errors of each.

A header below `MIN_SUPPORTED_VERSION` is refused.  Neither decoder looks at the
flags, and neither refuses a version above its own.
-/

namespace ZkArche

/-! ## Constants -/

/-- Length of a session identifier. -/
abbrev SessionId := Bytes 16

/-- `AUTH_HEADER_LEN` / `HEADER_LEN`. -/
def headerLen : Nat := 24
/-- `AUTH_MAX_DATAGRAM` / `MAX_DATAGRAM`. -/
def maxDatagram : Nat := 2048
/-- `AUTH_MAX_PAYLOAD` / `MAX_PAYLOAD`. -/
def maxPayload : Nat := maxDatagram - headerLen
/-- `AUTH_PROTOCOL_VERSION` / `PROTOCOL_VERSION`. -/
def protocolVersion : UInt8 := 0x02
/-- `AUTH_MIN_SUPPORTED_VERSION` / `MIN_SUPPORTED_VERSION`. -/
def minSupportedVersion : UInt8 := 0x02
/-- `AUTH_MAX_ROLES`. -/
def maxRoles : Nat := 8
/-- `AUTH_MAX_PAIRING_TOKEN`. -/
def maxPairingToken : Nat := 128

def pktSetup1 : UInt8 := 0x11
def pktSetup2 : UInt8 := 0x12
def pktSetup3 : UInt8 := 0x13
def pktSetupAck : UInt8 := 0x14
def pktAuth1 : UInt8 := 0x21
def pktAuth2 : UInt8 := 0x22
def pktAuth3 : UInt8 := 0x23
def pktAuthAck : UInt8 := 0x24
def pktError : UInt8 := 0x7f

/-- `AUTH_ACK_BYTE` / `ACK_BYTE`. -/
def ackByte : UInt8 := 0x01

/-! ## The layout -/

/-- `auth_header_t` / `Header`. -/
structure Header where
  version : UInt8
  pktType : UInt8
  flags : UInt16
  sessionId : SessionId
  seq : UInt32
deriving DecidableEq

namespace Header

/-- The header both builders emit: our version and no flags. -/
def fresh (pktType : UInt8) (sessionId : SessionId) (seq : UInt32) : Header :=
  ⟨protocolVersion, pktType, 0, sessionId, seq⟩

/-- The 24 bytes of a header. -/
def bytes (h : Header) : List UInt8 :=
  [h.version, h.pktType] ++ natLE 2 h.flags.toNat ++ h.sessionId.val ++ natLE 4 h.seq.toNat

/-- The fields of a header, out of a buffer that is long enough. -/
def read (buf : List UInt8) (h : 24 ≤ buf.length) : Header where
  version := buf.getD 0 0
  pktType := buf.getD 1 0
  flags := UInt16.ofNat (leNat ((buf.drop 2).take 2))
  sessionId := ⟨(buf.drop 4).take 16, by simp; omega⟩
  seq := UInt32.ofNat (leNat ((buf.drop 20).take 4))

@[simp] theorem bytes_length (h : Header) : h.bytes.length = 24 := by
  simp [bytes]

/-- Reading a header back from a packet. -/
theorem read_bytes_append (h : Header) (rest : List UInt8)
    (hl : 24 ≤ (h.bytes ++ rest).length) : read (h.bytes ++ rest) hl = h := by
  obtain ⟨v, t, f, sid, seq⟩ := h
  have hsid := sid.len
  have hflags : ((natLE 2 f.toNat ++ (sid.val ++ (natLE 4 seq.toNat ++ rest))).take 2)
      = natLE 2 f.toNat := List.take_left' (by simp)
  have hsidv : ((sid.val ++ (natLE 4 seq.toNat ++ rest)).take 16) = sid.val :=
    List.take_left' hsid
  have hseq : ((natLE 4 seq.toNat ++ rest).take 4) = natLE 4 seq.toNat :=
    List.take_left' (by simp)
  have hd4 : (natLE 2 f.toNat ++ (sid.val ++ (natLE 4 seq.toNat ++ rest))).drop 2
      = sid.val ++ (natLE 4 seq.toNat ++ rest) := List.drop_left' (by simp)
  have hd20 : (natLE 2 f.toNat ++ (sid.val ++ (natLE 4 seq.toNat ++ rest))).drop 18
      = natLE 4 seq.toNat ++ rest := by
    rw [← List.append_assoc]
    exact List.drop_left' (by simp [hsid])
  have hf : f.toNat < 256 ^ 2 := f.toNat_lt
  have hs : seq.toNat < 256 ^ 4 := seq.toNat_lt
  simp only [read, bytes, List.append_assoc, List.cons_append, List.nil_append,
    List.getD_cons_zero, List.getD_cons_succ, List.drop_succ_cons, List.drop_zero, hflags, hd4,
    hsidv, hd20, hseq, leNat_natLE hf, leNat_natLE hs, UInt16.ofNat_toNat, UInt32.ofNat_toNat]

end Header

/-- A complete packet with a fresh header. -/
def frame (pktType : UInt8) (sessionId : SessionId) (seq : UInt32) (payload : List UInt8) :
    List UInt8 :=
  (Header.fresh pktType sessionId seq).bytes ++ payload

@[simp] theorem frame_length (ty : UInt8) (sid : SessionId) (seq : UInt32) (p : List UInt8) :
    (frame ty sid seq p).length = 24 + p.length := by
  simp [frame]

/-- The packet type of a packet, as its receiver reads it. -/
def pktTypeOf (pkt : List UInt8) : UInt8 := pkt.getD 1 0

@[simp] theorem pktTypeOf_frame (ty : UInt8) (sid : SessionId) (seq : UInt32)
    (p : List UInt8) : pktTypeOf (frame ty sid seq p) = ty := rfl

namespace C

/-- `auth_header_decode`. -/
def authHeaderDecode (buf : List UInt8) : Except AuthErr (Header × List UInt8) :=
  if h : buf.length < headerLen then .error .payloadTooShort
  else
    let hdr := Header.read buf (Nat.le_of_not_lt h)
    if hdr.version < minSupportedVersion then .error .unsupportedVersion
    else .ok (hdr, buf.drop headerLen)

/-- `auth_packet_build`: `cap` is the capacity of the output buffer. -/
def authPacketBuild (pktType : UInt8) (sessionId : SessionId) (seq : UInt32)
    (payload : List UInt8) (cap : Nat) : Except AuthErr (List UInt8) := do
  ensure (payload.length ≤ maxPayload) .payloadTooLarge
  ensure (headerLen + payload.length ≤ cap) .bufferTooSmall
  return frame pktType sessionId seq payload

/-- `auth_packet_build_error`. -/
def authPacketBuildError (sessionId : SessionId) (seq : UInt32) (code : AuthErr)
    (msg : String) (cap : Nat) : Except AuthErr (List UInt8) := do
  ensure ((ascii msg).length ≤ maxPayload - 2) .payloadTooLarge
  authPacketBuild pktError sessionId seq (natLE 2 code.code ++ ascii msg) cap

/-- `auth_packet_parse_error`, as its callers use it: they start from
`AUTH_ERR_UNSPECIFIED` and ignore the return value. -/
def authPacketParseError (payload : List UInt8) : AuthErr :=
  if payload.length < 2 then .unspecified
  else normalizeWireErrorCode (leNat (payload.take 2))

theorem authPacketBuild_eq_ok_iff {ty : UInt8} {sid : SessionId} {seq : UInt32}
    {p pkt : List UInt8} {cap : Nat} :
    authPacketBuild ty sid seq p cap = .ok pkt ↔
      p.length ≤ maxPayload ∧ headerLen + p.length ≤ cap ∧ pkt = frame ty sid seq p := by
  simp [authPacketBuild, Except.bind_eq_ok_iff, @eq_comm _ pkt]

/-- A framed packet decodes to its header and its payload. -/
@[simp] theorem authHeaderDecode_frame (ty : UInt8) (sid : SessionId) (seq : UInt32)
    (p : List UInt8) :
    authHeaderDecode (frame ty sid seq p) = .ok (Header.fresh ty sid seq, p) := by
  have hl : ¬ (frame ty sid seq p).length < headerLen := by simp [headerLen]
  have hread : Header.read (frame ty sid seq p) (Nat.le_of_not_lt hl)
      = Header.fresh ty sid seq := Header.read_bytes_append _ _ _
  have hdrop : (frame ty sid seq p).drop headerLen = p :=
    List.drop_left' (Header.bytes_length _)
  have hv : ¬ (Header.fresh ty sid seq).version < minSupportedVersion := by
    show ¬ protocolVersion < minSupportedVersion
    decide
  rw [authHeaderDecode, dif_neg hl]
  simp only [hread, hdrop, if_neg hv]

end C

namespace Rust

/-- How a Rust function that does not return normally stops: with an error, or with a
panic. -/
inductive Stop where
  | err (e : ProtoError)
  | panic (msg : String)
deriving DecidableEq, Repr

/-- `ProtoError::wire`, as the result of a function. -/
def Stop.wire (code : ErrorCode) (msg : String) : Stop := .err (.wire code msg)

/-- `Header::decode` / `parse_packet`. -/
def parsePacket (bytes : List UInt8) : Except ProtoError (Header × List UInt8) :=
  if h : bytes.length < headerLen then
    .error (.wire .payloadTooShort "datagram < 24B header")
  else
    let hdr := Header.read bytes (Nat.le_of_not_lt h)
    if hdr.version < minSupportedVersion then
      .error (.wire .unsupportedVersion
        ("packet version " ++ toString hdr.version.toNat ++ " < min supported "
          ++ toString minSupportedVersion.toNat))
    else .ok (hdr, bytes.drop headerLen)

/-- `build_packet`: panics on a payload above `MAX_PAYLOAD`. -/
def buildPacket (pktType : UInt8) (sessionId : SessionId) (seq : UInt32)
    (payload : List UInt8) : Except Stop (List UInt8) :=
  if payload.length > maxPayload then
    .error (.panic ("payload " ++ toString payload.length ++ " exceeds MAX_PAYLOAD "
      ++ toString maxPayload))
  else .ok (frame pktType sessionId seq payload)

/-- `build_error`. -/
def buildError (sessionId : SessionId) (seq : UInt32) (code : ErrorCode) (msg : String) :
    Except Stop (List UInt8) :=
  buildPacket pktError sessionId seq (natLE 2 code.asU16 ++ ascii msg)

theorem buildPacket_eq_ok_iff {ty : UInt8} {sid : SessionId} {seq : UInt32}
    {p pkt : List UInt8} :
    buildPacket ty sid seq p = .ok pkt ↔ p.length ≤ maxPayload ∧ pkt = frame ty sid seq p := by
  unfold buildPacket
  split
  · constructor
    · intro h
      cases h
    · rintro ⟨h, -⟩
      omega
  · constructor
    · intro h
      cases h
      exact ⟨by omega, rfl⟩
    · rintro ⟨-, rfl⟩
      rfl

/-- An ERROR packet is built when the text leaves room for the code. -/
theorem buildError_eq_ok_iff {sid : SessionId} {seq : UInt32} {code : ErrorCode} {msg : String}
    {pkt : List UInt8} : buildError sid seq code msg = .ok pkt ↔
      (ascii msg).length + 2 ≤ maxPayload ∧
        pkt = frame pktError sid seq (natLE 2 code.asU16 ++ ascii msg) := by
  rw [buildError, buildPacket_eq_ok_iff, List.length_append, natLE_length, Nat.add_comm]

/-- Both decoders accept the same packets and read the same fields. -/
theorem parsePacket_eq_ok_iff {bytes payload : List UInt8} {hdr : Header} :
    parsePacket bytes = .ok (hdr, payload) ↔
      C.authHeaderDecode bytes = .ok (hdr, payload) := by
  unfold parsePacket C.authHeaderDecode
  split
  · simp
  · simp only
    split <;> simp

@[simp] theorem parsePacket_frame (ty : UInt8) (sid : SessionId) (seq : UInt32)
    (p : List UInt8) :
    parsePacket (frame ty sid seq p) = .ok (Header.fresh ty sid seq, p) :=
  parsePacket_eq_ok_iff.mpr (C.authHeaderDecode_frame ty sid seq p)

end Rust

end ZkArche
