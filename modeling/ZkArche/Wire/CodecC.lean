import ZkArche.Lib.Output
import ZkArche.Wire.PayloadsC

/-!
# The framed messages of the C library

The encoders of `payloads.c` write into a buffer of the caller and report a length.  They are
written here over `Output`, check by check and copy by copy, and each of them writes the layout
of its message and reports its length, or fails and reports nothing (`Encodes`).  The encoders
of `PayloadsC`, which the handlers use, return what the caller then has.

`Message` is a message of any type.  Framing and decoding give it back, and whatever a decoder
accepts is the encoding of what it returns (`framed_codec`).
-/

namespace ZkArche

/-- The messages by packet type. -/
inductive MsgType where
  | setup1 | setup2 | setup3 | setupAck | auth1 | auth2 | auth3 | authAck
deriving DecidableEq

/-- The packet type. -/
def MsgType.pktType : MsgType → UInt8
  | .setup1 => pktSetup1
  | .setup2 => pktSetup2
  | .setup3 => pktSetup3
  | .setupAck => pktSetupAck
  | .auth1 => pktAuth1
  | .auth2 => pktAuth2
  | .auth3 => pktAuth3
  | .authAck => pktAuthAck

namespace C

/-- A routine that writes into a buffer of the caller. -/
abbrev Encoder := Routine AuthErr (Output UInt8) Unit

/-! ## The encoders -/

/-- `put_fixed`. -/
def putFixed (bufLen : ℕ) (src : List UInt8) : Encoder := Output.put bufLen .bufferTooSmall src

/-- Fail unless there is room for `need` bytes. -/
def checked (need bufLen : ℕ) (body : Encoder) : Encoder :=
  if bufLen < need then throw .bufferTooSmall else body

/-- The body of an encoder: check for room, write, report. -/
def guarded (need bufLen : ℕ) (body : Encoder) : Encoder :=
  checked need bufLen (body >>= fun _ => Output.report)

/-- `auth_setup1_encode`. -/
def Setup1.encodeInto (m : Setup1) (bufLen : ℕ) : Encoder :=
  if m.pairingToken.length > maxPairingToken then throw .invalidArgument
  else guarded (1 + m.pairingToken.length + 32 + 32 + 32 + 32) bufLen do
    Output.write [UInt8.ofNat m.pairingToken.length]
    Output.write m.pairingToken
    Output.write m.deviceId.val
    Output.write m.devicePub.val
    Output.write m.clientNonce.val
    Output.write m.roleCommitment.val

/-- `auth_setup2_encode`. -/
def Setup2.encodeInto (m : Setup2) (bufLen : ℕ) : Encoder :=
  guarded (32 + 16 + 32 + 32 + 32) bufLen do
    putFixed bufLen m.serverNonce.val
    putFixed bufLen m.setupChallenge.val
    putFixed bufLen m.serverPub.val
    putFixed bufLen m.serverProof.a.val
    putFixed bufLen m.serverProof.s.val

/-- `auth_setup3_encode`. -/
def Setup3.encodeInto (m : Setup3) (bufLen : ℕ) : Encoder :=
  guarded 64 bufLen do
    Output.write m.clientProof.a.val
    Output.write m.clientProof.s.val

/-- The branch loop of `auth_auth1_encode`. -/
def SetBranch.encodeInto (bufLen : ℕ) (b : SetBranch) : Encoder := do
  putFixed bufLen b.a.val
  putFixed bufLen b.c.val
  putFixed bufLen b.s.val

/-- `auth_auth1_encode`. -/
def Auth1.encodeInto (m : Auth1) (bufLen : ℕ) : Encoder :=
  if m.branches.length > maxRoles then throw .invalidArgument
  else guarded (32 * 8 + 2 + 96 * m.branches.length) bufLen do
    putFixed bufLen m.pid.val
    putFixed bufLen m.clientProof.a.val
    putFixed bufLen m.clientProof.s.val
    putFixed bufLen m.nonceC.val
    putFixed bufLen m.ephC.val
    putFixed bufLen m.cPrime.val
    putFixed bufLen m.rerandProof.a.val
    putFixed bufLen m.rerandProof.s.val
    Output.write (natLE 2 m.branches.length)
    Output.each (SetBranch.encodeInto bufLen) m.branches

/-- `auth_auth2_encode`. -/
def Auth2.encodeInto (m : Auth2) (bufLen : ℕ) : Encoder :=
  guarded (32 * 6) bufLen do
    putFixed bufLen m.serverPub.val
    putFixed bufLen m.serverProof.a.val
    putFixed bufLen m.serverProof.s.val
    putFixed bufLen m.nonceS.val
    putFixed bufLen m.ephS.val
    putFixed bufLen m.tagS.val

/-- `auth_auth3_encode`. -/
def Auth3.encodeInto (m : Auth3) (bufLen : ℕ) : Encoder :=
  guarded 32 bufLen (Output.write m.tagC.val)

/-- `auth_ack_encode`. -/
def authAckEncodeInto (bufLen : ℕ) : Encoder := guarded 1 bufLen (Output.write [ackByte])

/-- The copies of `auth_header_encode`. -/
def writeHeader (h : Header) : Encoder := do
  Output.write [h.version]
  Output.write [h.pktType]
  Output.write (natLE 2 h.flags.toNat)
  Output.write h.sessionId.val
  Output.write (natLE 4 h.seq.toNat)

/-- `auth_header_encode`. -/
def authHeaderEncodeInto (h : Header) (bufLen : ℕ) : Encoder :=
  guarded headerLen bufLen (writeHeader h)

/-- `auth_packet_build`.  The header is written without a report. -/
def authPacketBuildInto (pktType : UInt8) (sessionId : SessionId) (seq : UInt32)
    (payload : List UInt8) (bufLen : ℕ) : Encoder :=
  if payload.length > maxPayload then throw .payloadTooLarge
  else guarded (headerLen + payload.length) bufLen do
    checked headerLen bufLen (writeHeader (Header.fresh pktType sessionId seq))
    Output.write payload

/-! ## What they write -/

/-- The encoder writes these bytes and reports their number, or fails and reports nothing. -/
structure Encodes (enc : ℕ → Encoder) (l : List UInt8) : Prop where
  fits : ∀ bufLen n, l.length ≤ bufLen → (enc bufLen).exec ⟨[], n⟩ = (.ok (), ⟨l, l.length⟩)
  fails : ∀ bufLen n, bufLen < l.length →
    (enc bufLen).exec ⟨[], n⟩ = (.error .bufferTooSmall, ⟨[], n⟩)

theorem encodes_guarded {need : ℕ} {body : ℕ → Encoder} {l : List UInt8} (hneed : need = l.length)
    (hbody : ∀ bufLen, Output.Fits bufLen (body bufLen) l) :
    Encodes (fun bufLen => guarded need bufLen (body bufLen)) l where
  fits := by
    intro bufLen n hl
    rw [guarded, checked, if_neg (by omega)]
    exact (hbody bufLen).report hl n
  fails := by
    intro bufLen n hl
    rw [guarded, checked, if_pos (by omega), Routine.exec_throw]

theorem Setup1.encodes {m : Setup1} (h : m.pairingToken.length ≤ maxPairingToken) :
    Encodes m.encodeInto m.bytes := by
  have hno : ¬ m.pairingToken.length > maxPairingToken := Nat.not_lt.mpr h
  unfold Setup1.encodeInto
  simp only [if_neg hno]
  apply encodes_guarded
  · simp [Setup1.bytes]
    omega
  · intro bufLen
    exact (Output.Fits.write _).bind ((Output.Fits.write _).bind ((Output.Fits.write _).bind
      ((Output.Fits.write _).bind ((Output.Fits.write _).bind (Output.Fits.write _)))))

theorem Setup2.encodes (m : Setup2) : Encodes m.encodeInto m.bytes := by
  apply encodes_guarded
  · simp [Setup2.bytes]
  · intro bufLen
    exact (Output.Fits.put _).bind ((Output.Fits.put _).bind ((Output.Fits.put _).bind
      ((Output.Fits.put _).bind (Output.Fits.put _))))

theorem Setup3.encodes (m : Setup3) : Encodes m.encodeInto m.bytes := by
  apply encodes_guarded
  · simp [Setup3.bytes]
  · intro bufLen
    exact (Output.Fits.write _).bind (Output.Fits.write _)

theorem Auth1.encodes {m : Auth1} (h : m.branches.length ≤ maxRoles) :
    Encodes m.encodeInto m.bytes := by
  have hno : ¬ m.branches.length > maxRoles := Nat.not_lt.mpr h
  unfold Auth1.encodeInto
  simp only [if_neg hno]
  apply encodes_guarded
  · rw [Auth1.bytes_length]
  · intro bufLen
    have hbranches : Output.Fits bufLen (Output.each (SetBranch.encodeInto bufLen) m.branches)
        (m.branches.flatMap SetBranch.bytes) := by
      apply Output.Fits.each
      intro b _
      exact (Output.Fits.put _).bind ((Output.Fits.put _).bind (Output.Fits.put _))
    exact (Output.Fits.put _).bind ((Output.Fits.put _).bind ((Output.Fits.put _).bind
      ((Output.Fits.put _).bind ((Output.Fits.put _).bind ((Output.Fits.put _).bind
      ((Output.Fits.put _).bind ((Output.Fits.put _).bind ((Output.Fits.write _).bind
      hbranches))))))))

theorem Auth2.encodes (m : Auth2) : Encodes m.encodeInto m.bytes := by
  apply encodes_guarded
  · simp [Auth2.bytes]
  · intro bufLen
    exact (Output.Fits.put _).bind ((Output.Fits.put _).bind ((Output.Fits.put _).bind
      ((Output.Fits.put _).bind ((Output.Fits.put _).bind (Output.Fits.put _)))))

theorem Auth3.encodes (m : Auth3) : Encodes m.encodeInto m.bytes := by
  apply encodes_guarded
  · simp [Auth3.bytes]
  · intro bufLen
    exact Output.Fits.write _

theorem authAckEncode_encodes : Encodes authAckEncodeInto [ackByte] :=
  encodes_guarded rfl fun _ => Output.Fits.write _

theorem writeHeader_fits (bufLen : ℕ) (h : Header) :
    Output.Fits bufLen (writeHeader h) h.bytes := by
  have hbytes : h.bytes = [h.version] ++ ([h.pktType] ++ (natLE 2 h.flags.toNat
      ++ (h.sessionId.val ++ natLE 4 h.seq.toNat))) := by
    simp [Header.bytes]
  rw [hbytes]
  exact (Output.Fits.write _).bind ((Output.Fits.write _).bind ((Output.Fits.write _).bind
    ((Output.Fits.write _).bind (Output.Fits.write _))))

theorem authHeaderEncode_encodes (h : Header) : Encodes (authHeaderEncodeInto h) h.bytes :=
  encodes_guarded h.bytes_length.symm fun bufLen => writeHeader_fits bufLen h

theorem authPacketBuild_encodes (ty : UInt8) (sid : SessionId) (seq : UInt32)
    {payload : List UInt8} (hp : payload.length ≤ maxPayload) :
    Encodes (authPacketBuildInto ty sid seq payload) (frame ty sid seq payload) := by
  have hno : ¬ payload.length > maxPayload := Nat.not_lt.mpr hp
  unfold authPacketBuildInto
  simp only [if_neg hno]
  apply encodes_guarded
  · rw [frame_length]
    rfl
  · intro bufLen
    apply Output.Fits.bind
    · intro s hs
      rw [Header.bytes_length] at hs
      rw [checked, if_neg (by simp only [headerLen]; omega)]
      exact writeHeader_fits bufLen _ s (by rwa [Header.bytes_length])
    · exact Output.Fits.write payload

theorem authPacketBuildInto_fails (ty : UInt8) (sid : SessionId) (seq : UInt32)
    (payload : List UInt8) (pktLen n : ℕ) (h : pktLen < headerLen + payload.length) :
    ∃ e, (authPacketBuildInto ty sid seq payload pktLen).exec ⟨[], n⟩ = (.error e, ⟨[], n⟩) := by
  by_cases hp : payload.length ≤ maxPayload
  · exact ⟨_, (authPacketBuild_encodes ty sid seq hp).fails pktLen n (by rwa [frame_length])⟩
  · exact ⟨.payloadTooLarge, by rw [authPacketBuildInto, if_pos (Nat.not_le.mp hp)]; rfl⟩

/-- The handlers see what the caller of `auth_packet_build` has. -/
theorem authPacketBuild_eq (ty : UInt8) (sid : SessionId) (seq : UInt32) (payload : List UInt8)
    (pktLen n : ℕ) :
    authPacketBuild ty sid seq payload pktLen
      = Output.result ((authPacketBuildInto ty sid seq payload pktLen).exec ⟨[], n⟩) := by
  by_cases hp : payload.length ≤ maxPayload
  · have henc := authPacketBuild_encodes ty sid seq hp
    rw [authPacketBuild, ensure_pos hp, Except.ok_bind']
    by_cases hl : headerLen + payload.length ≤ pktLen
    · rw [ensure_pos hl, henc.fits pktLen n (by rwa [frame_length]), Output.result_ok]
      rfl
    · rw [ensure_neg hl, henc.fails pktLen n (by rw [frame_length]; exact Nat.not_le.mp hl)]
      rfl
  · rw [authPacketBuild, ensure_neg hp, authPacketBuildInto, if_pos (Nat.not_le.mp hp)]
    rfl

/-! ## Messages of any type -/

/-- A message. -/
inductive Message where
  | setup1 (m : Setup1)
  | setup2 (m : Setup2)
  | setup3 (m : Setup3)
  | setupAck
  | auth1 (m : Auth1)
  | auth2 (m : Auth2)
  | auth3 (m : Auth3)
  | authAck

namespace Message

/-- Its type. -/
def type : Message → MsgType
  | .setup1 _ => .setup1
  | .setup2 _ => .setup2
  | .setup3 _ => .setup3
  | .setupAck => .setupAck
  | .auth1 _ => .auth1
  | .auth2 _ => .auth2
  | .auth3 _ => .auth3
  | .authAck => .authAck

/-- Its layout. -/
def bytes : Message → List UInt8
  | .setup1 m => m.bytes
  | .setup2 m => m.bytes
  | .setup3 m => m.bytes
  | .setupAck => [ackByte]
  | .auth1 m => m.bytes
  | .auth2 m => m.bytes
  | .auth3 m => m.bytes
  | .authAck => [ackByte]

/-- The sizes of the arrays in the C structures. -/
def Bounded : Message → Prop
  | .setup1 m => m.pairingToken.length ≤ maxPairingToken
  | .auth1 m => m.branches.length ≤ maxRoles
  | _ => True

/-- Its encoder, as the handlers call it. -/
def encode : Message → ℕ → Except AuthErr (List UInt8)
  | .setup1 m => authSetup1Encode m
  | .setup2 m => authSetup2Encode m
  | .setup3 m => authSetup3Encode m
  | .setupAck => authAckEncode
  | .auth1 m => authAuth1Encode m
  | .auth2 m => authAuth2Encode m
  | .auth3 m => authAuth3Encode m
  | .authAck => authAckEncode

/-- Its encoder, on the buffer and the length of the caller. -/
def encodeInto : Message → ℕ → Encoder
  | .setup1 m => m.encodeInto
  | .setup2 m => m.encodeInto
  | .setup3 m => m.encodeInto
  | .setupAck => authAckEncodeInto
  | .auth1 m => m.encodeInto
  | .auth2 m => m.encodeInto
  | .auth3 m => m.encodeInto
  | .authAck => authAckEncodeInto

/-- The decoder of a type. -/
def decode : MsgType → List UInt8 → Except AuthErr Message
  | .setup1, b => (authSetup1Decode b).map .setup1
  | .setup2, b => (authSetup2Decode b).map .setup2
  | .setup3, b => (authSetup3Decode b).map .setup3
  | .setupAck, b => (authAckDecode b).map fun _ => .setupAck
  | .auth1, b => (authAuth1Decode b).map .auth1
  | .auth2, b => (authAuth2Decode b).map .auth2
  | .auth3, b => (authAuth3Decode b).map .auth3
  | .authAck, b => (authAckDecode b).map fun _ => .authAck

theorem encodes {m : Message} (h : m.Bounded) : Encodes m.encodeInto m.bytes := by
  cases m with
  | setup1 m => exact Setup1.encodes h
  | setup2 m => exact m.encodes
  | setup3 m => exact m.encodes
  | setupAck => exact authAckEncode_encodes
  | auth1 m => exact Auth1.encodes h
  | auth2 m => exact m.encodes
  | auth3 m => exact m.encodes
  | authAck => exact authAckEncode_encodes

theorem decode_bytes {m : Message} (h : m.Bounded) : decode m.type m.bytes = .ok m := by
  cases m with
  | setup1 m => exact congrArg (Except.map _) (Setup1.decode_bytes h)
  | setup2 m => exact congrArg (Except.map _) m.decode_bytes
  | setup3 m => exact congrArg (Except.map _) m.decode_bytes
  | setupAck => rfl
  | auth1 m => exact congrArg (Except.map _) (Auth1.decode_bytes h)
  | auth2 m => exact congrArg (Except.map _) m.decode_bytes
  | auth3 m => exact congrArg (Except.map _) m.decode_bytes
  | authAck => rfl

/-- What a decoder accepts is the layout of what it returns. -/
theorem bytes_of_decode {ty : MsgType} {b : List UInt8} {m : Message} (h : decode ty b = .ok m) :
    m.type = ty ∧ m.Bounded ∧ m.bytes = b := by
  cases ty with
  | setup1 =>
      obtain ⟨m, hm, rfl⟩ := Except.map_eq_ok_iff.mp h
      obtain ⟨hb, hlen⟩ := Setup1.bytes_of_decode hm
      exact ⟨rfl, hlen, hb⟩
  | setup2 =>
      obtain ⟨m, hm, rfl⟩ := Except.map_eq_ok_iff.mp h
      exact ⟨rfl, trivial, Setup2.bytes_of_decode hm⟩
  | setup3 =>
      obtain ⟨m, hm, rfl⟩ := Except.map_eq_ok_iff.mp h
      exact ⟨rfl, trivial, Setup3.bytes_of_decode hm⟩
  | setupAck =>
      obtain ⟨u, hm, rfl⟩ := Except.map_eq_ok_iff.mp h
      exact ⟨rfl, trivial, (ensure_eq_ok_iff.mp hm).symm⟩
  | auth1 =>
      obtain ⟨m, hm, rfl⟩ := Except.map_eq_ok_iff.mp h
      obtain ⟨hb, hlen⟩ := Auth1.bytes_of_decode hm
      exact ⟨rfl, hlen, hb⟩
  | auth2 =>
      obtain ⟨m, hm, rfl⟩ := Except.map_eq_ok_iff.mp h
      exact ⟨rfl, trivial, Auth2.bytes_of_decode hm⟩
  | auth3 =>
      obtain ⟨m, hm, rfl⟩ := Except.map_eq_ok_iff.mp h
      exact ⟨rfl, trivial, Auth3.bytes_of_decode hm⟩
  | authAck =>
      obtain ⟨u, hm, rfl⟩ := Except.map_eq_ok_iff.mp h
      exact ⟨rfl, trivial, (ensure_eq_ok_iff.mp hm).symm⟩

/-- The handlers see what the caller of the encoder has. -/
theorem encode_eq {m : Message} (h : m.Bounded) (bufLen n : ℕ) :
    m.encode bufLen = Output.result ((m.encodeInto bufLen).exec ⟨[], n⟩) := by
  have hemit : m.encode bufLen = emit m.bytes bufLen := by
    cases m with
    | setup1 m =>
        have hlen : m.pairingToken.length ≤ maxPairingToken := h
        show authSetup1Encode m bufLen = _
        rw [authSetup1Encode, ensure_pos hlen]
        rfl
    | auth1 m =>
        have hlen : m.branches.length ≤ maxRoles := h
        show authAuth1Encode m bufLen = _
        rw [authAuth1Encode, ensure_pos hlen]
        rfl
    | _ => rfl
  rw [hemit, emit]
  by_cases hl : m.bytes.length ≤ bufLen
  · rw [ensure_pos hl, (encodes h).fits bufLen n hl, Output.result_ok]
    rfl
  · rw [ensure_neg hl, (encodes h).fails bufLen n (by omega)]
    rfl

theorem encode_of_room {m : Message} (h : m.Bounded) {bufLen : ℕ}
    (hl : m.bytes.length ≤ bufLen) : m.encode bufLen = .ok m.bytes := by
  rw [encode_eq h bufLen 0, (encodes h).fits bufLen 0 hl, Output.result_ok]

/-- Every payload fits a packet. -/
theorem bytes_length_le {m : Message} (h : m.Bounded) : m.bytes.length ≤ maxPayload := by
  have hmax : maxPayload = 2024 := rfl
  cases m with
  | setup1 m =>
      have h128 : m.pairingToken.length ≤ 128 := h
      simp [bytes, Setup1.bytes]
      omega
  | setup2 m => simp [bytes, Setup2.bytes, hmax]
  | setup3 m => simp [bytes, Setup3.bytes, hmax]
  | setupAck => simp [bytes, hmax]
  | auth1 m =>
      have h8 : m.branches.length ≤ 8 := h
      rw [bytes, Auth1.bytes_length]
      omega
  | auth2 m => simp [bytes, Auth2.bytes, hmax]
  | auth3 m => simp [bytes, Auth3.bytes, hmax]
  | authAck => simp [bytes, hmax]

end Message

/-! ## The codec -/

/-- Framing a message within the bounds and decoding it gives it back, with its header.  Bytes
that a decoder accepts are encoded again as they were.  An encoder that has no room fails and
leaves the length of the caller alone. -/
theorem framed_codec :
    (∀ (m : Message) (sid : SessionId) (seq : UInt32) (bufLen pktLen : ℕ), m.Bounded →
      m.bytes.length ≤ bufLen → headerLen + m.bytes.length ≤ pktLen →
      ∃ payload pkt hdr, m.encode bufLen = .ok payload ∧
        authPacketBuild m.type.pktType sid seq payload pktLen = .ok pkt ∧
        authHeaderDecode pkt = .ok (hdr, payload) ∧
        (hdr.sessionId = sid ∧ hdr.seq = seq ∧ hdr.pktType = m.type.pktType) ∧
        Message.decode m.type payload = .ok m) ∧
    (∀ (ty : MsgType) (b : List UInt8) (m : Message), Message.decode ty b = .ok m →
      m.type = ty ∧ m.Bounded ∧ ∀ bufLen, b.length ≤ bufLen → m.encode bufLen = .ok b) ∧
    (∀ (m : Message) (bufLen n : ℕ), m.Bounded →
      m.encode bufLen = Output.result ((m.encodeInto bufLen).exec ⟨[], n⟩) ∧
      (bufLen < m.bytes.length →
        (m.encodeInto bufLen).exec ⟨[], n⟩ = (.error .bufferTooSmall, ⟨[], n⟩))) ∧
    (∀ hdr : Header, Encodes (authHeaderEncodeInto hdr) hdr.bytes) ∧
    ∀ (ty : UInt8) (sid : SessionId) (seq : UInt32) (payload : List UInt8) (pktLen n : ℕ),
      authPacketBuild ty sid seq payload pktLen
          = Output.result ((authPacketBuildInto ty sid seq payload pktLen).exec ⟨[], n⟩) ∧
      (pktLen < headerLen + payload.length → ∃ e,
        (authPacketBuildInto ty sid seq payload pktLen).exec ⟨[], n⟩ = (.error e, ⟨[], n⟩)) := by
  refine ⟨?_, ?_, ?_, authHeaderEncode_encodes, ?_⟩
  · intro m sid seq bufLen pktLen hm hbuf hpkt
    have hbuild : authPacketBuild m.type.pktType sid seq m.bytes pktLen
        = .ok (frame m.type.pktType sid seq m.bytes) :=
      authPacketBuild_eq_ok_iff.mpr ⟨Message.bytes_length_le hm, hpkt, rfl⟩
    exact ⟨m.bytes, _, _, Message.encode_of_room hm hbuf, hbuild, authHeaderDecode_frame _ _ _ _,
      ⟨rfl, rfl, rfl⟩, Message.decode_bytes hm⟩
  · intro ty b m h
    obtain ⟨hty, hm, rfl⟩ := Message.bytes_of_decode h
    exact ⟨hty, hm, fun bufLen hbuf => Message.encode_of_room hm hbuf⟩
  · intro m bufLen n hm
    exact ⟨Message.encode_eq hm bufLen n, (Message.encodes hm).fails bufLen n⟩
  · intro ty sid seq payload pktLen n
    exact ⟨authPacketBuild_eq ty sid seq payload pktLen n,
      authPacketBuildInto_fails ty sid seq payload pktLen n⟩

end C

end ZkArche
