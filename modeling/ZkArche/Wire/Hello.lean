import ZkArche.Lib.Delimited
import ZkArche.Lib.Output
import ZkArche.Wire.Header

/-!
# HELLO

A HELLO advertises a version, a list of suites and capability bits.  A list of extensions follows
them, each with a tag and a length, so that a later version can add to it.

```text
version u8 | suite_count u16 | suite_id u16 ... | caps u64 | TLV ...
tlv := tag u16 | len u16 | value
```

The Rust decoder takes the TLVs off a slice that gets shorter.  The C decoder moves an offset
through the buffer, and leaves its loop when `auth_tlv_read` reports that nothing is left.

A C record has room for 8 suites, 16 bytes of vendor and 64 bytes of model.  A vendor or model
that does not fit is skipped.  An absent one is empty, so C does not tell an empty value from
none.
-/

namespace ZkArche

/-! ## Tags -/

/-- `AUTH_TLV_MIN_VERSION` / `MIN_VERSION`. -/
def tlvMinVersion : UInt16 := 0x0001
/-- `AUTH_TLV_MTU_HINT` / `MTU_HINT`. -/
def tlvMtuHint : UInt16 := 0x0004
/-- `AUTH_TLV_VENDOR_ID` / `VENDOR_ID`. -/
def tlvVendorId : UInt16 := 0x0100
/-- `AUTH_TLV_DEVICE_MODEL` / `DEVICE_MODEL`. -/
def tlvDeviceModel : UInt16 := 0x0101

/-- `u16::from_le_bytes` / `load_u16_le` at an offset. -/
def loadU16LE (buf : List UInt8) (off : ℕ) : UInt16 := UInt16.ofNat (leNat ((buf.drop off).take 2))

/-- A `u64` at an offset. -/
def loadU64LE (buf : List UInt8) (off : ℕ) : UInt64 := UInt64.ofNat (leNat ((buf.drop off).take 8))

/-- The suite list at an offset. -/
def loadSuites (buf : List UInt8) (off n : ℕ) : List UInt16 :=
  (List.range n).map fun i => loadU16LE buf (off + 2 * i)

/-! ## Rust -/

namespace Rust

/-- `Hello`. -/
@[ext] structure Hello where
  version : UInt8
  minVersion : UInt8
  suites : List UInt16
  caps : UInt64
  mtuHint : Option UInt16
  vendorId : Option (List UInt8)
  deviceModel : Option (List UInt8)
deriving DecidableEq

/-- `TlvWriter::put`. -/
def tlvPut (out : List UInt8) (tag : UInt16) (value : List UInt8) :
    Except ProtoError (List UInt8) := do
  ensure (value.length ≤ 0xFFFF) (.wire .payloadTooLarge "TLV value > u16")
  return out ++ natLE 2 tag.toNat ++ natLE 2 value.length ++ value

/-- `TlvWriter::put` and `unwrap`. -/
def tlvPutUnwrap (tag : UInt16) (value : List UInt8) (out : List UInt8) :
    Except Stop (List UInt8) :=
  match tlvPut out tag value with
  | .ok out => .ok out
  | .error _ => .error (.panic "called `Result::unwrap()` on an `Err` value")

/-- Put and unwrap a value that is there. -/
def tlvPutSome (tag : UInt16) : Option (List UInt8) → List UInt8 → Except Stop (List UInt8)
  | some value, out => tlvPutUnwrap tag value out
  | none, out => .ok out

/-- `Hello::encode`. -/
def Hello.encode (h : Hello) : Except Stop (List UInt8) := do
  let out := [h.version] ++ natLE 2 h.suites.length ++ h.suites.flatMap (fun s => natLE 2 s.toNat)
    ++ natLE 8 h.caps.toNat
  let out ← tlvPutUnwrap tlvMinVersion [h.minVersion] out
  let out ← tlvPutSome tlvMtuHint (h.mtuHint.map fun mtu => natLE 2 mtu.toNat) out
  let out ← tlvPutSome tlvVendorId h.vendorId out
  tlvPutSome tlvDeviceModel h.deviceModel out

/-- `TlvIter::next`: a TLV or an error, and the new slice. -/
def tlvIterNext (buf : List UInt8) :
    Option (Except ProtoError (UInt16 × List UInt8) × List UInt8) :=
  if buf = [] then none
  else if buf.length < 4 then some (.error (.wire .malformedPacket "truncated TLV header"), [])
  else
    let tag := loadU16LE buf 0
    let len := (loadU16LE buf 2).toNat
    if buf.length < 4 + len then
      some (.error (.wire .malformedPacket "truncated TLV value"), [])
    else some (.ok (tag, (buf.drop 4).take len), buf.drop (4 + len))

theorem tlvIterNext_length {buf rest : List UInt8}
    {r : Except ProtoError (UInt16 × List UInt8)} (h : tlvIterNext buf = some (r, rest)) :
    rest.length < buf.length := by
  unfold tlvIterNext at h
  split at h
  next => cases h
  next hne =>
    have hpos := List.length_pos_iff.mpr hne
    split at h
    next =>
      cases h
      exact hpos
    next =>
      simp only at h
      split at h
      next =>
        cases h
        exact hpos
      next =>
        cases h
        rw [List.length_drop]
        omega

/-- The arm for a tag in the loop of `Hello::decode`. -/
def Hello.onTlv (h : Hello) (tag : UInt16) (value : List UInt8) : Except ProtoError Hello :=
  if tag = tlvMinVersion then do
    ensure (value.length = 1) (.wire .malformedPacket "MIN_VERSION must be 1 byte")
    return { h with minVersion := value.getD 0 0 }
  else if tag = tlvMtuHint then do
    ensure (value.length = 2) (.wire .malformedPacket "MTU_HINT must be 2 bytes")
    return { h with mtuHint := some (loadU16LE value 0) }
  else if tag = tlvVendorId then .ok { h with vendorId := some value }
  else if tag = tlvDeviceModel then .ok { h with deviceModel := some value }
  else .ok h

/-- The loop of `Hello::decode`.  The four variables it updates are kept in the result. -/
def Hello.tlvLoop (h : Hello) (buf : List UInt8) : Except ProtoError Hello :=
  match _hnext : tlvIterNext buf with
  | none => .ok h
  | some (.error e, _) => .error e
  | some (.ok (tag, value), rest) => do
      let h ← h.onTlv tag value
      Hello.tlvLoop h rest
termination_by buf.length
decreasing_by exact tlvIterNext_length _hnext

/-- `Hello::decode`. -/
def Hello.decode (bytes : List UInt8) : Except ProtoError Hello := do
  ensure (1 + 2 ≤ bytes.length) (.wire .payloadTooShort "HELLO truncated")
  let version := bytes.getD 0 0
  let n := (loadU16LE bytes 1).toNat
  let suitesEnd := 3 + 2 * n
  ensure (suitesEnd + 8 ≤ bytes.length) (.wire .payloadTooShort "HELLO suite list truncated")
  Hello.tlvLoop
    { version := version
      minVersion := version
      suites := loadSuites bytes 3 n
      caps := loadU64LE bytes suitesEnd
      mtuHint := none
      vendorId := none
      deviceModel := none }
    (bytes.drop (suitesEnd + 8))

end Rust

/-! ## C -/

namespace C

/-- The size of `suites` in `auth_hello_t`. -/
def helloMaxSuites : ℕ := 8
/-- The size of `vendor_id`. -/
def helloMaxVendor : ℕ := 16
/-- The size of `device_model`. -/
def helloMaxModel : ℕ := 64

/-- `auth_hello_t`.  The lists are the used parts of the arrays.  `mtu_hint` counts when
`has_mtu_hint` is set. -/
@[ext] structure Hello where
  version : UInt8
  minVersion : UInt8
  suites : List UInt16
  caps : UInt64
  mtuHint : Option UInt16
  vendorId : List UInt8
  deviceModel : List UInt8
deriving DecidableEq

/-- `auth_tlv_write`. -/
def authTlvWrite (bufLen : ℕ) (tag : UInt16) (value : List UInt8) :
    Routine AuthErr (Output UInt8) Unit :=
  if value.length > 0xFFFF then throw .payloadTooLarge
  else Output.put bufLen .bufferTooSmall
    (natLE 2 tag.toNat ++ natLE 2 value.length ++ value)

/-- Write an extension that is there. -/
def authTlvWriteSome (bufLen : ℕ) (tag : UInt16) :
    Option (List UInt8) → Routine AuthErr (Output UInt8) Unit
  | some value => authTlvWrite bufLen tag value
  | none => pure ()

/-- A value that is absent when its length is 0. -/
def present (value : List UInt8) : Option (List UInt8) :=
  if value.length ≠ 0 then some value else none

/-- The fixed fields of `auth_hello_encode`. -/
def Hello.writeFixed (h : Hello) : Routine AuthErr (Output UInt8) Unit := do
  Output.write [h.version]
  Output.write (natLE 2 h.suites.length)
  Output.each (fun s => Output.write (natLE 2 s.toNat)) h.suites
  Output.write (natLE 8 h.caps.toNat)

/-- The extensions of `auth_hello_encode`. -/
def Hello.writeExtensions (h : Hello) (bufLen : ℕ) : Routine AuthErr (Output UInt8) Unit := do
  authTlvWrite bufLen tlvMinVersion [h.minVersion]
  authTlvWriteSome bufLen tlvMtuHint (h.mtuHint.map fun mtu => natLE 2 mtu.toNat)
  authTlvWriteSome bufLen tlvVendorId (present h.vendorId)
  authTlvWriteSome bufLen tlvDeviceModel (present h.deviceModel)

/-- `auth_hello_encode`. -/
def authHelloEncode (h : Hello) (bufLen : ℕ) : Routine AuthErr (Output UInt8) Unit :=
  if h.suites.length > helloMaxSuites then throw .invalidArgument
  else if bufLen < 1 + 2 + 2 * h.suites.length + 8 then throw .bufferTooSmall
  else (do
    h.writeFixed
    h.writeExtensions bufLen) >>= fun _ => Output.report

/-- `auth_tlv_read`: tag, value and the new offset. -/
def authTlvRead (buf : List UInt8) (off : ℕ) : Except AuthErr (UInt16 × List UInt8 × ℕ) :=
  if off ≥ buf.length then .error .payloadTooShort
  else if buf.length - off < 4 then .error .malformedPacket
  else
    let tag := loadU16LE buf off
    let len := (loadU16LE buf (off + 2)).toNat
    if 4 + len > buf.length - off then .error .malformedPacket
    else .ok (tag, (buf.drop (off + 4)).take len, off + (4 + len))

theorem authTlvRead_offset {buf value : List UInt8} {off off' : ℕ} {tag : UInt16}
    (h : authTlvRead buf off = .ok (tag, value, off')) : off < off' := by
  unfold authTlvRead at h
  split at h
  next => cases h
  next =>
    split at h
    next => cases h
    next =>
      simp only at h
      split at h
      next => cases h
      next =>
        cases h
        omega

/-- The arm for a tag in the loop of `auth_hello_decode`. -/
def Hello.onTlv (h : Hello) (tag : UInt16) (value : List UInt8) : Except AuthErr Hello :=
  if tag = tlvMinVersion then do
    ensure (value.length = 1) .malformedPacket
    return { h with minVersion := value.getD 0 0 }
  else if tag = tlvMtuHint then do
    ensure (value.length = 2) .malformedPacket
    return { h with mtuHint := some (loadU16LE value 0) }
  else if tag = tlvVendorId then
    if value.length > helloMaxVendor then .ok h else .ok { h with vendorId := value }
  else if tag = tlvDeviceModel then
    if value.length > helloMaxModel then .ok h else .ok { h with deviceModel := value }
  else .ok h

/-- The loop of `auth_hello_decode`. -/
def Hello.tlvLoop (buf : List UInt8) (h : Hello) (off : ℕ) : Except AuthErr Hello :=
  if _hoff : off < buf.length then
    match _hread : authTlvRead buf off with
    | .error .payloadTooShort => .ok h
    | .error e => .error e
    | .ok (tag, value, off') => do
        let h ← h.onTlv tag value
        Hello.tlvLoop buf h off'
  else .ok h
termination_by buf.length - off
decreasing_by
  have := authTlvRead_offset _hread
  omega

/-- `auth_hello_decode`. -/
def authHelloDecode (buf : List UInt8) : Except AuthErr Hello := do
  ensure (3 ≤ buf.length) .payloadTooShort
  let version := buf.getD 0 0
  let nsu := (loadU16LE buf 1).toNat
  ensure (nsu ≤ helloMaxSuites) .malformedPacket
  ensure (nsu * 2 + 8 ≤ buf.length - 3) .payloadTooShort
  Hello.tlvLoop buf
    { version := version
      minVersion := version
      suites := loadSuites buf 3 nsu
      caps := loadU64LE buf (3 + 2 * nsu)
      mtuHint := none
      vendorId := []
      deviceModel := [] }
    (3 + 2 * nsu + 8)

end C

end ZkArche
