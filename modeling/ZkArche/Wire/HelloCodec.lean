import ZkArche.Lib.SameOutcome
import ZkArche.Wire.Hello

/-!
# The HELLO codec

The extensions of a HELLO are a stream of TLVs (`tlvFormat`).  Both decoders fold their arm for a
tag over the complete TLVs of the stream.  Both accept an empty tail, and any other tail is a
truncated TLV, which both refuse.

Neither arm does anything on a tag it does not know.  So a decoder cannot tell an encoding from
one with unknown TLVs inserted anywhere (`hello_forward_compatible`).  On TLVs that fit the C
record the two arms do the same, and so do the decoders (`hello_decoders_agree`).
-/

namespace ZkArche

/-! ## Numbers at an offset -/

theorem loadU16LE_append {pre rest : List UInt8} {off : ℕ} (hoff : off = pre.length) (x : ℕ) :
    loadU16LE (pre ++ (natLE 2 x ++ rest)) off = UInt16.ofNat x := by
  rw [loadU16LE, hoff, List.drop_left, List.take_left' (natLE_length 2 x), leNat_natLE_mod]
  apply UInt16.toNat_inj.mp
  simp

theorem loadU16LE_natLE (x : UInt16) : loadU16LE (natLE 2 x.toNat) 0 = x := by
  have h : loadU16LE ([] ++ (natLE 2 x.toNat ++ [])) 0 = UInt16.ofNat x.toNat :=
    loadU16LE_append rfl x.toNat
  rwa [List.append_nil, List.nil_append, UInt16.ofNat_toNat] at h

theorem loadU64LE_append {pre rest : List UInt8} {off : ℕ} (hoff : off = pre.length)
    (x : UInt64) : loadU64LE (pre ++ (natLE 8 x.toNat ++ rest)) off = x := by
  rw [loadU64LE, hoff, List.drop_left, List.take_left' (natLE_length 8 x.toNat),
    leNat_natLE x.toNat_lt, UInt64.ofNat_toNat]

theorem loadU16LE_drop (buf : List UInt8) (off i : ℕ) :
    loadU16LE (buf.drop off) i = loadU16LE buf (off + i) := by
  rw [loadU16LE, loadU16LE, List.drop_drop]

/-- A suite list is read back. -/
theorem loadSuites_append (pre rest : List UInt8) (suites : List UInt16) :
    loadSuites (pre ++ (suites.flatMap (fun s => natLE 2 s.toNat) ++ rest)) pre.length
      suites.length = suites := by
  induction suites generalizing pre with
  | nil => rfl
  | cons s suites ih =>
      have hih := ih (pre ++ natLE 2 s.toNat)
      rw [List.length_append, natLE_length, List.append_assoc] at hih
      have htail : ∀ i, pre.length + 2 * (i + 1) = pre.length + 2 + 2 * i := by
        intro i
        omega
      have hfirst : loadU16LE (pre ++ (natLE 2 s.toNat ++
          (suites.flatMap (fun s => natLE 2 s.toNat) ++ rest))) pre.length = s :=
        (loadU16LE_append rfl s.toNat).trans UInt16.ofNat_toNat
      simp only [loadSuites, List.length_cons, List.range_succ_eq_map, List.map_cons, List.map_map,
        Function.comp_def, List.flatMap_cons, List.append_assoc, Nat.mul_zero, Nat.add_zero,
        hfirst, Nat.succ_eq_add_one, htail]
      exact congrArg (s :: ·) hih

/-! ## TLVs -/

/-- A tag, and a value whose length fits the length field. -/
structure Tlv where
  tag : UInt16
  value : List UInt8
  short : value.length ≤ 0xFFFF

/-- The bytes of a TLV. -/
def Tlv.bytes (t : Tlv) : List UInt8 :=
  natLE 2 t.tag.toNat ++ (natLE 2 t.value.length ++ t.value)

theorem Tlv.bytes_length (t : Tlv) : t.bytes.length = 4 + t.value.length := by
  simp only [bytes, List.length_append, natLE_length]
  omega

/-- The length field at the front of a buffer. -/
def tlvLength (buf : List UInt8) : ℕ := (loadU16LE buf 2).toNat

theorem tlvLength_le (buf : List UInt8) : tlvLength buf ≤ 0xFFFF := by
  have := (loadU16LE buf 2).toNat_lt
  rw [tlvLength]
  omega

/-- The first TLV of a buffer, if it is all there. -/
def Tlv.read (buf : List UInt8) : Option (Tlv × List UInt8) :=
  if 4 + tlvLength buf ≤ buf.length then
    some (⟨loadU16LE buf 0, (buf.drop 4).take (tlvLength buf), by
      rw [List.length_take]
      exact le_trans (min_le_left _ _) (tlvLength_le buf)⟩, buf.drop (4 + tlvLength buf))
  else none

theorem Tlv.tag_bytes_append (t : Tlv) (rest : List UInt8) :
    loadU16LE (t.bytes ++ rest) 0 = t.tag := by
  rw [bytes, List.append_assoc]
  have h : loadU16LE ([] ++ (natLE 2 t.tag.toNat ++ (natLE 2 t.value.length ++ t.value ++ rest))) 0
      = UInt16.ofNat t.tag.toNat := loadU16LE_append rfl t.tag.toNat
  exact h.trans UInt16.ofNat_toNat

theorem Tlv.length_bytes_append (t : Tlv) (rest : List UInt8) :
    tlvLength (t.bytes ++ rest) = t.value.length := by
  have hlt : t.value.length < 2 ^ 16 := Nat.lt_succ_of_le t.short
  rw [tlvLength, bytes, List.append_assoc, List.append_assoc,
    loadU16LE_append (natLE_length 2 _).symm, UInt16.toNat_ofNat_of_lt' hlt]

theorem Tlv.value_bytes_append (t : Tlv) (rest : List UInt8) :
    ((t.bytes ++ rest).drop 4).take t.value.length = t.value := by
  have hhead : (natLE 2 t.tag.toNat ++ natLE 2 t.value.length).length = 4 := by
    rw [List.length_append, natLE_length, natLE_length]
  rw [bytes, ← List.append_assoc (natLE 2 t.tag.toNat), List.append_assoc,
    List.drop_left' hhead, List.take_left]

theorem Tlv.rest_bytes_append (t : Tlv) (rest : List UInt8) :
    (t.bytes ++ rest).drop (4 + t.value.length) = rest :=
  List.drop_left' t.bytes_length

theorem Tlv.read_eq_some_iff {buf rest : List UInt8} {t : Tlv} :
    Tlv.read buf = some (t, rest) ↔ buf = t.bytes ++ rest := by
  constructor
  · intro h
    unfold Tlv.read at h
    split at h
    next hlen =>
      cases h
      have hvalue : ((buf.drop 4).take (tlvLength buf)).length = tlvLength buf := by
        rw [List.length_take, List.length_drop]
        omega
      have htwo : ∀ off, off + 2 ≤ buf.length →
          natLE 2 (loadU16LE buf off).toNat = (buf.drop off).take 2 := by
        intro off hoff
        have hl : ((buf.drop off).take 2).length = 2 := by
          rw [List.length_take, List.length_drop]
          omega
        have hlt := leNat_lt ((buf.drop off).take 2)
        rw [hl] at hlt
        have hread := natLE_leNat ((buf.drop off).take 2)
        rw [hl] at hread
        rw [loadU16LE, UInt16.toNat_ofNat_of_lt' hlt, hread]
      rw [Tlv.bytes, hvalue, htwo 0 (by omega)]
      change buf = (_ ++ (natLE 2 (loadU16LE buf 2).toNat ++ _)) ++ _
      rw [htwo 2 (by omega), List.drop_zero, List.append_assoc, List.append_assoc]
      have h1 := List.take_append_drop 2 buf
      have h2 := List.take_append_drop 2 (buf.drop 2)
      have h3 := List.take_append_drop (tlvLength buf) (buf.drop 4)
      rw [List.drop_drop] at h2 h3
      rw [h3, h2, h1]
    next => cases h
  · rintro rfl
    have hlen := t.length_bytes_append rest
    have hle : 4 + t.value.length ≤ (t.bytes ++ rest).length := by
      rw [List.length_append, t.bytes_length]
      omega
    simp only [Tlv.read, hlen, if_pos hle, t.tag_bytes_append, t.value_bytes_append,
      t.rest_bytes_append]

/-- The TLVs as a delimited format. -/
def tlvFormat : Delimited Tlv where
  bytes := Tlv.bytes
  read := Tlv.read
  read_eq_some_iff := Tlv.read_eq_some_iff
  bytes_ne_nil := by
    intro t h
    have := t.bytes_length
    rw [h, List.length_nil] at this
    omega

/-- A tail without a TLV is too short for the TLV it announces. -/
theorem short_of_read {tail : List UInt8} (h : tlvFormat.read tail = none) :
    tail.length < 4 + tlvLength tail := by
  by_contra hle
  have hread : Tlv.read tail = none := h
  rw [Tlv.read, if_pos (Nat.not_lt.mp hle)] at hread
  cases hread

/-- No decoder of this version knows the tag. -/
def Tlv.Unknown (t : Tlv) : Prop :=
  t.tag ≠ tlvMinVersion ∧ t.tag ≠ tlvMtuHint ∧ t.tag ≠ tlvVendorId ∧ t.tag ≠ tlvDeviceModel

/-- An extension that is there or not. -/
def optTlv (tag : UInt16) (value : Option (List UInt8))
    (h : ∀ v, value = some v → v.length ≤ 0xFFFF) : List Tlv :=
  match value with
  | none => []
  | some v => [⟨tag, v, h v rfl⟩]

/-- A step over an extension that is there or not. -/
theorem foldlM_optTlv {σ ε : Type} {step : σ → Tlv → Except ε σ} {tag : UInt16}
    {value : Option (List UInt8)} {h : ∀ v, value = some v → v.length ≤ 0xFFFF} {s s' : σ}
    (hnone : value = none → s' = s)
    (hsome : ∀ v hv, value = some v → step s ⟨tag, v, hv⟩ = .ok s') :
    (optTlv tag value h).foldlM step s = .ok s' := by
  cases value with
  | none =>
      rw [hnone rfl]
      rfl
  | some v =>
      simp only [optTlv, List.foldlM_cons, List.foldlM_nil, hsome v (h v rfl) rfl]
      rfl

/-- The fields in front of the extensions. -/
def helloFixed (version : UInt8) (suites : List UInt16) (caps : UInt64) : List UInt8 :=
  [version] ++ (natLE 2 suites.length ++ (suites.flatMap (fun s => natLE 2 s.toNat)
    ++ natLE 8 caps.toNat))

section Fixed

variable (version : UInt8) {suites : List UInt16} (caps : UInt64) (exts : List UInt8)

theorem suiteBytes_length (suites : List UInt16) :
    (suites.flatMap fun s => natLE 2 s.toNat).length = 2 * suites.length := by
  induction suites with
  | nil => rfl
  | cons s suites ih =>
      rw [List.flatMap_cons, List.length_append, natLE_length, ih, List.length_cons]
      omega

theorem helloFixed_length :
    (helloFixed version suites caps).length = 3 + 2 * suites.length + 8 := by
  simp only [helloFixed, List.length_append, List.length_singleton, natLE_length,
    suiteBytes_length]
  omega

theorem helloFixed_count (hs : suites.length ≤ 0xFFFF) :
    (loadU16LE (helloFixed version suites caps ++ exts) 1).toNat = suites.length := by
  have hlt : suites.length < 2 ^ 16 := Nat.lt_succ_of_le hs
  have hone : 1 = [version].length := rfl
  rw [helloFixed, List.append_assoc, List.append_assoc, loadU16LE_append hone,
    UInt16.toNat_ofNat_of_lt' hlt]

theorem helloFixed_suites :
    loadSuites (helloFixed version suites caps ++ exts) 3 suites.length = suites := by
  have hpre : ([version] ++ natLE 2 suites.length).length = 3 := by
    rw [List.length_append, List.length_singleton, natLE_length]
  have h := loadSuites_append ([version] ++ natLE 2 suites.length) (natLE 8 caps.toNat ++ exts)
    suites
  rw [hpre] at h
  simpa only [helloFixed, List.append_assoc] using h

theorem helloFixed_caps :
    loadU64LE (helloFixed version suites caps ++ exts) (3 + 2 * suites.length) = caps := by
  have hpre : 3 + 2 * suites.length = ([version] ++ (natLE 2 suites.length
      ++ suites.flatMap fun s => natLE 2 s.toNat)).length := by
    simp only [List.length_append, List.length_singleton, natLE_length, suiteBytes_length]
    omega
  simpa only [helloFixed, List.append_assoc] using loadU64LE_append hpre caps

theorem helloFixed_drop :
    (helloFixed version suites caps ++ exts).drop (3 + 2 * suites.length + 8) = exts :=
  List.drop_left' (helloFixed_length version caps)

end Fixed

/-! ## The loops -/

namespace Rust

/-- The arm for a TLV. -/
def Hello.arm (h : Hello) (t : Tlv) : Except ProtoError Hello := h.onTlv t.tag t.value

/-- What the loop makes of the tail. -/
def Hello.onTail (h : Hello) (tail : List UInt8) : Except ProtoError Hello :=
  if tail = [] then .ok h
  else if tail.length < 4 then .error (.wire .malformedPacket "truncated TLV header")
  else .error (.wire .malformedPacket "truncated TLV value")

theorem tlvIterNext_bytes (t : Tlv) (rest : List UInt8) :
    tlvIterNext (t.bytes ++ rest) = some (.ok (t.tag, t.value), rest) := by
  have hlen : (t.bytes ++ rest).length = 4 + t.value.length + rest.length := by
    rw [List.length_append, t.bytes_length]
  have hne : t.bytes ++ rest ≠ [] := List.ne_nil_of_length_pos (by omega)
  have hl := t.length_bytes_append rest
  rw [tlvLength] at hl
  rw [tlvIterNext, if_neg hne, if_neg (by omega)]
  simp only [hl]
  rw [if_neg (by omega), t.tag_bytes_append, t.value_bytes_append, t.rest_bytes_append]

/-- One round of the loop. -/
theorem Hello.tlvLoop_next (h : Hello) (buf : List UInt8) :
    h.tlvLoop buf = match tlvIterNext buf with
      | none => .ok h
      | some (.error e, _) => .error e
      | some (.ok (tag, value), rest) => h.onTlv tag value >>= fun h => h.tlvLoop rest := by
  rw [Hello.tlvLoop]
  split <;> simp_all

/-- The loop folds the arms over the TLVs. -/
theorem Hello.tlvLoop_eq (h : Hello) (ts : List Tlv) {tail : List UInt8}
    (htail : tlvFormat.read tail = none) :
    h.tlvLoop (tlvFormat.stream ts ++ tail) =
      ts.foldlM Hello.arm h >>= fun h => h.onTail tail := by
  refine tlvFormat.loop_eq id Hello.tlvLoop ?_ ?_ htail rfl
  · intro h buf t rest hbuf
    refine ⟨rest, rfl, ?_⟩
    change buf = t.bytes ++ rest at hbuf
    rw [hbuf, h.tlvLoop_next, tlvIterNext_bytes]
    rfl
  · intro h buf hread
    have hshort : buf.length < 4 + (loadU16LE buf 2).toNat := short_of_read hread
    change h.tlvLoop buf = h.onTail buf
    rw [h.tlvLoop_next, Hello.onTail, tlvIterNext]
    by_cases hnil : buf = []
    · rw [if_pos hnil, if_pos hnil]
    · rw [if_neg hnil, if_neg hnil]
      simp only [if_pos hshort]
      by_cases hhead : buf.length < 4
      · rw [if_pos hhead, if_pos hhead]
      · rw [if_neg hhead, if_neg hhead]

/-- The decoder on the bytes of a HELLO. -/
theorem Hello.decode_fixed (version : UInt8) {suites : List UInt16} (caps : UInt64)
    (hs : suites.length ≤ 0xFFFF) (exts : List UInt8) :
    Hello.decode (helloFixed version suites caps ++ exts) =
      Hello.tlvLoop ⟨version, version, suites, caps, none, none, none⟩ exts := by
  have hlen : (helloFixed version suites caps).length = 3 + 2 * suites.length + 8 :=
    helloFixed_length version caps
  have hcount := helloFixed_count version caps exts hs
  simp only [Hello.decode]
  rw [ensure_pos (by rw [List.length_append]; omega), Except.ok_bind', hcount,
    ensure_pos (by rw [List.length_append]; omega), Except.ok_bind', helloFixed_suites,
    helloFixed_caps, helloFixed_drop]
  rfl

/-! ## The encoder -/

/-- The suites can be counted, and the values of the extensions fit. -/
structure Hello.Bounded (h : Hello) : Prop where
  suites : h.suites.length ≤ 0xFFFF
  vendor : ∀ v, h.vendorId = some v → v.length ≤ 0xFFFF
  model : ∀ m, h.deviceModel = some m → m.length ≤ 0xFFFF

theorem tlvPutUnwrap_eq {tag : UInt16} {value : List UInt8} (h : value.length ≤ 0xFFFF)
    (out : List UInt8) :
    tlvPutUnwrap tag value out = .ok (out ++ (⟨tag, value, h⟩ : Tlv).bytes) := by
  simp only [tlvPutUnwrap, tlvPut, ensure_pos h, Except.ok_bind', Except.pure_eq_ok, Tlv.bytes,
    List.append_assoc]

/-- The bytes of a HELLO with these extensions. -/
def Hello.withExtensions (h : Hello) (ts : List Tlv) : List UInt8 :=
  helloFixed h.version h.suites h.caps ++ tlvFormat.stream ts

theorem Hello.short_mtu (h : Hello) (v : List UInt8)
    (hv : (h.mtuHint.map fun mtu => natLE 2 mtu.toNat) = some v) : v.length ≤ 0xFFFF := by
  obtain ⟨mtu, -, rfl⟩ := Option.map_eq_some_iff.mp hv
  simp

/-- The extensions of a HELLO. -/
def Hello.extensions (h : Hello) (hb : h.Bounded) : List Tlv :=
  ⟨tlvMinVersion, [h.minVersion], by simp⟩ ::
    (optTlv tlvMtuHint (h.mtuHint.map fun mtu => natLE 2 mtu.toNat) h.short_mtu ++
      (optTlv tlvVendorId h.vendorId hb.vendor ++ optTlv tlvDeviceModel h.deviceModel hb.model))

theorem tlvPutSome_eq (tag : UInt16) {value : Option (List UInt8)}
    (h : ∀ v, value = some v → v.length ≤ 0xFFFF) (out : List UInt8) :
    tlvPutSome tag value out = .ok (out ++ tlvFormat.stream (optTlv tag value h)) := by
  cases value with
  | none => simp [tlvPutSome, optTlv]
  | some v =>
      rw [tlvPutSome, tlvPutUnwrap_eq (h v rfl)]
      simp [optTlv, tlvFormat, Delimited.stream]

/-- The encoder writes the fixed fields and the extensions. -/
theorem Hello.encode_eq (h : Hello) (hb : h.Bounded) :
    h.encode = .ok (h.withExtensions (h.extensions hb)) := by
  have hmin : [h.minVersion].length ≤ 0xFFFF := by simp
  simp only [Hello.encode, tlvPutUnwrap_eq hmin, Except.ok_bind', tlvPutSome_eq tlvMtuHint h.short_mtu,
    tlvPutSome_eq tlvVendorId hb.vendor, tlvPutSome_eq tlvDeviceModel hb.model]
  simp only [Hello.withExtensions, Hello.extensions, helloFixed, Delimited.stream_cons,
    Delimited.stream_append, List.append_assoc]
  rfl

/-- The arms read the extensions back. -/
theorem Hello.foldlM_extensions (h : Hello) (hb : h.Bounded) :
    (h.extensions hb).foldlM Hello.arm ⟨h.version, h.version, h.suites, h.caps, none, none, none⟩
      = .ok h := by
  obtain ⟨version, minVersion, suites, caps, mtu, vendor, model⟩ := h
  have hmtu : (optTlv tlvMtuHint (mtu.map fun mtu => natLE 2 mtu.toNat)
      (Hello.short_mtu ⟨version, minVersion, suites, caps, mtu, vendor, model⟩)).foldlM Hello.arm
        ⟨version, minVersion, suites, caps, none, none, none⟩
      = .ok ⟨version, minVersion, suites, caps, mtu, none, none⟩ := by
    apply foldlM_optTlv
    · intro hm
      rw [Option.map_eq_none_iff.mp hm]
    · intro v _ hv
      obtain ⟨m, rfl, rfl⟩ := Option.map_eq_some_iff.mp hv
      simp [Hello.arm, Hello.onTlv, loadU16LE_natLE, tlvMinVersion, tlvMtuHint]
  have hvendor : (optTlv tlvVendorId vendor hb.vendor).foldlM Hello.arm
        ⟨version, minVersion, suites, caps, mtu, none, none⟩
      = .ok ⟨version, minVersion, suites, caps, mtu, vendor, none⟩ := by
    apply foldlM_optTlv
    · intro hv
      rw [hv]
    · intro v _ hv
      rw [hv]
      rfl
  have hmodel : (optTlv tlvDeviceModel model hb.model).foldlM Hello.arm
        ⟨version, minVersion, suites, caps, mtu, vendor, none⟩
      = .ok ⟨version, minVersion, suites, caps, mtu, vendor, model⟩ := by
    apply foldlM_optTlv
    · intro hm
      rw [hm]
    · intro m _ hm
      rw [hm]
      rfl
  rw [Hello.extensions, List.foldlM_cons]
  change ((optTlv _ _ _ ++ (optTlv _ _ _ ++ optTlv _ _ _)).foldlM Hello.arm
    ⟨version, minVersion, suites, caps, none, none, none⟩) = _
  rw [List.foldlM_append, hmtu, Except.ok_bind', List.foldlM_append, hvendor, Except.ok_bind',
    hmodel]

end Rust

namespace C

/-! ## The C codec -/

/-- The arm for a TLV. -/
def Hello.arm (h : Hello) (t : Tlv) : Except AuthErr Hello := h.onTlv t.tag t.value

/-- What the loop makes of the tail. -/
def Hello.onTail (h : Hello) (tail : List UInt8) : Except AuthErr Hello :=
  if tail = [] then .ok h else .error .malformedPacket

theorem authTlvRead_bytes {buf rest : List UInt8} {off : ℕ} {t : Tlv}
    (h : buf.drop off = t.bytes ++ rest) :
    authTlvRead buf off = .ok (t.tag, t.value, off + (4 + t.value.length)) := by
  have hlen : buf.length - off = 4 + t.value.length + rest.length := by
    rw [← List.length_drop, h, List.length_append, t.bytes_length]
  have htag : loadU16LE buf off = t.tag := by
    rw [← Nat.add_zero off, ← loadU16LE_drop, h, t.tag_bytes_append]
  have hl : (loadU16LE buf (off + 2)).toNat = t.value.length := by
    rw [← loadU16LE_drop, h]
    exact t.length_bytes_append rest
  have hvalue : (buf.drop (off + 4)).take t.value.length = t.value := by
    rw [← List.drop_drop, h, t.value_bytes_append]
  rw [authTlvRead, if_neg (by omega), if_neg (by omega)]
  simp only [hl]
  rw [if_neg (by omega), htag, hvalue]

/-- Nothing is left, or a TLV is truncated. -/
theorem authTlvRead_tail {buf : List UInt8} {off : ℕ} (hoff : off < buf.length)
    (h : tlvFormat.read (buf.drop off) = none) : authTlvRead buf off = .error .malformedPacket := by
  have hshort := short_of_read h
  rw [tlvLength, loadU16LE_drop, List.length_drop] at hshort
  rw [authTlvRead, if_neg (by omega)]
  simp only [if_pos (show 4 + _ > _ from hshort), ite_self]

/-- One round of the loop. -/
theorem Hello.tlvLoop_next (buf : List UInt8) (h : Hello) {off : ℕ} (hoff : off < buf.length) :
    Hello.tlvLoop buf h off = match authTlvRead buf off with
      | .error .payloadTooShort => .ok h
      | .error e => .error e
      | .ok (tag, value, off') => h.onTlv tag value >>= fun h => Hello.tlvLoop buf h off' := by
  rw [Hello.tlvLoop, dif_pos hoff]
  split <;> simp_all

/-- The loop folds the arms over the TLVs. -/
theorem Hello.tlvLoop_eq (h : Hello) (ts : List Tlv) {buf tail : List UInt8} {off : ℕ}
    (hbuf : buf.drop off = tlvFormat.stream ts ++ tail) (htail : tlvFormat.read tail = none) :
    Hello.tlvLoop buf h off = ts.foldlM Hello.arm h >>= fun h => h.onTail tail := by
  refine tlvFormat.loop_eq (fun off => buf.drop off) (Hello.tlvLoop buf) ?_ ?_ htail hbuf
  · intro h off t rest hrest
    change buf.drop off = t.bytes ++ rest at hrest
    have hoff : off < buf.length := by
      have := congrArg List.length hrest
      rw [List.length_drop, List.length_append, t.bytes_length] at this
      omega
    refine ⟨off + (4 + t.value.length), ?_, ?_⟩
    · rw [← List.drop_drop, hrest, t.rest_bytes_append]
    · rw [Hello.tlvLoop_next buf h hoff, authTlvRead_bytes hrest]
      rfl
  · intro h off hread
    rw [Hello.onTail]
    by_cases hoff : off < buf.length
    · have hne : buf.drop off ≠ [] := by
        rw [ne_eq, List.drop_eq_nil_iff]
        omega
      rw [Hello.tlvLoop_next buf h hoff, authTlvRead_tail hoff hread, if_neg hne]
    · rw [Hello.tlvLoop, dif_neg hoff, if_pos (List.drop_of_length_le (Nat.le_of_not_lt hoff))]

/-- The decoder on the bytes of a HELLO. -/
theorem authHelloDecode_fixed (version : UInt8) {suites : List UInt16} (caps : UInt64)
    (hs : suites.length ≤ helloMaxSuites) (exts : List UInt8) :
    authHelloDecode (helloFixed version suites caps ++ exts) =
      Hello.tlvLoop (helloFixed version suites caps ++ exts)
        ⟨version, version, suites, caps, none, [], []⟩ (3 + 2 * suites.length + 8) := by
  have hlen : (helloFixed version suites caps).length = 3 + 2 * suites.length + 8 :=
    helloFixed_length version caps
  have hcount := helloFixed_count version caps exts (le_trans hs (by decide))
  simp only [authHelloDecode]
  rw [ensure_pos (by rw [List.length_append]; omega), Except.ok_bind', hcount, ensure_pos hs,
    Except.ok_bind', ensure_pos (by rw [List.length_append]; omega), Except.ok_bind',
    helloFixed_suites, helloFixed_caps]
  rfl

/-- The record has room for its fields. -/
structure Hello.Bounded (h : Hello) : Prop where
  suites : h.suites.length ≤ helloMaxSuites
  vendor : h.vendorId.length ≤ helloMaxVendor
  model : h.deviceModel.length ≤ helloMaxModel

theorem short_present {value : List UInt8} (h : value.length ≤ 0xFFFF) (v : List UInt8)
    (hv : present value = some v) : v.length ≤ 0xFFFF := by
  unfold present at hv
  split at hv
  next =>
    cases hv
    exact h
  next => cases hv

/-- The HELLO of Rust with the same extensions. -/
def Hello.view (h : Hello) : Rust.Hello :=
  ⟨h.version, h.minVersion, h.suites, h.caps, h.mtuHint, present h.vendorId, present h.deviceModel⟩

theorem Hello.Bounded.view {h : Hello} (hb : h.Bounded) : h.view.Bounded where
  suites := le_trans hb.suites (by decide)
  vendor := short_present (le_trans hb.vendor (by decide))
  model := short_present (le_trans hb.model (by decide))

theorem authTlvWrite_fits (bufLen : ℕ) (t : Tlv) :
    Output.Fits bufLen (authTlvWrite bufLen t.tag t.value) t.bytes := by
  have hno : ¬ t.value.length > 0xFFFF := Nat.not_lt.mpr t.short
  rw [authTlvWrite, if_neg hno, List.append_assoc]
  exact .put _

theorem writeFixed_fits (h : Hello) (bufLen : ℕ) :
    Output.Fits bufLen h.writeFixed (helloFixed h.version h.suites h.caps) :=
  (Output.Fits.write _).bind ((Output.Fits.write _).bind
    ((Output.Fits.each fun s _ => Output.Fits.write (natLE 2 s.toNat)).bind (Output.Fits.write _)))

theorem authTlvWriteSome_fits (bufLen : ℕ) (tag : UInt16) {value : Option (List UInt8)}
    (h : ∀ v, value = some v → v.length ≤ 0xFFFF) :
    Output.Fits bufLen (authTlvWriteSome bufLen tag value)
      (tlvFormat.stream (optTlv tag value h)) := by
  cases value with
  | none => exact .pure
  | some v =>
      simp only [optTlv, Delimited.stream_cons, Delimited.stream_nil, List.append_nil]
      exact authTlvWrite_fits bufLen ⟨tag, v, h v rfl⟩

theorem writeExtensions_fits (h : Hello) (hb : h.Bounded) (bufLen : ℕ) :
    Output.Fits bufLen (h.writeExtensions bufLen)
      (tlvFormat.stream (h.view.extensions hb.view)) := by
  have hmin : [h.minVersion].length ≤ 0xFFFF := by simp
  rw [Rust.Hello.extensions, Delimited.stream_cons, Delimited.stream_append,
    Delimited.stream_append]
  exact (authTlvWrite_fits bufLen ⟨tlvMinVersion, [h.minVersion], hmin⟩).bind
    ((authTlvWriteSome_fits bufLen tlvMtuHint h.view.short_mtu).bind
      ((authTlvWriteSome_fits bufLen tlvVendorId hb.view.vendor).bind
        (authTlvWriteSome_fits bufLen tlvDeviceModel hb.view.model)))

/-- The bytes of a HELLO with these extensions. -/
def Hello.withExtensions (h : Hello) (ts : List Tlv) : List UInt8 :=
  helloFixed h.version h.suites h.caps ++ tlvFormat.stream ts

/-- With room for it, the encoder writes the HELLO and reports its length. -/
theorem authHelloEncode_eq (h : Hello) (hb : h.Bounded) {bufLen : ℕ} {l : List UInt8}
    (hl : l = h.withExtensions (h.view.extensions hb.view)) (hlen : l.length ≤ bufLen) (n : ℕ) :
    (authHelloEncode h bufLen).exec ⟨[], n⟩ = (.ok (), ⟨l, l.length⟩) := by
  subst hl
  have hfixed : (helloFixed h.version h.suites h.caps).length = 3 + 2 * h.suites.length + 8 :=
    helloFixed_length h.version h.caps
  have hneed : ¬ bufLen < 1 + 2 + 2 * h.suites.length + 8 := by
    rw [Hello.withExtensions, List.length_append] at hlen
    omega
  have hfits := (writeFixed_fits h bufLen).bind (writeExtensions_fits h hb bufLen)
  rw [authHelloEncode, if_neg (Nat.not_lt.mpr hb.suites), if_neg hneed]
  exact hfits.report hlen n

theorem present_eq_none_iff {value : List UInt8} : present value = none ↔ value = [] := by
  simp [present]

theorem present_eq_some_iff {value v : List UInt8} :
    present value = some v ↔ value = v ∧ v ≠ [] := by
  unfold present
  split
  next h =>
    rw [Option.some.injEq]
    refine ⟨fun hv => ⟨hv, ?_⟩, fun hv => hv.1⟩
    rintro rfl
    exact h (by rw [hv, List.length_nil])
  next h =>
    refine iff_of_false (fun hv => by cases hv) ?_
    rintro ⟨rfl, hne⟩
    exact h fun hl => hne (List.length_eq_zero_iff.mp hl)

end C

/-! ## The two decoders -/

/-- The record C has for a HELLO. -/
def Rust.Hello.wire (h : Rust.Hello) : C.Hello :=
  ⟨h.version, h.minVersion, h.suites, h.caps, h.mtuHint, h.vendorId.getD [],
    h.deviceModel.getD []⟩

theorem C.Hello.wire_view (h : C.Hello) : h.view.wire = h := by
  have hpresent : ∀ value : List UInt8, (C.present value).getD [] = value := by
    intro value
    cases hv : C.present value with
    | none => exact (C.present_eq_none_iff.mp hv).symm
    | some v => exact (C.present_eq_some_iff.mp hv).1.symm
  simp only [C.Hello.view, Rust.Hello.wire, hpresent]

/-- The C record has room for the value. -/
def Tlv.Fits (t : Tlv) : Prop :=
  (t.tag = tlvVendorId → t.value.length ≤ C.helloMaxVendor) ∧
    (t.tag = tlvDeviceModel → t.value.length ≤ C.helloMaxModel)

instance (t : Tlv) : Decidable t.Fits := inferInstanceAs (Decidable (_ ∧ _))

/-- The same error code, one of the two a decoder of a HELLO gives. -/
inductive HelloError : Rust.ProtoError → C.AuthErr → Prop where
  | tooShort (msg : String) : HelloError (.wire .payloadTooShort msg) .payloadTooShort
  | malformed (msg : String) : HelloError (.wire .malformedPacket msg) .malformedPacket

/-- The same outcome, with the same HELLO. -/
def SameHello : Except Rust.ProtoError Rust.Hello → Except C.AuthErr C.Hello → Prop :=
  SameOutcome HelloError fun h c => c = h.wire

/-- The arms agree on a TLV that fits. -/
theorem arms_agree {t : Tlv} (ht : t.Fits) (h : Rust.Hello) :
    SameHello (h.arm t) (h.wire.arm t) := by
  unfold Rust.Hello.arm Rust.Hello.onTlv C.Hello.arm C.Hello.onTlv
  split
  next => exact SameOutcome.guard Iff.rfl (.malformed _) fun _ => .ok rfl
  split
  next => exact SameOutcome.guard Iff.rfl (.malformed _) fun _ => .ok rfl
  split
  next hv =>
    rw [if_neg (Nat.not_lt.mpr (ht.1 hv))]
    exact .ok rfl
  split
  next hm =>
    rw [if_neg (Nat.not_lt.mpr (ht.2 hm))]
    exact .ok rfl
  next => exact .ok rfl

/-- So do the folds. -/
theorem folds_agree {ts : List Tlv} (hts : ∀ t ∈ ts, t.Fits) (h : Rust.Hello) :
    SameHello (ts.foldlM Rust.Hello.arm h) (ts.foldlM C.Hello.arm h.wire) := by
  refine SameOutcome.foldlM ?_ rfl
  rintro t ht h c rfl
  exact arms_agree (hts t ht) h

theorem tails_agree (h : Rust.Hello) (tail : List UInt8) :
    SameHello (h.onTail tail) (h.wire.onTail tail) := by
  unfold Rust.Hello.onTail C.Hello.onTail
  split
  next => exact .ok rfl
  next => split <;> exact .error (.malformed _)

/-- Where the extensions of a HELLO start. -/
def extensionsAt (bytes : List UInt8) : ℕ := 3 + 2 * (loadU16LE bytes 1).toNat + 8

/-- The two decoders agree on every byte string whose suites and values the C record can hold. -/
theorem hello_decoders_agree (bytes : List UInt8)
    (hcount : 3 ≤ bytes.length → (loadU16LE bytes 1).toNat ≤ C.helloMaxSuites)
    (hfits : ∀ t ∈ tlvFormat.records (bytes.drop (extensionsAt bytes)), t.Fits) :
    SameHello (Rust.Hello.decode bytes) (C.authHelloDecode bytes) := by
  obtain ⟨tail, hbytes, htail⟩ := tlvFormat.exists_tail (bytes.drop (extensionsAt bytes))
  generalize tlvFormat.records (bytes.drop (extensionsAt bytes)) = ts at hbytes hfits
  simp only [Rust.Hello.decode, C.authHelloDecode]
  refine SameOutcome.guard Iff.rfl (.tooShort _) ?_
  intro hlen
  rw [ensure_pos (hcount hlen), Except.ok_bind']
  refine SameOutcome.guard (by omega) (.tooShort _) ?_
  intro _
  change SameOutcome _ _ (Rust.Hello.tlvLoop _ (bytes.drop (extensionsAt bytes)))
    (C.Hello.tlvLoop bytes _ (extensionsAt bytes))
  rw [C.Hello.tlvLoop_eq _ ts hbytes htail, hbytes, Rust.Hello.tlvLoop_eq _ ts htail]
  refine SameOutcome.bind (folds_agree hfits _) ?_
  rintro h c rfl
  exact tails_agree h tail

/-! ## Forward compatibility -/

theorem mem_optTlv {tag : UInt16} {value : Option (List UInt8)}
    {h : ∀ v, value = some v → v.length ≤ 0xFFFF} {t : Tlv} (ht : t ∈ optTlv tag value h) :
    t.tag = tag ∧ value = some t.value := by
  cases value with
  | none => cases ht
  | some v =>
      obtain rfl := List.mem_singleton.mp ht
      exact ⟨rfl, rfl⟩

/-- The extensions of a C record fit it. -/
theorem C.Hello.extensions_fit (h : C.Hello) (hb : h.Bounded) :
    ∀ t ∈ h.view.extensions hb.view, t.Fits := by
  intro t ht
  rcases List.mem_cons.mp ht with rfl | ht
  · exact ⟨fun h => (by cases h), fun h => (by cases h)⟩
  rcases List.mem_append.mp ht with ht | ht
  · have htag := (mem_optTlv ht).1
    refine ⟨fun h => ?_, fun h => ?_⟩ <;> rw [htag] at h <;> cases h
  rcases List.mem_append.mp ht with ht | ht
  · obtain ⟨htag, hvalue⟩ := mem_optTlv ht
    obtain ⟨hv, -⟩ := C.present_eq_some_iff.mp hvalue
    refine ⟨fun _ => hv ▸ hb.vendor, fun h => ?_⟩
    rw [htag] at h
    cases h
  · obtain ⟨htag, hvalue⟩ := mem_optTlv ht
    obtain ⟨hv, -⟩ := C.present_eq_some_iff.mp hvalue
    refine ⟨fun h => ?_, fun _ => hv ▸ hb.model⟩
    rw [htag] at h
    cases h

/-- The C arms read the extensions back, since the Rust arms do. -/
theorem C.Hello.foldlM_extensions (h : C.Hello) (hb : h.Bounded) :
    (h.view.extensions hb.view).foldlM C.Hello.arm
      ⟨h.version, h.version, h.suites, h.caps, none, [], []⟩ = .ok h := by
  have hagree := folds_agree (h.extensions_fit hb)
    ⟨h.view.version, h.view.version, h.view.suites, h.view.caps, none, none, none⟩
  rw [h.view.foldlM_extensions hb.view] at hagree
  obtain ⟨c, hc, hwire⟩ := hagree.of_ok
  rw [h.wire_view] at hwire
  exact hwire ▸ hc

/-- A Rust decoder does not see unknown TLVs. -/
theorem Rust.Hello.decode_inserts (h : Rust.Hello) (hb : h.Bounded) {ts : List Tlv}
    (hts : Inserts Tlv.Unknown (h.extensions hb) ts) :
    Rust.Hello.decode (h.withExtensions ts) = .ok h := by
  have hskip : ∀ (h : Rust.Hello) (t : Tlv), t.Unknown → h.arm t = .ok h := by
    rintro h t ⟨h1, h2, h3, h4⟩
    rw [Rust.Hello.arm, Rust.Hello.onTlv, if_neg h1, if_neg h2, if_neg h3, if_neg h4]
  have hloop := Rust.Hello.tlvLoop_eq
    ⟨h.version, h.version, h.suites, h.caps, none, none, none⟩ ts tlvFormat.read_nil
  rw [List.append_nil, hts.foldlM_eq hskip, h.foldlM_extensions hb] at hloop
  rw [Rust.Hello.withExtensions, Rust.Hello.decode_fixed h.version h.caps hb.suites, hloop]
  rfl

/-- A C decoder does not see unknown TLVs. -/
theorem C.authHelloDecode_inserts (h : C.Hello) (hb : h.Bounded) {ts : List Tlv}
    (hts : Inserts Tlv.Unknown (h.view.extensions hb.view) ts) :
    C.authHelloDecode (h.withExtensions ts) = .ok h := by
  have hskip : ∀ (h : C.Hello) (t : Tlv), t.Unknown → h.arm t = .ok h := by
    rintro h t ⟨h1, h2, h3, h4⟩
    rw [C.Hello.arm, C.Hello.onTlv, if_neg h1, if_neg h2, if_neg h3, if_neg h4]
  have hdrop : (helloFixed h.version h.suites h.caps ++ tlvFormat.stream ts).drop
      (3 + 2 * h.suites.length + 8) = tlvFormat.stream ts ++ [] := by
    rw [helloFixed_drop, List.append_nil]
  rw [C.Hello.withExtensions, C.authHelloDecode_fixed h.version h.caps hb.suites,
    C.Hello.tlvLoop_eq _ ts hdrop tlvFormat.read_nil, hts.foldlM_eq hskip, h.foldlM_extensions hb]
  rfl

/-- In both languages an encoding with unknown TLVs inserted between its own decodes to what was
encoded. -/
theorem hello_forward_compatible :
    (∀ (h : Rust.Hello) (hb : h.Bounded),
      h.encode = .ok (h.withExtensions (h.extensions hb)) ∧
      ∀ ts, Inserts Tlv.Unknown (h.extensions hb) ts →
        Rust.Hello.decode (h.withExtensions ts) = .ok h) ∧
    ∀ (h : C.Hello) (hb : h.Bounded),
      (∀ bufLen n l, l = h.withExtensions (h.view.extensions hb.view) → l.length ≤ bufLen →
        (C.authHelloEncode h bufLen).exec ⟨[], n⟩ = (.ok (), ⟨l, l.length⟩)) ∧
      ∀ ts, Inserts Tlv.Unknown (h.view.extensions hb.view) ts →
        C.authHelloDecode (h.withExtensions ts) = .ok h :=
  ⟨fun h hb => ⟨h.encode_eq hb, fun _ => h.decode_inserts hb⟩,
    fun h hb => ⟨fun _ n _ hl hlen => C.authHelloEncode_eq h hb hl hlen n,
      fun _ => C.authHelloDecode_inserts h hb⟩⟩

/-! ## A HELLO -/

/-- A HELLO with two vendors. -/
def demoHello : List UInt8 :=
  helloFixed 2 [1] 0x207 ++ tlvFormat.stream
    [⟨tlvVendorId, ascii "acme", by decide⟩, ⟨0xFFFE, [], by decide⟩,
      ⟨tlvVendorId, ascii "acme-2", by decide⟩]

theorem hello_decoders_agree_two_vendors :
    Rust.Hello.decode demoHello = .ok ⟨2, 2, [1], 0x207, none, some (ascii "acme-2"), none⟩ ∧
      SameHello (Rust.Hello.decode demoHello) (C.authHelloDecode demoHello) := by
  refine ⟨by decide +kernel, hello_decoders_agree demoHello ?_ ?_⟩
  · intro _
    decide +kernel
  · decide +kernel

end ZkArche
