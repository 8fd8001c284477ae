import Mathlib.Data.List.GetD
import ZkArche.Lib.Slices
import ZkArche.Proto.ServerRust

/-!
# The Rust decoders with their panics

Indexing a slice, cutting a range out of it, `split_at`, `copy_from_slice` and `try_into().unwrap()`
panic when they do not fit.  Here the decoders of `wire.rs` and `payloads.rs` are written with these
operations, as `SliceOp` has them, and a fault is a panic with the text Rust prints.

Every decoder checks a length before it touches the bytes.  So each of them ends as the decoder
without panics does, and `orStop` of that decoder is what it is equal to.  The equations are proved
read by read: `orStop_bind_eq` puts a checked read in front of the rest.
-/

namespace ZkArche.Rust.Checked

/-! ## Panics -/

/-- What a slice operation prints when it panics. -/
def faultText : SliceOp.Fault → String
  | .index len i =>
      "index out of bounds: the len is " ++ toString len ++ " but the index is " ++ toString i
  | .range len i j =>
      "range " ++ toString i ++ ".." ++ toString j ++ " out of range for slice of length "
        ++ toString len
  | .split _ _ => "mid > len"
  | .copy len got =>
      "copy_from_slice: source slice length (" ++ toString got
        ++ ") does not match destination slice length (" ++ toString len ++ ")"
  | .convert _ _ => "called `Result::unwrap()` on an `Err` value: TryFromSliceError(())"

/-- A slice operation that does not fit panics. -/
def orPanic {α : Type} : Except SliceOp.Fault α → Except Stop α
  | .ok a => .ok a
  | .error f => .error (.panic (faultText f))

@[simp] theorem orPanic_ok {α : Type} (a : α) : orPanic (.ok a) = .ok a := rfl

@[simp] theorem orStop_ok {α : Type} (a : α) : orStop (.ok a) = .ok a := rfl

@[simp] theorem orStop_error {α : Type} (e : ProtoError) :
    orStop (.error e : Except ProtoError α) = .error (.err e) := rfl

/-- A guard that reports an error. -/
theorem orStop_ensure {c : Prop} [Decidable c] (code : ErrorCode) (msg : String) :
    ensure c (Stop.wire code msg) = orStop (ensure c (.wire code msg)) := by
  by_cases h : c
  · rw [ensure_pos h, ensure_pos h, orStop_ok]
  · rw [ensure_neg h, ensure_neg h, orStop_error, Stop.wire]

/-- Two sequences end alike when their first parts do, and the rests do for every value. -/
theorem orStop_bind_eq {α β : Type} {x : Except ProtoError α} {x' : Except Stop α}
    {f : α → Except ProtoError β} {f' : α → Except Stop β} (hx : x' = orStop x)
    (hf : ∀ a, f' a = orStop (f a)) : (x' >>= f') = orStop (x >>= f) := by
  subst hx
  cases x with
  | ok a => exact hf a
  | error e => rfl

/-! ## Headers -/

/-- `Header::decode` / `parse_packet`. -/
def parsePacket (bytes : List UInt8) : Except Stop (Header × List UInt8) := do
  ensure (¬ bytes.length < headerLen) (.wire .payloadTooShort "datagram < 24B header")
  let version ← orPanic (SliceOp.index bytes 0)
  let pktType ← orPanic (SliceOp.index bytes 1)
  let f0 ← orPanic (SliceOp.index bytes 2)
  let f1 ← orPanic (SliceOp.index bytes 3)
  let flags := UInt16.ofNat (leNat [f0, f1])
  let sid ← orPanic (SliceOp.range bytes 4 (4 + 16))
  let sessionId ← orPanic (SliceOp.fillArray 16 sid)
  let s0 ← orPanic (SliceOp.index bytes 20)
  let s1 ← orPanic (SliceOp.index bytes 21)
  let s2 ← orPanic (SliceOp.index bytes 22)
  let s3 ← orPanic (SliceOp.index bytes 23)
  let seq := UInt32.ofNat (leNat [s0, s1, s2, s3])
  ensure (¬ version < minSupportedVersion) (.wire .unsupportedVersion
    ("packet version " ++ toString version.toNat ++ " < min supported "
      ++ toString minSupportedVersion.toNat))
  let payload ← orPanic (SliceOp.since bytes headerLen)
  return (⟨version, pktType, flags, sessionId, seq⟩, payload)

theorem length_sessionId {bytes : List UInt8} (h : 24 ≤ bytes.length) :
    ((bytes.drop 4).take 16).length = 16 := by
  rw [List.length_take, List.length_drop]
  omega

/-- The header, with every byte of an integer read on its own. -/
theorem header_read_eq {bytes : List UInt8} (h : 24 ≤ bytes.length) :
    Header.read bytes h = ⟨bytes.get ⟨0, by omega⟩, bytes.get ⟨1, by omega⟩,
      UInt16.ofNat (leNat [bytes.get ⟨2, by omega⟩, bytes.get ⟨3, by omega⟩]),
      ⟨(bytes.drop 4).take 16, length_sessionId h⟩,
      UInt32.ofNat (leNat [bytes.get ⟨20, by omega⟩, bytes.get ⟨21, by omega⟩,
        bytes.get ⟨22, by omega⟩, bytes.get ⟨23, by omega⟩])⟩ := by
  have hver : (Header.read bytes h).version = bytes.get ⟨0, by omega⟩ :=
    List.getD_eq_getElem _ _ (by omega)
  have htype : (Header.read bytes h).pktType = bytes.get ⟨1, by omega⟩ :=
    List.getD_eq_getElem _ _ (by omega)
  have hflags : (bytes.drop 2).take 2 = [bytes.get ⟨2, by omega⟩, bytes.get ⟨3, by omega⟩] := by
    rw [List.drop_eq_getElem_cons (by omega), List.drop_eq_getElem_cons (by omega)]
    rfl
  have hseq : (bytes.drop 20).take 4 = [bytes.get ⟨20, by omega⟩, bytes.get ⟨21, by omega⟩,
      bytes.get ⟨22, by omega⟩, bytes.get ⟨23, by omega⟩] := by
    rw [List.drop_eq_getElem_cons (by omega), List.drop_eq_getElem_cons (by omega),
      List.drop_eq_getElem_cons (by omega), List.drop_eq_getElem_cons (by omega)]
    rfl
  rw [← hflags, ← hseq, ← hver, ← htype]
  rfl

theorem parsePacket_eq (bytes : List UInt8) :
    parsePacket bytes = orStop (Rust.parsePacket bytes) := by
  by_cases hlen : bytes.length < headerLen
  · rw [parsePacket, ensure_neg (not_not.mpr hlen), Rust.parsePacket, dif_pos hlen]
    rfl
  · have h24 : 24 ≤ bytes.length := Nat.le_of_not_lt hlen
    have hat : ∀ (i : ℕ) (hi : i < 24), SliceOp.index bytes i =
        .ok (bytes.get ⟨i, Nat.lt_of_lt_of_le hi h24⟩) := fun i hi =>
      SliceOp.index_of_lt (Nat.lt_of_lt_of_le hi h24)
    have hsid : SliceOp.fillArray 16 ((bytes.drop 4).take 16) =
        .ok ⟨(bytes.drop 4).take 16, length_sessionId h24⟩ := SliceOp.fillArray_of_length_eq _
    rw [parsePacket, ensure_pos hlen, Rust.parsePacket, dif_neg hlen]
    simp only [Except.ok_bind', hat 0 (by omega), hat 1 (by omega), hat 2 (by omega),
      hat 3 (by omega), hat 20 (by omega), hat 21 (by omega), hat 22 (by omega), hat 23 (by omega),
      SliceOp.range_of_le (Nat.le_add_right 4 16) (show 4 + 16 ≤ bytes.length by omega),
      Nat.add_sub_cancel_left, hsid, orPanic_ok, header_read_eq h24,
      SliceOp.since_of_le (show headerLen ≤ bytes.length from h24)]
    by_cases hv : bytes.get ⟨0, by omega⟩ < minSupportedVersion
    · rw [ensure_neg (not_not.mpr hv), if_pos hv]
      rfl
    · rw [ensure_pos hv, if_neg hv]
      rfl

/-! ## Fields -/

/-- `take_fixed`. -/
def takeBytes (n : ℕ) (buf : List UInt8) : Except Stop (Bytes n × List UInt8) := do
  ensure (¬ buf.length < n) (.wire .payloadTooShort "short read")
  let (head, tail) ← orPanic (SliceOp.splitAt buf n)
  let b ← orPanic (SliceOp.toArray n head)
  return (b, tail)

theorem takeBytes_eq (n : ℕ) (buf : List UInt8) :
    takeBytes n buf = orStop (Rust.takeBytes n buf) := by
  unfold takeBytes Rust.takeBytes takeFixed
  by_cases h : buf.length < n
  · rw [ensure_neg (not_not.mpr h), dif_neg (Nat.not_le.mpr h)]
    rfl
  · have hle : n ≤ buf.length := Nat.le_of_not_lt h
    have hlen : (buf.take n).length = n := by simp [hle]
    rw [ensure_pos h, dif_pos hle]
    simp only [Except.ok_bind', SliceOp.splitAt_of_le hle, orPanic_ok,
      SliceOp.toArray_of_length_eq hlen]
    rfl

/-- `take_scalar`. -/
def takeScalar (q : ℕ) (buf : List UInt8) (what : String) : Except Stop (ZMod q × List UInt8) := do
  let (b, rest) ← takeBytes 32 buf
  let x ← orStop (decodeScalar q b what)
  return (x, rest)

theorem takeScalar_eq (q : ℕ) (buf : List UInt8) (what : String) :
    takeScalar q buf what = orStop (Rust.takeScalar q buf what) := by
  refine orStop_bind_eq (takeBytes_eq 32 buf) ?_
  rintro ⟨b, rest⟩
  exact orStop_bind_eq rfl fun x => rfl

/-- `reject_trailing`. -/
def rejectTrailing (rest : List UInt8) (what : String) : Except Stop Unit :=
  orStop (Rust.rejectTrailing rest what)

variable {q : ℕ} {G : Type} [AddCommGroup G] [Module (ZMod q) G] (S : Suite q G) [DecidableEq G]

/-- `take_point`. -/
def takePoint (buf : List UInt8) (what : String) : Except Stop (G × List UInt8) := do
  let (b, rest) ← takeBytes 32 buf
  let P ← orStop (decompressPoint S b what)
  return (P, rest)

theorem takePoint_eq (buf : List UInt8) (what : String) :
    takePoint S buf what = orStop (Rust.takePoint S buf what) := by
  refine orStop_bind_eq (takeBytes_eq 32 buf) ?_
  rintro ⟨b, rest⟩
  exact orStop_bind_eq rfl fun P => rfl

/-! ## SETUP -/

omit [AddCommGroup G] [Module (ZMod q) G] [DecidableEq G] in
/-- The pairing token of `Setup1::decode`, and the bytes after it. -/
def takeToken (buf : List UInt8) : Except Stop (Option (List UInt8) × List UInt8) := do
  ensure (buf ≠ []) (.wire .payloadTooShort "SETUP_1 empty")
  let b ← orPanic (SliceOp.index buf 0)
  let tlen := b.toNat
  let buf ← orPanic (SliceOp.since buf 1)
  ensure (¬ tlen > 128) (.wire .malformedPacket "pairing token len > 128")
  if tlen = 0 then return (none, buf)
  else
    let (t, rest) ← orPanic (SliceOp.splitAt buf (min tlen buf.length))
    ensure (t.length = tlen) (.wire .payloadTooShort "pairing token truncated")
    return (some t, rest)

theorem takeToken_eq (buf : List UInt8) : takeToken buf = orStop (Rust.takeToken buf) := by
  cases buf with
  | nil => rfl
  | cons b buf =>
      have hne : b :: buf ≠ [] := List.cons_ne_nil b buf
      have hfirst : SliceOp.index (b :: buf) 0 = .ok b := rfl
      have hrest : SliceOp.since (b :: buf) 1 = .ok buf := SliceOp.since_of_le (by simp)
      simp only [takeToken, ensure_pos hne, hfirst, hrest, orPanic_ok, Except.ok_bind',
        Rust.takeToken]
      by_cases hbig : b.toNat > 128
      · rw [ensure_neg (not_not.mpr hbig), if_pos hbig]
        rfl
      · rw [ensure_pos hbig, if_neg hbig, Except.ok_bind']
        by_cases hzero : b.toNat = 0
        · rw [if_pos hzero, if_pos hzero]
          rfl
        · rw [if_neg hzero, if_neg hzero, SliceOp.splitAt_of_le (Nat.min_le_right _ _), orPanic_ok,
            Except.ok_bind']
          by_cases hshort : buf.length < b.toNat
          · rw [if_pos hshort, ensure_neg (by rw [List.length_take]; omega)]
            rfl
          · have hmin : min b.toNat buf.length = b.toNat := by omega
            rw [if_neg hshort, hmin, ensure_pos (by rw [List.length_take]; omega)]
            rfl

/-- `Setup1::decode`. -/
def Setup1.decode (buf : List UInt8) : Except Stop (Setup1 G) := do
  let (token, rest) ← takeToken buf
  let (deviceId, rest) ← takeBytes 32 rest
  let (devicePub, rest) ← takePoint S rest "device_pub"
  let (clientNonce, rest) ← takeBytes 32 rest
  let (roleCommitment, rest) ← takePoint S rest "role_commitment"
  rejectTrailing rest "SETUP_1"
  return ⟨token, deviceId, devicePub, clientNonce, roleCommitment⟩

theorem Setup1.decode_eq (buf : List UInt8) :
    Setup1.decode S buf = orStop (Rust.Setup1.decode S buf) := by
  refine orStop_bind_eq (takeToken_eq buf) ?_
  rintro ⟨token, rest⟩
  refine orStop_bind_eq (takeBytes_eq 32 rest) ?_
  rintro ⟨deviceId, rest⟩
  refine orStop_bind_eq (takePoint_eq S rest _) ?_
  rintro ⟨devicePub, rest⟩
  refine orStop_bind_eq (takeBytes_eq 32 rest) ?_
  rintro ⟨clientNonce, rest⟩
  refine orStop_bind_eq (takePoint_eq S rest _) ?_
  rintro ⟨roleCommitment, rest⟩
  exact orStop_bind_eq rfl fun _ => rfl

/-- `Setup2::decode`. -/
def Setup2.decode (buf : List UInt8) : Except Stop (Setup2 q G) := do
  let (serverNonce, rest) ← takeBytes 32 buf
  let (setupChallenge, rest) ← takeBytes 16 rest
  let (serverPub, rest) ← takePoint S rest "server_pub"
  let (a, rest) ← takePoint S rest "setup a_s"
  let (s, rest) ← takeScalar q rest "setup s_s"
  rejectTrailing rest "SETUP_2"
  return ⟨serverNonce, setupChallenge, serverPub, ⟨a, s⟩⟩

theorem Setup2.decode_eq (buf : List UInt8) :
    Setup2.decode S buf = orStop (Rust.Setup2.decode S buf) := by
  refine orStop_bind_eq (takeBytes_eq 32 buf) ?_
  rintro ⟨serverNonce, rest⟩
  refine orStop_bind_eq (takeBytes_eq 16 rest) ?_
  rintro ⟨setupChallenge, rest⟩
  refine orStop_bind_eq (takePoint_eq S rest _) ?_
  rintro ⟨serverPub, rest⟩
  refine orStop_bind_eq (takePoint_eq S rest _) ?_
  rintro ⟨a, rest⟩
  refine orStop_bind_eq (takeScalar_eq q rest _) ?_
  rintro ⟨s, rest⟩
  exact orStop_bind_eq rfl fun _ => rfl

/-- `Setup3::decode`. -/
def Setup3.decode (buf : List UInt8) : Except Stop (Setup3 q G) := do
  let (a, rest) ← takePoint S buf "setup a_c"
  let (s, rest) ← takeScalar q rest "setup s_c"
  rejectTrailing rest "SETUP_3"
  return ⟨⟨a, s⟩⟩

theorem Setup3.decode_eq (buf : List UInt8) :
    Setup3.decode S buf = orStop (Rust.Setup3.decode S buf) := by
  refine orStop_bind_eq (takePoint_eq S buf _) ?_
  rintro ⟨a, rest⟩
  refine orStop_bind_eq (takeScalar_eq q rest _) ?_
  rintro ⟨s, rest⟩
  exact orStop_bind_eq rfl fun _ => rfl

/-! ## AUTH -/

/-- The branch loop of `Auth1::decode`. -/
def takeBranches : ℕ → List UInt8 → Except Stop (List (SetBranch q G) × List UInt8)
  | 0, rest => .ok ([], rest)
  | n + 1, rest => do
      let (a, rest) ← takePoint S rest "branch A"
      let (c, rest) ← takeScalar q rest "branch c"
      let (s, rest) ← takeScalar q rest "branch s"
      let (bs, rest) ← takeBranches n rest
      return (⟨a, c, s⟩ :: bs, rest)

theorem takeBranches_eq (n : ℕ) (rest : List UInt8) :
    takeBranches S n rest = orStop (Rust.takeBranches S n rest) := by
  induction n generalizing rest with
  | zero => rfl
  | succ n ih =>
      refine orStop_bind_eq (takePoint_eq S rest _) ?_
      rintro ⟨a, rest⟩
      refine orStop_bind_eq (takeScalar_eq q rest _) ?_
      rintro ⟨c, rest⟩
      refine orStop_bind_eq (takeScalar_eq q rest _) ?_
      rintro ⟨s, rest⟩
      refine orStop_bind_eq (ih rest) ?_
      rintro ⟨bs, rest⟩
      rfl

omit [AddCommGroup G] [Module (ZMod q) G] [DecidableEq G] in
/-- The branch count of `Auth1::decode`, and the bytes after it. -/
def takeCount (rest : List UInt8) : Except Stop (Bytes 2 × List UInt8) := do
  ensure (¬ rest.length < 2) (.wire .payloadTooShort "branch count missing")
  let b0 ← orPanic (SliceOp.index rest 0)
  let b1 ← orPanic (SliceOp.index rest 1)
  let rest ← orPanic (SliceOp.since rest 2)
  return (⟨[b0, b1], rfl⟩, rest)

theorem takeCount_eq (rest : List UInt8) :
    takeCount rest = orStop (takeFixed (.wire .payloadTooShort "branch count missing") 2 rest) := by
  match rest with
  | [] => rfl
  | [_] => rfl
  | b0 :: b1 :: rest =>
      have hlen : ¬ (b0 :: b1 :: rest).length < 2 := by simp
      have hrest : SliceOp.since (b0 :: b1 :: rest) 2 = .ok rest := SliceOp.since_of_le (by simp)
      rw [takeCount, ensure_pos hlen, hrest, takeFixed, dif_pos (Nat.le_of_not_lt hlen)]
      rfl

/-- `Auth1::decode`. -/
def Auth1.decode (buf : List UInt8) : Except Stop (Auth1 q G) := do
  let (pid, rest) ← takeBytes 32 buf
  let (ac, rest) ← takePoint S rest "a_c"
  let (sc, rest) ← takeScalar q rest "s_c"
  let (nonceC, rest) ← takeBytes 32 rest
  let (ephC, rest) ← takePoint S rest "eph_c"
  let (cPrime, rest) ← takePoint S rest "c_prime"
  let (ra, rest) ← takePoint S rest "rerand_a"
  let (rs, rest) ← takeScalar q rest "rerand_s"
  let (nb, rest) ← takeCount rest
  let n := leNat nb.val
  ensure (96 * n ≤ rest.length) (.wire .payloadTooShort "branch payload truncated")
  let (branches, rest) ← takeBranches S n rest
  rejectTrailing rest "AUTH_1"
  return ⟨pid, ⟨ac, sc⟩, nonceC, ephC, cPrime, ⟨ra, rs⟩, branches⟩

theorem Auth1.decode_eq (buf : List UInt8) :
    Auth1.decode S buf = orStop (Rust.Auth1.decode S buf) := by
  refine orStop_bind_eq (takeBytes_eq 32 buf) ?_
  rintro ⟨pid, rest⟩
  refine orStop_bind_eq (takePoint_eq S rest _) ?_
  rintro ⟨ac, rest⟩
  refine orStop_bind_eq (takeScalar_eq q rest _) ?_
  rintro ⟨sc, rest⟩
  refine orStop_bind_eq (takeBytes_eq 32 rest) ?_
  rintro ⟨nonceC, rest⟩
  refine orStop_bind_eq (takePoint_eq S rest _) ?_
  rintro ⟨ephC, rest⟩
  refine orStop_bind_eq (takePoint_eq S rest _) ?_
  rintro ⟨cPrime, rest⟩
  refine orStop_bind_eq (takePoint_eq S rest _) ?_
  rintro ⟨ra, rest⟩
  refine orStop_bind_eq (takeScalar_eq q rest _) ?_
  rintro ⟨rs, rest⟩
  refine orStop_bind_eq (takeCount_eq rest) ?_
  rintro ⟨nb, rest⟩
  refine orStop_bind_eq (orStop_ensure _ _) ?_
  rintro ⟨⟩
  refine orStop_bind_eq (takeBranches_eq S _ rest) ?_
  rintro ⟨branches, rest⟩
  exact orStop_bind_eq rfl fun _ => rfl

/-- `Auth2::decode`. -/
def Auth2.decode (buf : List UInt8) : Except Stop (Auth2 q G) := do
  let (serverPub, rest) ← takePoint S buf "server_pub"
  let (a, rest) ← takePoint S rest "a_s"
  let (s, rest) ← takeScalar q rest "s_s"
  let (nonceS, rest) ← takeBytes 32 rest
  let (ephS, rest) ← takePoint S rest "eph_s"
  let (tagS, rest) ← takeBytes 32 rest
  rejectTrailing rest "AUTH_2"
  return ⟨serverPub, ⟨a, s⟩, nonceS, ephS, tagS⟩

theorem Auth2.decode_eq (buf : List UInt8) :
    Auth2.decode S buf = orStop (Rust.Auth2.decode S buf) := by
  refine orStop_bind_eq (takePoint_eq S buf _) ?_
  rintro ⟨serverPub, rest⟩
  refine orStop_bind_eq (takePoint_eq S rest _) ?_
  rintro ⟨a, rest⟩
  refine orStop_bind_eq (takeScalar_eq q rest _) ?_
  rintro ⟨s, rest⟩
  refine orStop_bind_eq (takeBytes_eq 32 rest) ?_
  rintro ⟨nonceS, rest⟩
  refine orStop_bind_eq (takePoint_eq S rest _) ?_
  rintro ⟨ephS, rest⟩
  refine orStop_bind_eq (takeBytes_eq 32 rest) ?_
  rintro ⟨tagS, rest⟩
  exact orStop_bind_eq rfl fun _ => rfl

omit [AddCommGroup G] [Module (ZMod q) G] [DecidableEq G]

/-- `Auth3::decode`. -/
def Auth3.decode (buf : List UInt8) : Except Stop Auth3 := do
  let (tagC, rest) ← takeBytes 32 buf
  rejectTrailing rest "AUTH_3"
  return ⟨tagC⟩

theorem Auth3.decode_eq (buf : List UInt8) :
    Auth3.decode buf = orStop (Rust.Auth3.decode buf) := by
  refine orStop_bind_eq (takeBytes_eq 32 buf) ?_
  rintro ⟨tagC, rest⟩
  exact orStop_bind_eq rfl fun _ => rfl

/-! ## Acknowledgements and errors -/

/-- `decode_ack`.  The byte is read only when it is the only one. -/
def decodeAck (buf : List UInt8) : Except Stop Unit := do
  if buf.length ≠ 1 then .error (.wire .malformedPacket "bad ACK")
  else
    let b ← orPanic (SliceOp.index buf 0)
    ensure (b = ackByte) (.wire .malformedPacket "bad ACK")

theorem decodeAck_eq (buf : List UInt8) : decodeAck buf = orStop (Rust.decodeAck buf) := by
  match buf with
  | [] => rfl
  | [b] =>
      rw [Rust.decodeAck, ← orStop_ensure]
      by_cases hb : b = ackByte
      · rw [ensure_pos (by rw [hb])]
        exact ensure_pos hb
      · rw [ensure_neg (by simpa using hb)]
        exact ensure_neg hb
  | a :: b :: rest =>
      rw [Rust.decodeAck, ensure_neg (by simp)]
      simp only [decodeAck, List.length_cons]
      rw [if_pos (by omega)]
      rfl

/-- `ProtoError::from_wire_payload`. -/
def fromWirePayload (bytes : List UInt8) : Except Stop ProtoError := do
  if bytes.length < 2 then return .wire .malformedPacket "error payload too short"
  else
    let b0 ← orPanic (SliceOp.index bytes 0)
    let b1 ← orPanic (SliceOp.index bytes 1)
    let text ← orPanic (SliceOp.since bytes 2)
    return .wire (ErrorCode.fromU16 (leNat [b0, b1]))
      ((String.fromUTF8? ⟨text.toArray⟩).getD "<non-utf8>")

theorem fromWirePayload_eq (bytes : List UInt8) :
    fromWirePayload bytes = .ok (ProtoError.fromWirePayload bytes) := by
  match bytes with
  | [] => rfl
  | [_] => rfl
  | b0 :: b1 :: text =>
      have hlen : ¬ (b0 :: b1 :: text).length < 2 := by simp
      have hrest : SliceOp.since (b0 :: b1 :: text) 2 = .ok text := SliceOp.since_of_le (by simp)
      rw [fromWirePayload, if_neg hlen, hrest, ProtoError.fromWirePayload, if_neg hlen]
      rfl

end ZkArche.Rust.Checked
