import ZkArche.Crypto.Parity

/-!
# Payload codecs of the Rust crate

The messages of `payloads.rs`.  The layouts are those of the C library, but the fields are
points and scalars: a decoder validates each of them as it reads it, refuses the identity,
and names the field in its error.

`wire` is the C message a Rust message stands for, and every encoder writes the C layout of
it (`encode_eq`).  A decoder accepts exactly what the encoder writes of messages without the
identity (`decode_eq_ok_iff`).
-/

namespace ZkArche.Rust

variable {q : ℕ} {G : Type} [AddCommGroup G] [Module (ZMod q) G]

/-! ## Messages -/

/-- `Setup1`. -/
structure Setup1 (G : Type) where
  pairingToken : Option (List UInt8)
  deviceId : Bytes 32
  devicePub : G
  clientNonce : Bytes 32
  roleCommitment : G

/-- `Setup2`. -/
structure Setup2 (q : ℕ) (G : Type) where
  serverNonce : Bytes 32
  setupChallenge : Bytes 16
  serverPub : G
  serverProof : SchnorrProof q G

/-- `Setup3`. -/
structure Setup3 (q : ℕ) (G : Type) where
  clientProof : SchnorrProof q G

/-- `Auth1`. -/
structure Auth1 (q : ℕ) (G : Type) where
  pid : Bytes 32
  clientProof : SchnorrProof q G
  nonceC : Bytes 32
  ephC : G
  cPrime : G
  rerandProof : SchnorrProof q G
  branches : List (SetBranch q G)

/-- `Auth2`. -/
structure Auth2 (q : ℕ) (G : Type) where
  serverPub : G
  serverProof : SchnorrProof q G
  nonceS : Bytes 32
  ephS : G
  tagS : Bytes 32

/-- `Auth3`. -/
structure Auth3 where
  tagC : Bytes 32

/-! ## Helpers -/

/-- `take_fixed`. -/
def takeBytes (n : ℕ) (buf : List UInt8) : Except ProtoError (Bytes n × List UInt8) :=
  takeFixed (.wire .payloadTooShort "short read") n buf

theorem takeBytes_eq_ok_iff {n : ℕ} {buf rest : List UInt8} {b : Bytes n} :
    takeBytes n buf = .ok (b, rest) ↔ buf = b.val ++ rest :=
  takeFixed_eq_ok_iff

/-- `reject_trailing`. -/
def rejectTrailing (rest : List UInt8) (what : String) : Except ProtoError Unit :=
  ensure (rest = []) (.wire .malformedPacket (what ++ " has trailing bytes"))

/-- `decode_scalar`. -/
def decodeScalar (q : ℕ) (b : Bytes 32) (what : String) : Except ProtoError (ZMod q) :=
  match (decScalar b : Option (ZMod q)) with
  | some x => .ok x
  | none => .error (.wire .nonCanonicalScalar ("non-canonical scalar: " ++ what))

/-- `take_scalar`. -/
def takeScalar (q : ℕ) (buf : List UInt8) (what : String) :
    Except ProtoError (ZMod q × List UInt8) := do
  let (b, rest) ← takeBytes 32 buf
  let x ← decodeScalar q b what
  return (x, rest)

section

variable (S : Suite q G) [DecidableEq G]

omit [Module (ZMod q) G] in
/-- `reject_identity`. -/
def rejectIdentity (P : G) (what : String) : Except ProtoError Unit :=
  ensure (P ≠ 0) (.wire .identityPoint (what ++ " is the identity point"))

/-- `decompress_point`. -/
def decompressPoint (b : Bytes 32) (what : String) : Except ProtoError G :=
  match S.decPoint b with
  | none => .error (.wire .invalidPoint ("invalid point: " ++ what))
  | some P => do
      rejectIdentity P what
      return P

/-- `take_point`. -/
def takePoint (buf : List UInt8) (what : String) : Except ProtoError (G × List UInt8) := do
  let (b, rest) ← takeBytes 32 buf
  let P ← decompressPoint S b what
  return (P, rest)

variable {S}

theorem decompressPoint_eq_ok_iff {b : Bytes 32} {what : String} {P : G} :
    decompressPoint S b what = .ok P ↔ S.encPoint P = b ∧ P ≠ 0 := by
  rw [← S.decPoint_eq_some_iff]
  unfold decompressPoint rejectIdentity
  cases hd : S.decPoint b with
  | none => simp
  | some Q =>
      simp only [Except.bind_eq_ok_iff, ensure_eq_ok_iff, Except.pure_eq_ok, Except.ok.injEq,
        Option.some.injEq]
      constructor
      · rintro ⟨-, hq, rfl⟩
        exact ⟨rfl, hq⟩
      · rintro ⟨rfl, hq⟩
        exact ⟨(), hq, rfl⟩

/-- A point that was read is the encoding of a point other than the identity. -/
theorem takePoint_eq_ok_iff {buf rest : List UInt8} {what : String} {P : G} :
    takePoint S buf what = .ok (P, rest) ↔ buf = (S.encPoint P).val ++ rest ∧ P ≠ 0 := by
  simp only [takePoint, Except.bind_eq_ok_iff, takeBytes_eq_ok_iff, Prod.exists,
    decompressPoint_eq_ok_iff, Except.pure_eq_ok, Except.ok.injEq, Prod.mk.injEq]
  constructor
  · rintro ⟨b, r, rfl, P', ⟨rfl, hP⟩, rfl, rfl⟩
    exact ⟨rfl, hP⟩
  · rintro ⟨rfl, hP⟩
    exact ⟨_, rest, rfl, P, ⟨rfl, hP⟩, rfl, rfl⟩

end

theorem decodeScalar_eq_ok_iff {b : Bytes 32} {what : String} {x : ZMod q} :
    decodeScalar q b what = .ok x ↔ decScalar b = some x := by
  unfold decodeScalar
  cases (decScalar b : Option (ZMod q)) <;> simp

/-- A scalar that was read is the encoding of a scalar. -/
theorem takeScalar_eq_ok_iff [NeZero q] (hq : q ≤ 2 ^ 255) {buf rest : List UInt8}
    {what : String} {x : ZMod q} :
    takeScalar q buf what = .ok (x, rest) ↔ buf = (encScalar x).val ++ rest := by
  have hdec : ∀ b : Bytes 32, decodeScalar q b what = .ok x ↔ encScalar x = b := by
    intro b
    rw [decodeScalar_eq_ok_iff, decScalar_eq_some_iff hq]
  simp only [takeScalar, Except.bind_eq_ok_iff, takeBytes_eq_ok_iff, Prod.exists,
    Except.pure_eq_ok, Except.ok.injEq, Prod.mk.injEq]
  constructor
  · rintro ⟨b, r, rfl, x', hx, rfl, rfl⟩
    rw [(hdec b).mp hx]
  · rintro rfl
    exact ⟨_, rest, rfl, x, (hdec _).mpr rfl, rfl, rfl⟩

/-! ## What stands on the wire -/

section

variable (S : Suite q G)

/-- A SETUP_1 on the wire.  An absent token is the empty one. -/
def Setup1.wire (m : Setup1 G) : C.Setup1 :=
  ⟨m.pairingToken.getD [], m.deviceId, S.encPoint m.devicePub, m.clientNonce,
    S.encPoint m.roleCommitment⟩

/-- A SETUP_2 on the wire. -/
def Setup2.wire (m : Setup2 q G) : C.Setup2 :=
  ⟨m.serverNonce, m.setupChallenge, S.encPoint m.serverPub, C.encProof S m.serverProof⟩

/-- A SETUP_3 on the wire. -/
def Setup3.wire (m : Setup3 q G) : C.Setup3 := ⟨C.encProof S m.clientProof⟩

/-- An AUTH_1 on the wire. -/
def Auth1.wire (m : Auth1 q G) : C.Auth1 :=
  ⟨m.pid, C.encProof S m.clientProof, m.nonceC, S.encPoint m.ephC, S.encPoint m.cPrime,
    C.encProof S m.rerandProof, m.branches.map (C.encBranch S)⟩

/-- An AUTH_2 on the wire. -/
def Auth2.wire (m : Auth2 q G) : C.Auth2 :=
  ⟨S.encPoint m.serverPub, C.encProof S m.serverProof, m.nonceS, S.encPoint m.ephS, m.tagS⟩

/-! ## SETUP_1 -/

/-- `Setup1::encode`.  A token above 128 bytes is a panic. -/
def Setup1.encode (m : Setup1 G) : Except Stop (List UInt8) :=
  let t := m.pairingToken.getD []
  if t.length ≤ 128 then
    .ok (UInt8.ofNat t.length :: (t ++ (m.deviceId.val ++ ((S.encPoint m.devicePub).val
      ++ (m.clientNonce.val ++ (S.encPoint m.roleCommitment).val)))))
  else .error (.panic "pairing token too long")

/-- The pairing token, and the bytes after it.  An empty token is none. -/
def takeToken : List UInt8 → Except ProtoError (Option (List UInt8) × List UInt8)
  | [] => .error (.wire .payloadTooShort "SETUP_1 empty")
  | b :: buf =>
      let tlen := b.toNat
      if tlen > 128 then .error (.wire .malformedPacket "pairing token len > 128")
      else if tlen = 0 then .ok (none, buf)
      else if buf.length < tlen then .error (.wire .payloadTooShort "pairing token truncated")
      else .ok (some (buf.take tlen), buf.drop tlen)

variable [DecidableEq G]

/-- `Setup1::decode`. -/
def Setup1.decode (buf : List UInt8) : Except ProtoError (Setup1 G) := do
  let (token, rest) ← takeToken buf
  let (deviceId, rest) ← takeBytes 32 rest
  let (devicePub, rest) ← takePoint S rest "device_pub"
  let (clientNonce, rest) ← takeBytes 32 rest
  let (roleCommitment, rest) ← takePoint S rest "role_commitment"
  rejectTrailing rest "SETUP_1"
  return ⟨token, deviceId, devicePub, clientNonce, roleCommitment⟩

/-! ## SETUP_2 and SETUP_3 -/

omit [DecidableEq G] in
/-- `Setup2::encode`. -/
def Setup2.encode (m : Setup2 q G) : List UInt8 :=
  m.serverNonce.val ++ (m.setupChallenge.val ++ ((S.encPoint m.serverPub).val
    ++ ((S.encPoint m.serverProof.a).val ++ (encScalar m.serverProof.s).val)))

/-- `Setup2::decode`. -/
def Setup2.decode (buf : List UInt8) : Except ProtoError (Setup2 q G) := do
  let (serverNonce, rest) ← takeBytes 32 buf
  let (setupChallenge, rest) ← takeBytes 16 rest
  let (serverPub, rest) ← takePoint S rest "server_pub"
  let (a, rest) ← takePoint S rest "setup a_s"
  let (s, rest) ← takeScalar q rest "setup s_s"
  rejectTrailing rest "SETUP_2"
  return ⟨serverNonce, setupChallenge, serverPub, ⟨a, s⟩⟩

omit [DecidableEq G] in
/-- `Setup3::encode`. -/
def Setup3.encode (m : Setup3 q G) : List UInt8 :=
  (S.encPoint m.clientProof.a).val ++ (encScalar m.clientProof.s).val

/-- `Setup3::decode`. -/
def Setup3.decode (buf : List UInt8) : Except ProtoError (Setup3 q G) := do
  let (a, rest) ← takePoint S buf "setup a_c"
  let (s, rest) ← takeScalar q rest "setup s_c"
  rejectTrailing rest "SETUP_3"
  return ⟨⟨a, s⟩⟩

/-! ## AUTH_1 -/

omit [DecidableEq G] in
/-- `Auth1::encode`. -/
def Auth1.encode (m : Auth1 q G) : List UInt8 :=
  m.pid.val ++ ((S.encPoint m.clientProof.a).val ++ ((encScalar m.clientProof.s).val
    ++ (m.nonceC.val ++ ((S.encPoint m.ephC).val ++ ((S.encPoint m.cPrime).val
    ++ ((S.encPoint m.rerandProof.a).val ++ ((encScalar m.rerandProof.s).val
    ++ (natLE 2 m.branches.length ++ m.branches.flatMap fun b =>
      (S.encPoint b.a).val ++ ((encScalar b.c).val ++ (encScalar b.s).val)))))))))

/-- The branch loop of `Auth1::decode`. -/
def takeBranches : ℕ → List UInt8 → Except ProtoError (List (SetBranch q G) × List UInt8)
  | 0, rest => .ok ([], rest)
  | n + 1, rest => do
      let (a, rest) ← takePoint S rest "branch A"
      let (c, rest) ← takeScalar q rest "branch c"
      let (s, rest) ← takeScalar q rest "branch s"
      let (bs, rest) ← takeBranches n rest
      return (⟨a, c, s⟩ :: bs, rest)

/-- `Auth1::decode`. -/
def Auth1.decode (buf : List UInt8) : Except ProtoError (Auth1 q G) := do
  let (pid, rest) ← takeBytes 32 buf
  let (ac, rest) ← takePoint S rest "a_c"
  let (sc, rest) ← takeScalar q rest "s_c"
  let (nonceC, rest) ← takeBytes 32 rest
  let (ephC, rest) ← takePoint S rest "eph_c"
  let (cPrime, rest) ← takePoint S rest "c_prime"
  let (ra, rest) ← takePoint S rest "rerand_a"
  let (rs, rest) ← takeScalar q rest "rerand_s"
  let (nb, rest) ← takeFixed (.wire .payloadTooShort "branch count missing") 2 rest
  let n := leNat nb.val
  ensure (96 * n ≤ rest.length) (.wire .payloadTooShort "branch payload truncated")
  let (branches, rest) ← takeBranches S n rest
  rejectTrailing rest "AUTH_1"
  return ⟨pid, ⟨ac, sc⟩, nonceC, ephC, cPrime, ⟨ra, rs⟩, branches⟩

/-! ## AUTH_2 and AUTH_3 -/

omit [DecidableEq G] in
/-- `Auth2::encode`. -/
def Auth2.encode (m : Auth2 q G) : List UInt8 :=
  (S.encPoint m.serverPub).val ++ ((S.encPoint m.serverProof.a).val
    ++ ((encScalar m.serverProof.s).val ++ (m.nonceS.val ++ ((S.encPoint m.ephS).val
    ++ m.tagS.val))))

/-- `Auth2::decode`. -/
def Auth2.decode (buf : List UInt8) : Except ProtoError (Auth2 q G) := do
  let (serverPub, rest) ← takePoint S buf "server_pub"
  let (a, rest) ← takePoint S rest "a_s"
  let (s, rest) ← takeScalar q rest "s_s"
  let (nonceS, rest) ← takeBytes 32 rest
  let (ephS, rest) ← takePoint S rest "eph_s"
  let (tagS, rest) ← takeBytes 32 rest
  rejectTrailing rest "AUTH_2"
  return ⟨serverPub, ⟨a, s⟩, nonceS, ephS, tagS⟩

end

/-- `Auth3::encode`. -/
def Auth3.encode (m : Auth3) : List UInt8 := m.tagC.val

/-- `Auth3::decode`. -/
def Auth3.decode (buf : List UInt8) : Except ProtoError Auth3 := do
  let (tagC, rest) ← takeBytes 32 buf
  rejectTrailing rest "AUTH_3"
  return ⟨tagC⟩

/-- `encode_ack`. -/
def encodeAck : List UInt8 := [ackByte]

/-- `decode_ack`. -/
def decodeAck (buf : List UInt8) : Except ProtoError Unit :=
  ensure (buf = [ackByte]) (.wire .malformedPacket "bad ACK")

/-! ## Laws -/

section

variable (S : Suite q G)

theorem Setup1.encode_eq {m : Setup1 G} (h : (m.pairingToken.getD []).length ≤ 128) :
    m.encode S = .ok (m.wire S).bytes := by
  unfold Setup1.encode
  rw [if_pos h]
  rfl

theorem Setup2.encode_eq (m : Setup2 q G) : m.encode S = (m.wire S).bytes := rfl

theorem Setup3.encode_eq (m : Setup3 q G) : m.encode S = (m.wire S).bytes := rfl

theorem Auth1.encode_eq (m : Auth1 q G) : m.encode S = (m.wire S).bytes := by
  simp only [Auth1.encode, Auth1.wire, C.Auth1.bytes, C.encProof, List.length_map,
    List.flatMap_map]
  rfl

theorem Auth2.encode_eq (m : Auth2 q G) : m.encode S = (m.wire S).bytes := rfl

omit [AddCommGroup G] [Module (ZMod q) G] in
theorem Auth3.encode_eq (m : Auth3) : m.encode = (C.Auth3.mk m.tagC).bytes := rfl

end

section

variable {S : Suite q G} [DecidableEq G] [NeZero q]

omit [AddCommGroup G] [Module (ZMod q) G] [DecidableEq G] [NeZero q] in
/-- A token that was read stands behind its length.  No token is read as an empty one. -/
theorem takeToken_eq_ok_iff {buf rest : List UInt8} {token : Option (List UInt8)} :
    takeToken buf = .ok (token, rest) ↔
      buf = UInt8.ofNat (token.getD []).length :: (token.getD [] ++ rest) ∧
        (token.getD []).length ≤ 128 ∧ token ≠ some [] := by
  constructor
  · intro h
    cases buf with
    | nil => cases h
    | cons b buf =>
        simp only [takeToken] at h
        split at h
        next => cases h
        next hle =>
          split at h
          next hzero =>
            cases h
            have hb : UInt8.ofNat 0 = b := UInt8.toNat_inj.mp (by simpa using hzero.symm)
            simp [hb]
          next hne =>
            split at h
            next => cases h
            next hlen =>
              cases h
              have htake : (buf.take b.toNat).length = b.toNat := by
                rw [List.length_take]
                omega
              refine ⟨?_, ?_, ?_⟩
              · simp [htake]
              · simpa [htake] using hle
              · intro hnil
                have hz := congrArg List.length (Option.some.inj hnil)
                rw [htake] at hz
                exact hne hz
  · rintro ⟨rfl, hle, hne⟩
    have hlt : (token.getD []).length < 256 := Nat.lt_of_le_of_lt hle (by decide)
    have hb : (UInt8.ofNat (token.getD []).length).toNat = (token.getD []).length := by
      simp [Nat.mod_eq_of_lt hlt]
    simp only [takeToken, hb]
    rw [if_neg (by omega)]
    cases token with
    | none => rfl
    | some t =>
        have hpos : t.length ≠ 0 := by
          intro hz
          exact hne (by rw [List.length_eq_zero_iff.mp hz])
        simp [hpos]

/-- No point of the message is the identity, and a token is short and not empty. -/
structure Setup1.Proper (m : Setup1 G) : Prop where
  devicePub : m.devicePub ≠ 0
  roleCommitment : m.roleCommitment ≠ 0
  short : (m.pairingToken.getD []).length ≤ 128
  token : m.pairingToken ≠ some []

omit [NeZero q] in
theorem Setup1.decode_eq_ok_iff {buf : List UInt8} {m : Setup1 G} :
    Setup1.decode S buf = .ok m ↔ buf = (m.wire S).bytes ∧ m.Proper := by
  simp only [Setup1.decode, rejectTrailing, Except.bind_eq_ok_iff, ensure_eq_ok_iff,
    takeToken_eq_ok_iff, takeBytes_eq_ok_iff, takePoint_eq_ok_iff, Prod.exists,
    Except.pure_eq_ok, Except.ok.injEq]
  constructor
  · rintro ⟨t, r1, ⟨rfl, h1, h2⟩, di, r2, rfl, dp, r3, ⟨rfl, h3⟩, cn, r4, rfl, rc, r5, ⟨rfl, h4⟩,
      -, rfl, rfl⟩
    exact ⟨by simp [Setup1.wire, C.Setup1.bytes], h3, h4, h1, h2⟩
  · rintro ⟨rfl, h3, h4, h1, h2⟩
    exact ⟨_, _, ⟨rfl, h1, h2⟩, _, _, rfl, _, _, ⟨rfl, h3⟩, _, _, rfl, _, [], ⟨by
      simp [Setup1.wire], h4⟩, (), rfl, rfl⟩

/-- No point of the message is the identity. -/
structure Setup2.Proper (m : Setup2 q G) : Prop where
  serverPub : m.serverPub ≠ 0
  a : m.serverProof.a ≠ 0

theorem Setup2.decode_eq_ok_iff {buf : List UInt8} {m : Setup2 q G} :
    Setup2.decode S buf = .ok m ↔ buf = m.encode S ∧ m.Proper := by
  simp only [Setup2.decode, rejectTrailing, Except.bind_eq_ok_iff, ensure_eq_ok_iff,
    takeBytes_eq_ok_iff, takePoint_eq_ok_iff, takeScalar_eq_ok_iff S.order_le, Prod.exists,
    Except.pure_eq_ok, Except.ok.injEq]
  constructor
  · rintro ⟨sn, r1, rfl, sc, r2, rfl, sp, r3, ⟨rfl, h1⟩, a, r4, ⟨rfl, h2⟩, s, r5, rfl, -, rfl,
      rfl⟩
    exact ⟨by simp [Setup2.encode], h1, h2⟩
  · rintro ⟨rfl, h1, h2⟩
    exact ⟨_, _, rfl, _, _, rfl, _, _, ⟨rfl, h1⟩, _, _, ⟨rfl, h2⟩, _, [], by simp, (), rfl, rfl⟩

theorem Setup3.decode_eq_ok_iff {buf : List UInt8} {m : Setup3 q G} :
    Setup3.decode S buf = .ok m ↔ buf = m.encode S ∧ m.clientProof.a ≠ 0 := by
  simp only [Setup3.decode, rejectTrailing, Except.bind_eq_ok_iff, ensure_eq_ok_iff,
    takePoint_eq_ok_iff, takeScalar_eq_ok_iff S.order_le, Prod.exists, Except.pure_eq_ok,
    Except.ok.injEq]
  constructor
  · rintro ⟨a, r1, ⟨rfl, h1⟩, s, r2, rfl, -, rfl, rfl⟩
    exact ⟨by simp [Setup3.encode], h1⟩
  · rintro ⟨rfl, h1⟩
    exact ⟨_, _, ⟨rfl, h1⟩, _, [], by simp, (), rfl, rfl⟩

/-- No point of the message is the identity. -/
structure Auth2.Proper (m : Auth2 q G) : Prop where
  serverPub : m.serverPub ≠ 0
  a : m.serverProof.a ≠ 0
  ephS : m.ephS ≠ 0

theorem Auth2.decode_eq_ok_iff {buf : List UInt8} {m : Auth2 q G} :
    Auth2.decode S buf = .ok m ↔ buf = m.encode S ∧ m.Proper := by
  simp only [Auth2.decode, rejectTrailing, Except.bind_eq_ok_iff, ensure_eq_ok_iff,
    takeBytes_eq_ok_iff, takePoint_eq_ok_iff, takeScalar_eq_ok_iff S.order_le, Prod.exists,
    Except.pure_eq_ok, Except.ok.injEq]
  constructor
  · rintro ⟨sp, r1, ⟨rfl, h1⟩, a, r2, ⟨rfl, h2⟩, s, r3, rfl, ns, r4, rfl, es, r5, ⟨rfl, h3⟩, ts,
      r6, rfl, -, rfl, rfl⟩
    exact ⟨by simp [Auth2.encode], h1, h2, h3⟩
  · rintro ⟨rfl, h1, h2, h3⟩
    exact ⟨_, _, ⟨rfl, h1⟩, _, _, ⟨rfl, h2⟩, _, _, rfl, _, _, rfl, _, _, ⟨rfl, h3⟩, _, [],
      by simp, (), rfl, rfl⟩

/-- The branches as they stand on the wire. -/
def branchBytes (S : Suite q G) (b : SetBranch q G) : List UInt8 :=
  (S.encPoint b.a).val ++ ((encScalar b.c).val ++ (encScalar b.s).val)

theorem takeBranches_eq_ok_iff {n : ℕ} {buf rest : List UInt8} {bs : List (SetBranch q G)} :
    takeBranches S n buf = .ok (bs, rest) ↔
      bs.length = n ∧ buf = bs.flatMap (branchBytes S) ++ rest ∧ ∀ b ∈ bs, b.a ≠ 0 := by
  induction n generalizing buf rest bs with
  | zero =>
      simp only [takeBranches, Except.ok.injEq, Prod.mk.injEq]
      constructor
      · rintro ⟨rfl, rfl⟩
        simp
      · rintro ⟨hlen, hbuf, -⟩
        rw [List.length_eq_zero_iff] at hlen
        subst hlen
        exact ⟨rfl, hbuf⟩
  | succ n ih =>
      simp only [takeBranches, Except.bind_eq_ok_iff, takePoint_eq_ok_iff,
        takeScalar_eq_ok_iff S.order_le, ih, Prod.exists, Except.pure_eq_ok, Except.ok.injEq,
        Prod.mk.injEq]
      constructor
      · rintro ⟨a, r1, ⟨rfl, ha⟩, c, r2, rfl, s, r3, rfl, bs', r4, ⟨hlen, rfl, hbs⟩, rfl, rfl⟩
        refine ⟨by simp [hlen], by simp [branchBytes], ?_⟩
        intro b hb
        rcases List.mem_cons.mp hb with rfl | hb
        · exact ha
        · exact hbs b hb
      · rintro ⟨hlen, rfl, hbs⟩
        cases bs with
        | nil => simp at hlen
        | cons b bs =>
            refine ⟨b.a, _, ⟨?_, hbs b (by simp)⟩, b.c, _, rfl, b.s, _, rfl, bs, rest, ⟨?_, rfl,
              fun b' hb' => hbs b' (by simp [hb'])⟩, rfl, rfl⟩
            · simp [branchBytes]
            · simpa using hlen

/-- No point of the message is the identity, and its branches can be counted. -/
structure Auth1.Proper (m : Auth1 q G) : Prop where
  a : m.clientProof.a ≠ 0
  ephC : m.ephC ≠ 0
  cPrime : m.cPrime ≠ 0
  rerandA : m.rerandProof.a ≠ 0
  branches : ∀ b ∈ m.branches, b.a ≠ 0
  count : m.branches.length < 256 ^ 2

omit [DecidableEq G] [NeZero q] in
theorem length_branchBytes (bs : List (SetBranch q G)) :
    (bs.flatMap (branchBytes S)).length = 96 * bs.length := by
  induction bs with
  | nil => rfl
  | cons b bs ih =>
      simp [branchBytes, ih]
      omega

theorem Auth1.decode_eq_ok_iff {buf : List UInt8} {m : Auth1 q G} :
    Auth1.decode S buf = .ok m ↔ buf = m.encode S ∧ m.Proper := by
  simp only [Auth1.decode, rejectTrailing, Except.bind_eq_ok_iff, ensure_eq_ok_iff,
    takeBytes_eq_ok_iff, takePoint_eq_ok_iff, takeScalar_eq_ok_iff S.order_le,
    takeFixed_eq_ok_iff, takeBranches_eq_ok_iff, Prod.exists, Except.pure_eq_ok, Except.ok.injEq]
  constructor
  · rintro ⟨pid, r1, rfl, ac, r2, ⟨rfl, h1⟩, sc, r3, rfl, nc, r4, rfl, ec, r5, ⟨rfl, h2⟩, cp, r6,
      ⟨rfl, h3⟩, ra, r7, ⟨rfl, h4⟩, rs, r8, rfl, nb, r9, rfl, -, -, bs, r10, ⟨hlen, rfl, h5⟩, -,
      rfl, rfl⟩
    have hlt : leNat nb.val < 256 ^ 2 := by simpa using leNat_lt nb.val
    have hnb : natLE 2 (leNat nb.val) = nb.val := by
      have h := natLE_leNat nb.val
      rwa [nb.len] at h
    refine ⟨?_, h1, h2, h3, h4, h5, by rw [hlen]; exact hlt⟩
    simp only [Auth1.encode, hlen, hnb, List.append_nil]
    rfl
  · rintro ⟨rfl, h1, h2, h3, h4, h5, h6⟩
    refine ⟨_, _, rfl, _, _, ⟨rfl, h1⟩, _, _, rfl, _, _, rfl, _, _, ⟨rfl, h2⟩, _, _, ⟨rfl, h3⟩, _,
      _, ⟨rfl, h4⟩, _, _, rfl, ⟨natLE 2 m.branches.length, natLE_length _ _⟩, _, rfl, (), ?_,
      m.branches, [], ⟨(leNat_natLE h6).symm, ?_, h5⟩, (), rfl, rfl⟩
    · rw [leNat_natLE h6]
      exact (length_branchBytes (S := S) m.branches).ge
    · simp only [List.append_nil]
      rfl

omit [AddCommGroup G] [Module (ZMod q) G] [DecidableEq G] [NeZero q] in
theorem Auth3.decode_eq_ok_iff {buf : List UInt8} {m : Auth3} :
    Auth3.decode buf = .ok m ↔ buf = m.encode := by
  simp only [Auth3.decode, rejectTrailing, Except.bind_eq_ok_iff, ensure_eq_ok_iff,
    takeBytes_eq_ok_iff, Prod.exists, Except.pure_eq_ok, Except.ok.injEq]
  constructor
  · rintro ⟨t, r, rfl, -, rfl, rfl⟩
    simp [Auth3.encode]
  · rintro rfl
    exact ⟨m.tagC, [], by simp [Auth3.encode], (), rfl, rfl⟩

end

end ZkArche.Rust
