import ZkArche.Wire.Header

/-!
# Payload codecs of the C library

One structure per message of `payloads.h`, with its encoder and decoder from
`payloads.c`.  Points and scalars are 32-byte strings here: the C decoders check
lengths and counts and nothing else, and validation is left to the handlers.

`take_fixed` reads at a moving offset.  The model passes the bytes that are left
instead, so `buf_len - off` is the length of that rest.

Every encoder is a layout function `bytes` behind the capacity check of the source.
Each message has two laws: the decoder reads back what the layout writes
(`decode_bytes`), and whatever the decoder accepts is the layout of what it returns
(`bytes_of_decode`).
-/

namespace ZkArche.C

/-! ## Messages -/

/-- `auth_schnorr_proof_t`. -/
structure SchnorrProof where
  a : Bytes 32
  s : Bytes 32
deriving DecidableEq, Inhabited

/-- `auth_set_branch_t`. -/
structure SetBranch where
  a : Bytes 32
  c : Bytes 32
  s : Bytes 32
deriving DecidableEq, Inhabited

/-- `auth_setup1_t`.  An absent token is the empty one. -/
structure Setup1 where
  pairingToken : List UInt8
  deviceId : Bytes 32
  devicePub : Bytes 32
  clientNonce : Bytes 32
  roleCommitment : Bytes 32
deriving DecidableEq

/-- `auth_setup2_t`. -/
structure Setup2 where
  serverNonce : Bytes 32
  setupChallenge : Bytes 16
  serverPub : Bytes 32
  serverProof : SchnorrProof
deriving DecidableEq

/-- `auth_setup3_t`. -/
structure Setup3 where
  clientProof : SchnorrProof
deriving DecidableEq

/-- `auth_auth1_t`.  The list is the first `n_branches` entries of the array. -/
structure Auth1 where
  pid : Bytes 32
  clientProof : SchnorrProof
  nonceC : Bytes 32
  ephC : Bytes 32
  cPrime : Bytes 32
  rerandProof : SchnorrProof
  branches : List SetBranch
deriving DecidableEq

/-- `auth_auth2_t`. -/
structure Auth2 where
  serverPub : Bytes 32
  serverProof : SchnorrProof
  nonceS : Bytes 32
  ephS : Bytes 32
  tagS : Bytes 32
deriving DecidableEq

/-- `auth_auth3_t`. -/
structure Auth3 where
  tagC : Bytes 32
deriving DecidableEq

/-! ## Helpers -/

/-- `take_fixed` for a 32-byte field. -/
def take32 (buf : List UInt8) : Except AuthErr (Bytes 32 × List UInt8) :=
  takeFixed .payloadTooShort 32 buf

theorem take32_eq_ok_iff {buf rest : List UInt8} {b : Bytes 32} :
    take32 buf = .ok (b, rest) ↔ buf = b.val ++ rest :=
  takeFixed_eq_ok_iff

@[simp] theorem take32_append (b : Bytes 32) (rest : List UInt8) :
    take32 (b.val ++ rest) = .ok (b, rest) := take32_eq_ok_iff.mpr rfl

@[simp] theorem take32_self (b : Bytes 32) : take32 b.val = .ok (b, []) :=
  take32_eq_ok_iff.mpr (by simp)

/-- `reject_trailing`. -/
def rejectTrailing (rest : List UInt8) : Except AuthErr Unit :=
  ensure (rest = []) .malformedPacket

/-- An encoder: the layout, when the output buffer has room for it. -/
def emit (layout : List UInt8) (cap : Nat) : Except AuthErr (List UInt8) := do
  ensure (layout.length ≤ cap) .bufferTooSmall
  return layout

theorem emit_eq_ok_iff {layout out : List UInt8} {cap : Nat} :
    emit layout cap = .ok out ↔ layout.length ≤ cap ∧ out = layout := by
  simp [emit, Except.bind_eq_ok_iff, @eq_comm _ out]

/-! ## SETUP_1 -/

/-- `token_len | token | device_id | device_pub | client_nonce | role_commitment`. -/
def Setup1.bytes (m : Setup1) : List UInt8 :=
  UInt8.ofNat m.pairingToken.length :: (m.pairingToken ++ (m.deviceId.val ++ (m.devicePub.val
    ++ (m.clientNonce.val ++ m.roleCommitment.val))))

/-- `auth_setup1_encode`. -/
def authSetup1Encode (m : Setup1) (cap : Nat) : Except AuthErr (List UInt8) := do
  ensure (m.pairingToken.length ≤ maxPairingToken) .invalidArgument
  emit m.bytes cap

/-- `auth_setup1_decode`. -/
def authSetup1Decode : List UInt8 → Except AuthErr Setup1
  | [] => .error .payloadTooShort
  | tlen :: rest => do
      ensure (tlen.toNat ≤ maxPairingToken) .malformedPacket
      ensure (tlen.toNat + 128 ≤ rest.length) .payloadTooShort
      let token := rest.take tlen.toNat
      let (deviceId, rest) ← take32 (rest.drop tlen.toNat)
      let (devicePub, rest) ← take32 rest
      let (clientNonce, rest) ← take32 rest
      let (roleCommitment, rest) ← take32 rest
      rejectTrailing rest
      return ⟨token, deviceId, devicePub, clientNonce, roleCommitment⟩

theorem Setup1.decode_bytes {m : Setup1} (h : m.pairingToken.length ≤ maxPairingToken) :
    authSetup1Decode m.bytes = .ok m := by
  have hlt : m.pairingToken.length < 256 := Nat.lt_of_le_of_lt h (by decide)
  have htok : (UInt8.ofNat m.pairingToken.length).toNat = m.pairingToken.length := by
    simp [Nat.mod_eq_of_lt hlt]
  rw [Setup1.bytes, authSetup1Decode, htok, ensure_pos h, ensure_pos (by simp)]
  simp [rejectTrailing]

theorem Setup1.bytes_of_decode {buf : List UInt8} {m : Setup1}
    (h : authSetup1Decode buf = .ok m) :
    m.bytes = buf ∧ m.pairingToken.length ≤ maxPairingToken := by
  cases buf with
  | nil => cases h
  | cons tlen rest =>
      simp only [authSetup1Decode, rejectTrailing, Except.bind_eq_ok_iff, ensure_eq_ok_iff,
        take32_eq_ok_iff, Prod.exists, Except.pure_eq_ok, Except.ok.injEq] at h
      obtain ⟨-, ht, -, hlen, deviceId, r1, h1, devicePub, r2, h2, clientNonce, r3, h3,
        roleCommitment, r4, h4, -, h5, rfl⟩ := h
      have htake : (rest.take tlen.toNat).length = tlen.toNat := by
        rw [List.length_take]
        omega
      refine ⟨?_, by rw [htake]; exact ht⟩
      subst h5
      rw [List.append_nil] at h4
      rw [Setup1.bytes, htake, ← h4, ← h3, ← h2, ← h1, List.take_append_drop]
      simp

/-! ## SETUP_2 -/

/-- `server_nonce | setup_challenge | server_pub | a_s | s_s`. -/
def Setup2.bytes (m : Setup2) : List UInt8 :=
  m.serverNonce.val ++ (m.setupChallenge.val ++ (m.serverPub.val ++ (m.serverProof.a.val
    ++ m.serverProof.s.val)))

/-- `auth_setup2_encode`. -/
def authSetup2Encode (m : Setup2) (cap : Nat) : Except AuthErr (List UInt8) :=
  emit m.bytes cap

/-- `auth_setup2_decode`. -/
def authSetup2Decode (buf : List UInt8) : Except AuthErr Setup2 := do
  let (serverNonce, rest) ← take32 buf
  let (setupChallenge, rest) ← takeFixed .payloadTooShort 16 rest
  let (serverPub, rest) ← take32 rest
  let (a, rest) ← take32 rest
  let (s, rest) ← take32 rest
  rejectTrailing rest
  return ⟨serverNonce, setupChallenge, serverPub, ⟨a, s⟩⟩

theorem Setup2.decode_bytes (m : Setup2) : authSetup2Decode m.bytes = .ok m := by
  simp [Setup2.bytes, authSetup2Decode, rejectTrailing]

theorem Setup2.bytes_of_decode {buf : List UInt8} {m : Setup2}
    (h : authSetup2Decode buf = .ok m) : m.bytes = buf := by
  simp only [authSetup2Decode, rejectTrailing, Except.bind_eq_ok_iff, ensure_eq_ok_iff,
    take32_eq_ok_iff, takeFixed_eq_ok_iff, Prod.exists, Except.pure_eq_ok, Except.ok.injEq] at h
  obtain ⟨sn, r1, rfl, sc, r2, rfl, sp, r3, rfl, a, r4, rfl, s, r5, rfl, -, rfl, rfl⟩ := h
  simp [Setup2.bytes]

/-! ## SETUP_3 -/

/-- `a_c | s_c`. -/
def Setup3.bytes (m : Setup3) : List UInt8 := m.clientProof.a.val ++ m.clientProof.s.val

/-- `auth_setup3_encode`. -/
def authSetup3Encode (m : Setup3) (cap : Nat) : Except AuthErr (List UInt8) :=
  emit m.bytes cap

/-- `auth_setup3_decode`. -/
def authSetup3Decode (buf : List UInt8) : Except AuthErr Setup3 := do
  let (a, rest) ← take32 buf
  let (s, rest) ← take32 rest
  rejectTrailing rest
  return ⟨⟨a, s⟩⟩

theorem Setup3.decode_bytes (m : Setup3) : authSetup3Decode m.bytes = .ok m := by
  simp [Setup3.bytes, authSetup3Decode, rejectTrailing]

theorem Setup3.bytes_of_decode {buf : List UInt8} {m : Setup3}
    (h : authSetup3Decode buf = .ok m) : m.bytes = buf := by
  simp only [authSetup3Decode, rejectTrailing, Except.bind_eq_ok_iff, ensure_eq_ok_iff,
    take32_eq_ok_iff, Prod.exists, Except.pure_eq_ok, Except.ok.injEq] at h
  obtain ⟨a, r1, rfl, s, r2, rfl, -, rfl, rfl⟩ := h
  simp [Setup3.bytes]

/-! ## AUTH_1 -/

/-- `A_i | c_i | s_i`. -/
def SetBranch.bytes (b : SetBranch) : List UInt8 := b.a.val ++ (b.c.val ++ b.s.val)

@[simp] theorem SetBranch.bytes_length (b : SetBranch) : b.bytes.length = 96 := by
  simp [SetBranch.bytes]

/-- The eight fixed fields, the branch count and the branches. -/
def Auth1.bytes (m : Auth1) : List UInt8 :=
  m.pid.val ++ (m.clientProof.a.val ++ (m.clientProof.s.val ++ (m.nonceC.val ++ (m.ephC.val
    ++ (m.cPrime.val ++ (m.rerandProof.a.val ++ (m.rerandProof.s.val
    ++ (natLE 2 m.branches.length ++ m.branches.flatMap SetBranch.bytes))))))))

/-- `auth_auth1_encode`. -/
def authAuth1Encode (m : Auth1) (cap : Nat) : Except AuthErr (List UInt8) := do
  ensure (m.branches.length ≤ maxRoles) .invalidArgument
  emit m.bytes cap

/-- The branch loop of `auth_auth1_decode`. -/
def takeBranches : Nat → List UInt8 → Except AuthErr (List SetBranch × List UInt8)
  | 0, rest => .ok ([], rest)
  | n + 1, rest => do
      let (a, rest) ← take32 rest
      let (c, rest) ← take32 rest
      let (s, rest) ← take32 rest
      let (bs, rest) ← takeBranches n rest
      return (⟨a, c, s⟩ :: bs, rest)

/-- `auth_auth1_decode`. -/
def authAuth1Decode (buf : List UInt8) : Except AuthErr Auth1 := do
  let (pid, rest) ← take32 buf
  let (ac, rest) ← take32 rest
  let (sc, rest) ← take32 rest
  let (nonceC, rest) ← take32 rest
  let (ephC, rest) ← take32 rest
  let (cPrime, rest) ← take32 rest
  let (ra, rest) ← take32 rest
  let (rs, rest) ← take32 rest
  let (nb, rest) ← takeFixed .payloadTooShort 2 rest
  let n := leNat nb.val
  ensure (n ≤ maxRoles) .malformedPacket
  ensure (n * 96 ≤ rest.length) .payloadTooShort
  let (branches, rest) ← takeBranches n rest
  rejectTrailing rest
  return ⟨pid, ⟨ac, sc⟩, nonceC, ephC, cPrime, ⟨ra, rs⟩, branches⟩

theorem takeBranches_bytes (bs : List SetBranch) (rest : List UInt8) :
    takeBranches bs.length (bs.flatMap SetBranch.bytes ++ rest) = .ok (bs, rest) := by
  induction bs with
  | nil => rfl
  | cons b bs ih =>
      simp [takeBranches, SetBranch.bytes, List.append_assoc, ih]

theorem takeBranches_inv {n : Nat} {buf rest : List UInt8} {bs : List SetBranch}
    (h : takeBranches n buf = .ok (bs, rest)) :
    bs.length = n ∧ buf = bs.flatMap SetBranch.bytes ++ rest := by
  induction n generalizing buf bs with
  | zero =>
      cases h
      simp
  | succ n ih =>
      simp only [takeBranches, Except.bind_eq_ok_iff, take32_eq_ok_iff, Prod.exists,
        Except.pure_eq_ok, Except.ok.injEq, Prod.mk.injEq] at h
      obtain ⟨a, r1, rfl, c, r2, rfl, s, r3, rfl, bs', r4, h4, rfl, rfl⟩ := h
      obtain ⟨hn, hr⟩ := ih h4
      simp [hn, hr, SetBranch.bytes]

/-- The length of the branch section. -/
@[simp] theorem branches_bytes_length (bs : List SetBranch) :
    (bs.flatMap SetBranch.bytes).length = 96 * bs.length := by
  induction bs with
  | nil => rfl
  | cons b bs ih =>
      simp [ih]
      omega

theorem Auth1.bytes_length (m : Auth1) : m.bytes.length = 258 + 96 * m.branches.length := by
  simp [Auth1.bytes]
  omega

theorem Auth1.decode_bytes {m : Auth1} (h : m.branches.length ≤ maxRoles) :
    authAuth1Decode m.bytes = .ok m := by
  have hlt : m.branches.length < 256 ^ 2 := Nat.lt_of_le_of_lt h (by decide)
  have hnb : takeFixed AuthErr.payloadTooShort 2
      (natLE 2 m.branches.length ++ m.branches.flatMap SetBranch.bytes)
      = .ok (⟨natLE 2 m.branches.length, natLE_length _ _⟩,
          m.branches.flatMap SetBranch.bytes) := takeFixed_eq_ok_iff.mpr rfl
  have hb : takeBranches m.branches.length (m.branches.flatMap SetBranch.bytes)
      = .ok (m.branches, []) := by
    simpa using takeBranches_bytes m.branches []
  simp only [Auth1.bytes, authAuth1Decode, take32_append, Except.ok_bind', hnb,
    leNat_natLE hlt, ensure_pos h]
  rw [ensure_pos (by simp)]
  simp [hb, rejectTrailing]

theorem Auth1.bytes_of_decode {buf : List UInt8} {m : Auth1} (h : authAuth1Decode buf = .ok m) :
    m.bytes = buf ∧ m.branches.length ≤ maxRoles := by
  simp only [authAuth1Decode, rejectTrailing, Except.bind_eq_ok_iff, ensure_eq_ok_iff,
    take32_eq_ok_iff, takeFixed_eq_ok_iff, Prod.exists, Except.pure_eq_ok,
    Except.ok.injEq] at h
  obtain ⟨pid, r1, rfl, ac, r2, rfl, sc, r3, rfl, nonceC, r4, rfl, ephC, r5, rfl, cPrime, r6,
    rfl, ra, r7, rfl, rs, r8, rfl, nb, r9, rfl, -, hn, -, -, bs, r10, hbs, -, rfl, rfl⟩ := h
  obtain ⟨hlen, hr9⟩ := takeBranches_inv hbs
  refine ⟨?_, by rw [hlen]; exact hn⟩
  have hnb : natLE 2 (leNat nb.val) = nb.val := by
    have h2 := natLE_leNat nb.val
    rwa [nb.len] at h2
  simp [Auth1.bytes, hlen, hnb, hr9]

/-! ## AUTH_2 -/

/-- `server_pub | a_s | s_s | nonce_s | eph_s | tag_s`. -/
def Auth2.bytes (m : Auth2) : List UInt8 :=
  m.serverPub.val ++ (m.serverProof.a.val ++ (m.serverProof.s.val ++ (m.nonceS.val
    ++ (m.ephS.val ++ m.tagS.val))))

/-- `auth_auth2_encode`. -/
def authAuth2Encode (m : Auth2) (cap : Nat) : Except AuthErr (List UInt8) :=
  emit m.bytes cap

/-- `auth_auth2_decode`. -/
def authAuth2Decode (buf : List UInt8) : Except AuthErr Auth2 := do
  let (serverPub, rest) ← take32 buf
  let (a, rest) ← take32 rest
  let (s, rest) ← take32 rest
  let (nonceS, rest) ← take32 rest
  let (ephS, rest) ← take32 rest
  let (tagS, rest) ← take32 rest
  rejectTrailing rest
  return ⟨serverPub, ⟨a, s⟩, nonceS, ephS, tagS⟩

theorem Auth2.bytes_length (m : Auth2) : m.bytes.length = 192 := by
  simp [Auth2.bytes]

theorem Auth2.decode_bytes (m : Auth2) : authAuth2Decode m.bytes = .ok m := by
  simp [Auth2.bytes, authAuth2Decode, rejectTrailing]

theorem Auth2.bytes_of_decode {buf : List UInt8} {m : Auth2} (h : authAuth2Decode buf = .ok m) :
    m.bytes = buf := by
  simp only [authAuth2Decode, rejectTrailing, Except.bind_eq_ok_iff, ensure_eq_ok_iff,
    take32_eq_ok_iff, Prod.exists, Except.pure_eq_ok, Except.ok.injEq] at h
  obtain ⟨sp, r1, rfl, a, r2, rfl, s, r3, rfl, ns, r4, rfl, es, r5, rfl, ts, r6, rfl, -, rfl,
    rfl⟩ := h
  simp [Auth2.bytes]

/-! ## AUTH_3 -/

/-- `tag_c`. -/
def Auth3.bytes (m : Auth3) : List UInt8 := m.tagC.val

/-- `auth_auth3_encode`. -/
def authAuth3Encode (m : Auth3) (cap : Nat) : Except AuthErr (List UInt8) :=
  emit m.bytes cap

/-- `auth_auth3_decode`. -/
def authAuth3Decode (buf : List UInt8) : Except AuthErr Auth3 := do
  let (tagC, rest) ← take32 buf
  rejectTrailing rest
  return ⟨tagC⟩

theorem Auth3.decode_bytes (m : Auth3) : authAuth3Decode m.bytes = .ok m := by
  simp [Auth3.bytes, authAuth3Decode, rejectTrailing]

theorem Auth3.bytes_of_decode {buf : List UInt8} {m : Auth3} (h : authAuth3Decode buf = .ok m) :
    m.bytes = buf := by
  simp only [authAuth3Decode, rejectTrailing, Except.bind_eq_ok_iff, ensure_eq_ok_iff,
    take32_eq_ok_iff, Prod.exists, Except.pure_eq_ok, Except.ok.injEq] at h
  obtain ⟨t, r1, rfl, -, rfl, rfl⟩ := h
  simp [Auth3.bytes]

/-! ## Acknowledgements -/

/-- `auth_ack_encode`. -/
def authAckEncode (cap : Nat) : Except AuthErr (List UInt8) := emit [ackByte] cap

/-- `auth_ack_decode`. -/
def authAckDecode (buf : List UInt8) : Except AuthErr Unit :=
  ensure (buf = [ackByte]) .malformedPacket

/-! ## The fields of a message -/

/-- The fields of a message, by kind: keys and ephemeral points, other points, scalars. -/
structure Carried where
  keys : List (Bytes 32)
  points : List (Bytes 32)
  scalars : List (Bytes 32)

/-- The fields of a SETUP_1. -/
def Setup1.carried (m : Setup1) : Carried := ⟨[m.devicePub], [m.roleCommitment], []⟩

/-- The fields of a SETUP_2. -/
def Setup2.carried (m : Setup2) : Carried :=
  ⟨[m.serverPub], [m.serverProof.a], [m.serverProof.s]⟩

/-- The fields of a SETUP_3. -/
def Setup3.carried (m : Setup3) : Carried := ⟨[], [m.clientProof.a], [m.clientProof.s]⟩

/-- The fields of an AUTH_1. -/
def Auth1.carried (m : Auth1) : Carried :=
  ⟨[m.ephC], [m.cPrime, m.clientProof.a, m.rerandProof.a] ++ m.branches.map SetBranch.a,
    [m.clientProof.s, m.rerandProof.s] ++ m.branches.map SetBranch.c
      ++ m.branches.map SetBranch.s⟩

/-- The fields of an AUTH_2. -/
def Auth2.carried (m : Auth2) : Carried :=
  ⟨[m.serverPub, m.ephS], [m.serverProof.a], [m.serverProof.s]⟩

end ZkArche.C
