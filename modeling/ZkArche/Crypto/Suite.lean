import Mathlib.Data.ZMod.Basic
import Mathlib.Algebra.Module.Basic
import ZkArche.Wire.Errors

/-!
# The cryptographic suite

The program calls libsodium from C and curve25519-dalek, sha2, hkdf and hmac from Rust.
None of that code is part of the repository.  A `Suite` is what both sides rely on: one
group of prime order with a canonical point encoding, and hash functions about which
nothing is assumed.

Scalars are integers modulo the order `q`.  The canonical encoding of a scalar is its
least residue in 32 little-endian bytes (`encScalar`).  Three ways of reading 32 bytes
as a scalar occur in the two libraries.

* `scalarOf` reduces the whole number.  The libsodium scalar operations do this.
* `clamped` drops the top bit first.  The libsodium scalar multiplications do this.
* `decScalar` refuses anything but the canonical encoding.  dalek's
  `from_canonical_bytes` does this.

On a canonical encoding all three agree, since `q ≤ 2 ^ 255`.

The last section wraps the suite the way `crypto.c` wraps libsodium: over bytes, with a
failure where libsodium reports one.  A scalar multiplication fails when its result is
the identity, and an addition fails only on an invalid encoding.
-/

namespace ZkArche

/-- A prime-order group with encodings, and the hash functions.  The order `q` and the
group `G` are parameters, so that the group law is Mathlib's. -/
structure Suite (q : ℕ) (G : Type) [AddCommGroup G] [Module (ZMod q) G] where
  /-- The base point. -/
  base : G
  /-- The canonical 32-byte encoding of a point. -/
  encPoint : G → Bytes 32
  /-- Decoding accepts the canonical encodings only. -/
  decPoint : Bytes 32 → Option G
  decPoint_eq_some_iff : ∀ b P, decPoint b = some P ↔ encPoint P = b
  /-- The identity is the all-zero string. -/
  encPoint_zero : encPoint 0 = Bytes.zero 32
  /-- `from_uniform_bytes` / `crypto_core_ristretto255_from_hash`. -/
  fromUniform : Bytes 64 → G
  sha256 : List UInt8 → Bytes 32
  sha512 : List UInt8 → Bytes 64
  /-- HMAC-SHA256 of a key and a message. -/
  hmac : List UInt8 → List UInt8 → Bytes 32
  /-- HKDF-SHA256 of a salt, key material and info, 32 bytes of output. -/
  hkdf : List UInt8 → List UInt8 → List UInt8 → Bytes 32
  blake2b256 : List UInt8 → Bytes 32
  blake2b512 : List UInt8 → Bytes 64
  /-- A canonical scalar leaves the top bit of its encoding clear. -/
  order_le : q ≤ 2 ^ 255

/-! ## Scalars -/

section Scalars

variable {q : ℕ}

/-- `Scalar::to_bytes`: the least residue, little-endian. -/
def encScalar (x : ZMod q) : Bytes 32 := ⟨natLE 32 x.val, natLE_length _ _⟩

/-- A byte string as a scalar, reduced modulo the order. -/
def scalarOf {n : ℕ} (b : Bytes n) : ZMod q := (leNat b.val : ZMod q)

/-- A byte string as a scalar after the top bit is dropped. -/
def clamped (b : Bytes 32) : ZMod q := ((leNat b.val % 2 ^ 255 : ℕ) : ZMod q)

/-- `Scalar::from_canonical_bytes`. -/
def decScalar (b : Bytes 32) : Option (ZMod q) :=
  if leNat b.val < q then some (leNat b.val : ZMod q) else none

/-- The bytes of a `u64`, little-endian. -/
def u64LE (x : UInt64) : List UInt8 := natLE 8 x.toNat

/-- `Scalar::from(u64)`. -/
def scalarOfU64 (x : UInt64) : ZMod q := (x.toNat : ZMod q)

variable [NeZero q]

theorem val_lt_two_pow (h : q ≤ 2 ^ 255) (x : ZMod q) : x.val < 2 ^ 255 :=
  Nat.lt_of_lt_of_le (ZMod.val_lt x) h

theorem leNat_encScalar (h : q ≤ 2 ^ 255) (x : ZMod q) : leNat (encScalar x).val = x.val := by
  apply leNat_natLE
  have := val_lt_two_pow h x
  omega

/-- Reading an encoding back, with the whole number reduced. -/
theorem scalarOf_encScalar (h : q ≤ 2 ^ 255) (x : ZMod q) :
    (scalarOf (encScalar x) : ZMod q) = x := by
  rw [scalarOf, leNat_encScalar h]
  exact ZMod.natCast_zmod_val x

/-- Reading an encoding back, with the top bit dropped. -/
theorem clamped_encScalar (h : q ≤ 2 ^ 255) (x : ZMod q) :
    (clamped (encScalar x) : ZMod q) = x := by
  rw [clamped, leNat_encScalar h, Nat.mod_eq_of_lt (val_lt_two_pow h x)]
  exact ZMod.natCast_zmod_val x

/-- The canonical decoder accepts exactly the encodings. -/
theorem decScalar_eq_some_iff (h : q ≤ 2 ^ 255) {b : Bytes 32} {x : ZMod q} :
    decScalar b = some x ↔ encScalar x = b := by
  constructor
  · intro hd
    unfold decScalar at hd
    split at hd
    next hlt =>
      cases hd
      apply Bytes.ext
      have hb := natLE_leNat b.val
      rw [b.len] at hb
      simp only [encScalar, ZMod.val_natCast_of_lt hlt, hb]
    next => cases hd
  · rintro rfl
    unfold decScalar
    rw [leNat_encScalar h, if_pos (ZMod.val_lt x), ZMod.natCast_zmod_val]

theorem encScalar_inj (h : q ≤ 2 ^ 255) {x y : ZMod q} (he : encScalar x = encScalar y) :
    x = y := by
  rw [← scalarOf_encScalar h x, he, scalarOf_encScalar h y]

end Scalars

/-! ## Points -/

namespace Suite

variable {q : ℕ} {G : Type} [AddCommGroup G] [Module (ZMod q) G] (S : Suite q G)

@[simp] theorem decPoint_encPoint (P : G) : S.decPoint (S.encPoint P) = some P :=
  (S.decPoint_eq_some_iff _ _).mpr rfl

theorem encPoint_inj {P Q : G} (h : S.encPoint P = S.encPoint Q) : P = Q := by
  have h1 := S.decPoint_encPoint P
  rw [h, S.decPoint_encPoint] at h1
  exact (Option.some.inj h1).symm

theorem encPoint_eq_zero_iff {P : G} : S.encPoint P = Bytes.zero 32 ↔ P = 0 := by
  rw [← S.encPoint_zero]
  constructor
  · exact S.encPoint_inj
  · intro h
    rw [h]

/-- `attr_h` / `auth_attr_h`: the second generator, hashed to the group. -/
def attrH : G :=
  S.fromUniform (S.sha512 (ascii "ristretto-hash-to-point-v1" ++ ascii "iot-auth/attr-h/v1"))

end Suite

/-! ## The wrappers of `crypto.c` -/

namespace C

variable {q : ℕ} {G : Type} [AddCommGroup G] [Module (ZMod q) G] (S : Suite q G)

/-- `auth_check_point`. -/
def authCheckPoint (p : Bytes 32) : Except AuthErr Unit := do
  ensure (p ≠ Bytes.zero 32) .identityPoint
  ensure ((S.decPoint p).isSome) .invalidPoint

/-- A result of libsodium's scalar multiplication, which refuses the identity. -/
def multResult (P : G) : Except AuthErr (Bytes 32) := do
  ensure (S.encPoint P ≠ Bytes.zero 32) .invalidPoint
  return S.encPoint P

/-- `auth_scalarmult_base`. -/
def authScalarmultBase (s : Bytes 32) : Except AuthErr (Bytes 32) :=
  multResult S ((clamped s : ZMod q) • S.base)

/-- `auth_scalarmult`. -/
def authScalarmult (s p : Bytes 32) : Except AuthErr (Bytes 32) :=
  match S.decPoint p with
  | none => .error .invalidPoint
  | some P => multResult S ((clamped s : ZMod q) • P)

/-- `auth_point_add`. -/
def authPointAdd (a b : Bytes 32) : Except AuthErr (Bytes 32) :=
  match S.decPoint a, S.decPoint b with
  | some P, some Q => .ok (S.encPoint (P + Q))
  | _, _ => .error .invalidPoint

/-- `auth_point_sub`. -/
def authPointSub (a b : Bytes 32) : Except AuthErr (Bytes 32) :=
  match S.decPoint a, S.decPoint b with
  | some P, some Q => .ok (S.encPoint (P - Q))
  | _, _ => .error .invalidPoint

/-- `auth_attr_h`. -/
def authAttrH : Bytes 32 := S.encPoint S.attrH

section Scalars

variable (q)

/-- `auth_random_scalar` / `auth_scalar_from_wide`, on the random bytes drawn. -/
def authScalarFromWide (wide : Bytes 64) : Bytes 32 := encScalar (scalarOf wide : ZMod q)

/-- `auth_scalar_add`. -/
def authScalarAdd (a b : Bytes 32) : Bytes 32 := encScalar (scalarOf a + scalarOf b : ZMod q)

/-- `auth_scalar_sub`. -/
def authScalarSub (a b : Bytes 32) : Bytes 32 := encScalar (scalarOf a - scalarOf b : ZMod q)

/-- `auth_scalar_mul`. -/
def authScalarMul (a b : Bytes 32) : Bytes 32 := encScalar (scalarOf a * scalarOf b : ZMod q)

end Scalars

/-- `auth_scalar_from_u64`: eight little-endian bytes, then zeros.  No reduction. -/
def authScalarFromU64 (x : UInt64) : Bytes 32 := ⟨natLE 32 x.toNat, natLE_length _ _⟩

/-! ### The wrappers on canonical encodings -/

@[simp] theorem authCheckPoint_encPoint {P : G} (h : P ≠ 0) :
    authCheckPoint S (S.encPoint P) = .ok () := by
  have hz : S.encPoint P ≠ Bytes.zero 32 := fun he => h (S.encPoint_eq_zero_iff.mp he)
  simp [authCheckPoint, hz]

theorem multResult_of_ne {P : G} (h : P ≠ 0) : multResult S P = .ok (S.encPoint P) := by
  have hz : S.encPoint P ≠ Bytes.zero 32 := fun he => h (S.encPoint_eq_zero_iff.mp he)
  simp [multResult, hz]

theorem authPointAdd_encPoint (P Q : G) :
    authPointAdd S (S.encPoint P) (S.encPoint Q) = .ok (S.encPoint (P + Q)) := by
  simp [authPointAdd]

theorem authPointSub_encPoint (P Q : G) :
    authPointSub S (S.encPoint P) (S.encPoint Q) = .ok (S.encPoint (P - Q)) := by
  simp [authPointSub]

variable [NeZero q]

theorem authScalarmultBase_encScalar {x : ZMod q} (h : x • S.base ≠ 0) :
    authScalarmultBase S (encScalar x) = .ok (S.encPoint (x • S.base)) := by
  rw [authScalarmultBase, clamped_encScalar S.order_le, multResult_of_ne S h]

theorem authScalarmult_encScalar {x : ZMod q} {P : G} (h : x • P ≠ 0) :
    authScalarmult S (encScalar x) (S.encPoint P) = .ok (S.encPoint (x • P)) := by
  simp only [authScalarmult, S.decPoint_encPoint, clamped_encScalar S.order_le,
    multResult_of_ne S h]

theorem authScalarAdd_encScalar (h : q ≤ 2 ^ 255) (x y : ZMod q) :
    authScalarAdd q (encScalar x) (encScalar y) = encScalar (x + y) := by
  rw [authScalarAdd, scalarOf_encScalar h, scalarOf_encScalar h]

theorem authScalarSub_encScalar (h : q ≤ 2 ^ 255) (x y : ZMod q) :
    authScalarSub q (encScalar x) (encScalar y) = encScalar (x - y) := by
  rw [authScalarSub, scalarOf_encScalar h, scalarOf_encScalar h]

theorem authScalarMul_encScalar (h : q ≤ 2 ^ 255) (x y : ZMod q) :
    authScalarMul q (encScalar x) (encScalar y) = encScalar (x * y) := by
  rw [authScalarMul, scalarOf_encScalar h, scalarOf_encScalar h]

omit [NeZero q] in
/-- A role code is far below the top bit, so it is read as itself. -/
theorem clamped_authScalarFromU64 (x : UInt64) :
    (clamped (authScalarFromU64 x) : ZMod q) = scalarOfU64 x := by
  have hx : x.toNat < 2 ^ 64 := x.toNat_lt
  have hle : leNat (authScalarFromU64 x).val = x.toNat := leNat_natLE (by omega)
  rw [clamped, hle, Nat.mod_eq_of_lt (by omega), scalarOfU64]

end C

end ZkArche
