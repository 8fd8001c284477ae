import ZkArche.Crypto.Parity

/-!
# A small suite

The integers modulo 11 as a group of order 11, with a checksum in place of every hash
function.  Results about every suite are evaluated here on concrete packets.
-/

namespace ZkArche

/-- A checksum of a byte string. -/
def checksum (l : List UInt8) : ℕ := l.foldl (fun a b => (3 * a + b.toNat + 1) % 251) 1

/-- The small suite. -/
def smallSuite : Suite 11 (ZMod 11) where
  base := 1
  encPoint := encScalar
  decPoint := decScalar
  decPoint_eq_some_iff := fun _ _ => decScalar_eq_some_iff (by decide)
  encPoint_zero := C.encScalar_zero
  fromUniform := fun _ => 2
  sha256 := fun l => ⟨natLE 32 (checksum l), natLE_length _ _⟩
  sha512 := fun l => ⟨natLE 64 (checksum l), natLE_length _ _⟩
  hmac := fun k m => ⟨natLE 32 (checksum (k ++ m)), natLE_length _ _⟩
  hkdf := fun salt ikm info => ⟨natLE 32 (checksum (salt ++ ikm ++ info)), natLE_length _ _⟩
  blake2b256 := fun l => ⟨natLE 32 (checksum l), natLE_length _ _⟩
  blake2b512 := fun l => ⟨natLE 64 (checksum l), natLE_length _ _⟩
  order_le := by decide

/-- The key of a server of the small suite. -/
def demoServerKey : ZMod 11 := 5

/-- The key of a device of the small suite. -/
def demoDeviceKey : ZMod 11 := 3

/-- The role commitment of that device. -/
def demoCommitment : ZMod 11 := 2

/-- A byte string that starts with the given byte, and is zero after it. -/
def byteString (n : ℕ) (b : UInt8) : Bytes (n + 1) := ⟨b :: List.replicate n 0, by simp⟩

end ZkArche
