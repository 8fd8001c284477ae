import ZkArche.Lib.Bytes

/-!
# Canonical codecs

An encoder and a decoder form a *canonical codec* when a string decodes to a value exactly when the
value encodes to the string.  Then the decoder accepts the image of the encoder and nothing else
(`CanonicalCodec.accepts_iff`), and no value has two encodings and no string two values.
-/

/-- A string decodes to a value exactly when the value encodes to the string. -/
def CanonicalCodec {α β ε δ : Type} (encode : α → Except ε β) (decode : β → Except δ α) : Prop :=
  ∀ a b, decode b = .ok a ↔ encode a = .ok b

namespace CanonicalCodec

variable {α β ε δ : Type} {encode : α → Except ε β} {decode : β → Except δ α}

theorem decode_encode (h : CanonicalCodec encode decode) {a : α} {b : β} (hb : encode a = .ok b) :
    decode b = .ok a := (h a b).mpr hb

theorem encode_decode (h : CanonicalCodec encode decode) {a : α} {b : β} (ha : decode b = .ok a) :
    encode a = .ok b := (h a b).mp ha

/-- The decoder accepts the image of the encoder. -/
theorem accepts_iff (h : CanonicalCodec encode decode) (b : β) :
    (∃ a, decode b = .ok a) ↔ ∃ a, encode a = .ok b := exists_congr fun a => h a b

/-- A string is the encoding of one value. -/
theorem encode_inj (h : CanonicalCodec encode decode) {a a' : α} {b : β} (ha : encode a = .ok b)
    (ha' : encode a' = .ok b) : a = a' := by
  have hd := h.decode_encode ha
  rw [h.decode_encode ha'] at hd
  exact (Except.ok.inj hd).symm

/-- A value is the meaning of one string. -/
theorem decode_inj (h : CanonicalCodec encode decode) {a : α} {b b' : β} (hb : decode b = .ok a)
    (hb' : decode b' = .ok a) : b = b' := by
  have he := h.encode_decode hb
  rw [h.encode_decode hb'] at he
  exact (Except.ok.inj he).symm

end CanonicalCodec
