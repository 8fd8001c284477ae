import ZkArche.Crypto.ProofsRust
import ZkArche.Wire.PayloadsC

/-!
# Session keys and key confirmation

Both sides of an authentication derive a session key from the shared point, hash a
transcript of ten values, derive one MAC key per direction, and tag the transcript hash
under the key of the direction.  The derivations are written four times: by client and
server, in C and in Rust.

`Confirmation` is what all four compute, over the bytes on the wire.  `Confirmation.agree`
is what a tag is worth: two runs of the derivation with the same tag have the same ten
values and the same keys, unless two different inputs of a hash function have one output.
`Confirmation.cross` says that a tag of one direction is never a tag of the other, with
the same exception.  Nothing is assumed about the hash functions.

HKDF is one function of the suite.  `auth_hkdf_sha256` composes it from HMAC as RFC 5869
says, which is what the `hkdf` crate does.
-/

namespace ZkArche

/-! ## The confirmed values -/

/-- The ten values of the key-confirmation transcript, as they stand on the wire. -/
@[ext] structure KcParts where
  pid : Bytes 32
  aC : Bytes 32
  sC : Bytes 32
  nonceC : Bytes 32
  ephC : Bytes 32
  serverPub : Bytes 32
  aS : Bytes 32
  sS : Bytes 32
  nonceS : Bytes 32
  ephS : Bytes 32
deriving DecidableEq

/-- The transcript fields, in the order both languages append them. -/
def KcParts.fields (p : KcParts) : List Field :=
  [field "pid" p.pid.val,
    field "a_c" p.aC.val,
    field "s_c" p.sC.val,
    field "nonce_c" p.nonceC.val,
    field "eph_c" p.ephC.val,
    field "server_pub" p.serverPub.val,
    field "a_s" p.aS.val,
    field "s_s" p.sS.val,
    field "nonce_s" p.nonceS.val,
    field "eph_s" p.ephS.val]

theorem KcParts.fields_short (p : KcParts) : ∀ f ∈ p.fields, f.Short := by
  intro f hf
  simp only [fields, List.mem_cons, List.not_mem_nil, or_false] at hf
  obtain rfl | rfl | rfl | rfl | rfl | rfl | rfl | rfl | rfl | rfl := hf <;>
    exact field_short (by decide) (by simp)

/-- The transcript determines the ten values. -/
theorem KcParts.transcript_inj {p p' : KcParts}
    (h : transcript tKcV2 p.fields = transcript tKcV2 p'.fields) : p = p' := by
  have hd : tKcV2.length ≤ 255 := by decide
  have hf := (ZkArche.transcript_inj hd hd (fun f hf => (p.fields_short f hf).small)
    (fun f hf => (p'.fields_short f hf).small) h).2
  simp only [fields, field, List.cons.injEq, Prod.mk.injEq, true_and, and_true,
    Bytes.val_inj] at hf
  obtain ⟨h1, h2, h3, h4, h5, h6, h7, h8, h9, h10⟩ := hf
  cases p
  cases p'
  simp_all

section

variable {q : ℕ} {G : Type} [AddCommGroup G] [Module (ZMod q) G] (S : Suite q G)

/-! ## The derivations of the Rust crate -/

namespace Rust

/-- `derive_session_key`. -/
def deriveSessionKey (ephSecret : ZMod q) (peerEphPub : G) (nonceC nonceS pid : Bytes 32)
    (ephC ephS : G) : Bytes 32 :=
  let shared := ephSecret • peerEphPub
  S.hkdf (nonceC.val ++ nonceS.val) (S.encPoint shared).val
    (ascii "session key v2" ++ pid.val ++ (S.encPoint ephC).val ++ (S.encPoint ephS).val)

/-- `KcTranscriptParts`. -/
structure KcTranscriptParts (q : ℕ) (G : Type) where
  pid : Bytes 32
  aC : G
  sC : ZMod q
  nonceC : Bytes 32
  ephC : G
  serverPub : G
  aS : G
  sS : ZMod q
  nonceS : Bytes 32
  ephS : G

/-- The parts as the transcript encodes them. -/
def KcTranscriptParts.encode (p : KcTranscriptParts q G) : KcParts where
  pid := p.pid
  aC := S.encPoint p.aC
  sC := encScalar p.sC
  nonceC := p.nonceC
  ephC := S.encPoint p.ephC
  serverPub := S.encPoint p.serverPub
  aS := S.encPoint p.aS
  sS := encScalar p.sS
  nonceS := p.nonceS
  ephS := S.encPoint p.ephS

/-- `kc_transcript_hash`. -/
def kcTranscriptHash (p : KcTranscriptParts q G) : Bytes 32 :=
  S.sha256 (transcript tKcV2 (p.encode S).fields)

/-- `derive_kc_keys`: the server-to-client and the client-to-server key. -/
def deriveKcKeys (sessionKey th : Bytes 32) : Bytes 32 × Bytes 32 :=
  (S.hkdf th.val sessionKey.val (ascii "kc s2c"), S.hkdf th.val sessionKey.val (ascii "kc c2s"))

/-- `hmac_tag`. -/
def hmacTag (key : Bytes 32) (label : List UInt8) (th : Bytes 32) : Bytes 32 :=
  S.hmac key.val (label ++ th.val)

end Rust

/-! ## The derivations of the C library -/

namespace C

/-- `auth_derive_session_key`. -/
def authDeriveSessionKey (ephSecret peerEphPub nonceC nonceS pid ephC ephS : Bytes 32) :
    Except AuthErr (Bytes 32) := do
  let shared ← authScalarmult S ephSecret peerEphPub
  return S.hkdf (nonceC.val ++ nonceS.val) shared.val
    (ascii "session key v2" ++ pid.val ++ ephC.val ++ ephS.val)

/-- `auth_kc_transcript_hash`. -/
def authKcTranscriptHash (pid : Bytes 32) (cp : SchnorrProof) (nonceC ephC serverPub : Bytes 32)
    (sp : SchnorrProof) (nonceS ephS : Bytes 32) : Except AuthErr (Bytes 32) := do
  let t ← transcriptOf tKcV2
    [field "pid" pid.val,
      field "a_c" cp.a.val,
      field "s_c" cp.s.val,
      field "nonce_c" nonceC.val,
      field "eph_c" ephC.val,
      field "server_pub" serverPub.val,
      field "a_s" sp.a.val,
      field "s_s" sp.s.val,
      field "nonce_s" nonceS.val,
      field "eph_s" ephS.val]
  authTranscriptHashSha256 S t

/-- `auth_derive_kc_keys`: the server-to-client and the client-to-server key. -/
def authDeriveKcKeys (sessionKey th : Bytes 32) : Bytes 32 × Bytes 32 :=
  (S.hkdf th.val sessionKey.val (ascii "kc s2c"), S.hkdf th.val sessionKey.val (ascii "kc c2s"))

/-- `auth_hmac_tag`. -/
def authHmacTag (key : Bytes 32) (label : List UInt8) (th : Bytes 32) : Bytes 32 :=
  S.hmac key.val (label ++ th.val)

end C

/-! ## What all four compute -/

/-- The direction a confirmation tag travels. -/
inductive Direction where
  | s2c
  | c2s
deriving DecidableEq

/-- The label of the MAC key of a direction. -/
def Direction.keyLabel : Direction → List UInt8
  | .s2c => ascii "kc s2c"
  | .c2s => ascii "kc c2s"

/-- The label a tag of the direction starts with. -/
def Direction.tagLabel : Direction → List UInt8
  | .s2c => ascii "server finished"
  | .c2s => ascii "client finished"

/-- One run of the derivations: the ten values and the shared point. -/
structure Confirmation where
  parts : KcParts
  shared : Bytes 32

namespace Confirmation

/-- The call of HKDF for the session key. -/
def sessionCall (c : Confirmation) : List UInt8 × List UInt8 × List UInt8 :=
  (c.parts.nonceC.val ++ c.parts.nonceS.val, c.shared.val,
    ascii "session key v2" ++ c.parts.pid.val ++ c.parts.ephC.val ++ c.parts.ephS.val)

/-- The session key. -/
def sessionKey (c : Confirmation) : Bytes 32 :=
  S.hkdf c.sessionCall.1 c.sessionCall.2.1 c.sessionCall.2.2

/-- The call of the transcript hash. -/
def hashCall (c : Confirmation) : List UInt8 := transcript tKcV2 c.parts.fields

/-- The transcript hash. -/
def th (c : Confirmation) : Bytes 32 := S.sha256 c.hashCall

/-- The call of HKDF for the MAC key of a direction. -/
def keyCall (c : Confirmation) (d : Direction) : List UInt8 × List UInt8 × List UInt8 :=
  ((c.th S).val, (c.sessionKey S).val, d.keyLabel)

/-- The MAC key of a direction. -/
def key (c : Confirmation) (d : Direction) : Bytes 32 :=
  S.hkdf (c.keyCall S d).1 (c.keyCall S d).2.1 (c.keyCall S d).2.2

/-- The call of HMAC for the tag of a direction. -/
def tagCall (c : Confirmation) (d : Direction) : List UInt8 × List UInt8 :=
  ((c.key S d).val, d.tagLabel ++ (c.th S).val)

/-- The tag of a direction. -/
def tag (c : Confirmation) (d : Direction) : Bytes 32 :=
  S.hmac (c.tagCall S d).1 (c.tagCall S d).2

/-- Two runs agree on the ten values, the session key and both MAC keys. -/
structure Agree (x y : Confirmation) : Prop where
  parts : x.parts = y.parts
  sessionKey : x.sessionKey S = y.sessionKey S
  keys : ∀ d, x.key S d = y.key S d

/-- Two different calls of HMAC with one output. -/
def HmacCollision (x : Confirmation) (dx : Direction) (y : Confirmation) (dy : Direction) :
    Prop :=
  x.tagCall S dx ≠ y.tagCall S dy ∧
    S.hmac (x.tagCall S dx).1 (x.tagCall S dx).2 = S.hmac (y.tagCall S dy).1 (y.tagCall S dy).2

/-- Two different calls of HKDF, for the MAC key of one direction, with one output. -/
def HkdfCollision (x y : Confirmation) (d : Direction) : Prop :=
  x.keyCall S d ≠ y.keyCall S d ∧
    S.hkdf (x.keyCall S d).1 (x.keyCall S d).2.1 (x.keyCall S d).2.2
      = S.hkdf (y.keyCall S d).1 (y.keyCall S d).2.1 (y.keyCall S d).2.2

/-- Two different transcripts with one hash. -/
def HashCollision (x y : Confirmation) : Prop :=
  x.hashCall ≠ y.hashCall ∧ S.sha256 x.hashCall = S.sha256 y.hashCall

/-- A collision among the calls behind the tags of one direction. -/
def Collision (x y : Confirmation) (d : Direction) : Prop :=
  HmacCollision S x d y d ∨ HkdfCollision S x y d ∨ HashCollision S x y

variable {S}

theorem tagLabel_length (d : Direction) : d.tagLabel.length = 15 := by
  cases d <;> decide

/-- The same tag for the same direction means the same values and keys. -/
theorem agree {x y : Confirmation} {d : Direction} (h : x.tag S d = y.tag S d) :
    Agree S x y ∨ Collision S x y d := by
  by_cases hmac : x.tagCall S d = y.tagCall S d
  · have hkey : x.key S d = y.key S d := Bytes.val_inj.mp (congrArg Prod.fst hmac)
    have hth : x.th S = y.th S :=
      Bytes.val_inj.mp (List.append_cancel_left (congrArg Prod.snd hmac))
    by_cases hhash : x.hashCall = y.hashCall
    · have hparts : x.parts = y.parts := KcParts.transcript_inj hhash
      by_cases hkdf : x.keyCall S d = y.keyCall S d
      · have hsk : x.sessionKey S = y.sessionKey S :=
          Bytes.val_inj.mp (congrArg (fun c => c.2.1) hkdf)
        refine .inl ⟨hparts, hsk, ?_⟩
        intro d'
        simp only [key, keyCall, hth, hsk]
      · exact .inr (.inr (.inl ⟨hkdf, hkey⟩))
    · exact .inr (.inr (.inr ⟨hhash, hth⟩))
  · exact .inr (.inl ⟨hmac, h⟩)

/-- A tag of one direction that passes for the other direction is an HMAC collision. -/
theorem cross {x y : Confirmation} {d d' : Direction} (hd : d ≠ d')
    (h : x.tag S d = y.tag S d') : HmacCollision S x d y d' := by
  refine ⟨?_, h⟩
  intro hc
  have hmsg : d.tagLabel ++ (x.th S).val = d'.tagLabel ++ (y.th S).val := congrArg Prod.snd hc
  have hlen : d.tagLabel.length = d'.tagLabel.length := by
    rw [tagLabel_length, tagLabel_length]
  have hlabel := (List.append_inj hmsg hlen).1
  revert hd hlabel
  cases d <;> cases d' <;> decide

end Confirmation

/-! ### The C functions compute it -/

namespace C

/-- The C transcript hash never fails. -/
theorem authKcTranscriptHash_eq (pid : Bytes 32) (cp : SchnorrProof)
    (nonceC ephC serverPub : Bytes 32) (sp : SchnorrProof) (nonceS ephS shared : Bytes 32) :
    authKcTranscriptHash S pid cp nonceC ephC serverPub sp nonceS ephS
      = .ok (Confirmation.th S
          ⟨⟨pid, cp.a, cp.s, nonceC, ephC, serverPub, sp.a, sp.s, nonceS, ephS⟩, shared⟩) := by
  set p : KcParts := ⟨pid, cp.a, cp.s, nonceC, ephC, serverPub, sp.a, sp.s, nonceS, ephS⟩
  have hd : tKcV2.length ≤ 255 := by decide
  have ht := transcriptOf_eq hd (fun f hf => (p.fields_short f hf).small)
    (transcript_length_le hd (by simp [KcParts.fields]) p.fields_short)
  rw [authKcTranscriptHash]
  change ((transcriptOf tKcV2 p.fields) >>= fun t => authTranscriptHashSha256 S t) = _
  rw [ht]
  rfl

theorem authDeriveSessionKey_eq_ok_iff
    {ephSecret peerEphPub nonceC nonceS pid ephC ephS key : Bytes 32} :
    authDeriveSessionKey S ephSecret peerEphPub nonceC nonceS pid ephC ephS = .ok key ↔
      ∃ shared, authScalarmult S ephSecret peerEphPub = .ok shared ∧
        S.hkdf (nonceC.val ++ nonceS.val) shared.val
          (ascii "session key v2" ++ pid.val ++ ephC.val ++ ephS.val) = key := by
  simp [authDeriveSessionKey, Except.bind_eq_ok_iff]

end C

end

end ZkArche
