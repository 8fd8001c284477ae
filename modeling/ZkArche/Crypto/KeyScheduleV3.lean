import ZkArche.Crypto.TranscriptV3
import ZkArche.Lib.StreamHash

/-!
# The key schedule of the v3 draft

`auth_v3.rs` and `auth_v3.c` derive three keys from the session key and the hash of the v3
transcript, and a tag with each.  The tags of the server and of the client confirm the transcript.
The tag of the acknowledgement confirms the transcript together with the tag of the client.

Both languages compute one thing (`ConfirmationV3`).  A tag that passes for another run, for another
purpose, or for version 2, is a collision among the calls of hash functions behind it.
-/

namespace ZkArche

variable {q : ℕ} {G : Type} [AddCommGroup G] [Module (ZMod q) G] (S : Suite q G)

/-! ## The derivations of the Rust crate -/

namespace Rust

/-- `derive_kc_keys_v3`: the server-to-client, the client-to-server and the completion key. -/
def deriveKcKeysV3 (sessionKey thV3 : Bytes 32) : Bytes 32 × Bytes 32 × Bytes 32 :=
  (S.hkdf thV3.val sessionKey.val (ascii "kc s2c v3"),
    S.hkdf thV3.val sessionKey.val (ascii "kc c2s v3"),
    S.hkdf thV3.val sessionKey.val (ascii "kc complete s2c v3"))

/-- `finished_tag_v3`. -/
def finishedTagV3 (key : Bytes 32) (label : List UInt8) (thV3 : Bytes 32) : Bytes 32 :=
  S.hmac key.val (label ++ thV3.val)

/-- `completion_hash_v3`. -/
def completionHashV3 (thV3 tagC : Bytes 32) : Bytes 32 :=
  S.sha256 (ascii "zk-arche/auth-complete/v3" ++ thV3.val ++ tagC.val)

/-- `completion_tag_v3`. -/
def completionTagV3 (kComplete completionHash : Bytes 32) : Bytes 32 :=
  S.hmac kComplete.val (ascii "server complete v3" ++ completionHash.val)

end Rust

/-! ## The derivations of the C library -/

namespace C

/-- `auth_v3_derive_kc_keys`.  A `NULL` pointer is `none`. -/
def authV3DeriveKcKeys : Option (Bytes 32) → Option (Bytes 32) →
    Except AuthErr (Bytes 32 × Bytes 32 × Bytes 32)
  | some sessionKey, some thV3 =>
      .ok (S.hkdf thV3.val sessionKey.val (ascii "kc s2c v3"),
        S.hkdf thV3.val sessionKey.val (ascii "kc c2s v3"),
        S.hkdf thV3.val sessionKey.val (ascii "kc complete s2c v3"))
  | _, _ => .error .invalidArgument

/-- `auth_v3_finished_tag`. -/
def authV3FinishedTag (key : Bytes 32) (label : List UInt8) (thV3 : Bytes 32) : Bytes 32 :=
  authHmacTag S key label thV3

/-- `auth_v3_completion_hash`, in three updates. -/
def authV3CompletionHash (H : StreamHash S.sha256) : Option (Bytes 32) → Option (Bytes 32) →
    Except AuthErr (Bytes 32)
  | some thV3, some tagC =>
      let state := H.update H.init (ascii "zk-arche/auth-complete/v3")
      let state := H.update state thV3.val
      let state := H.update state tagC.val
      .ok (H.final state)
  | _, _ => .error .invalidArgument

/-- `auth_v3_completion_tag`. -/
def authV3CompletionTag (kComplete completionHash : Bytes 32) : Bytes 32 :=
  authHmacTag S kComplete (ascii "server complete v3") completionHash

end C

/-! ## One run of the derivations -/

/-- What a key of the schedule is for. -/
inductive PurposeV3 where
  | serverFinished
  | clientFinished
  | completion
deriving DecidableEq

/-- The label of the key. -/
def PurposeV3.keyLabel : PurposeV3 → List UInt8
  | .serverFinished => ascii "kc s2c v3"
  | .clientFinished => ascii "kc c2s v3"
  | .completion => ascii "kc complete s2c v3"

/-- The label of the tag. -/
def PurposeV3.tagLabel : PurposeV3 → List UInt8
  | .serverFinished => ascii "server finished v3"
  | .clientFinished => ascii "client finished v3"
  | .completion => ascii "server complete v3"

/-- One run of the derivations: the eighteen fields and the session key. -/
@[ext] structure ConfirmationV3 where
  parts : C.AuthV3TranscriptParts
  sessionKey : Bytes 32

namespace ConfirmationV3

/-- The transcript hash. -/
def th (c : ConfirmationV3) : Bytes 32 := S.sha256 c.parts.bytes

/-- The call of HKDF for a key. -/
def keyCall (c : ConfirmationV3) (p : PurposeV3) : List UInt8 × List UInt8 × List UInt8 :=
  ((c.th S).val, c.sessionKey.val, p.keyLabel)

/-- A key. -/
def key (c : ConfirmationV3) (p : PurposeV3) : Bytes 32 :=
  S.hkdf (c.keyCall S p).1 (c.keyCall S p).2.1 (c.keyCall S p).2.2

/-- The tag of the client. -/
def tagC (c : ConfirmationV3) : Bytes 32 :=
  S.hmac (c.key S .clientFinished).val (PurposeV3.clientFinished.tagLabel ++ (c.th S).val)

/-- What the completion hash is taken of. -/
def completionCall (c : ConfirmationV3) : List UInt8 :=
  ascii "zk-arche/auth-complete/v3" ++ (c.th S).val ++ (c.tagC S).val

/-- What a tag confirms. -/
def confirmed (c : ConfirmationV3) : PurposeV3 → Bytes 32
  | .completion => S.sha256 (c.completionCall S)
  | _ => c.th S

/-- The call of HMAC for a tag. -/
def tagCall (c : ConfirmationV3) (p : PurposeV3) : List UInt8 × List UInt8 :=
  ((c.key S p).val, p.tagLabel ++ (c.confirmed S p).val)

/-- A tag. -/
def tag (c : ConfirmationV3) (p : PurposeV3) : Bytes 32 := S.hmac (c.tagCall S p).1 (c.tagCall S p).2

/-- Two different calls of HMAC with one output. -/
def HmacCollision (x y : List UInt8 × List UInt8) : Prop := x ≠ y ∧ S.hmac x.1 x.2 = S.hmac y.1 y.2

/-- Two different inputs of SHA-256 with one output. -/
def HashCollision (x y : List UInt8) : Prop := x ≠ y ∧ S.sha256 x = S.sha256 y

/-- A collision among the calls behind the tags of one purpose. -/
inductive Collision (x y : ConfirmationV3) (p : PurposeV3) : Prop where
  | tag : HmacCollision S (x.tagCall S p) (y.tagCall S p) → Collision x y p
  | key : x.keyCall S p ≠ y.keyCall S p → x.key S p = y.key S p → Collision x y p
  | transcript : HashCollision S x.parts.bytes y.parts.bytes → Collision x y p
  | completion : p = .completion → HashCollision S (x.completionCall S) (y.completionCall S) →
      Collision x y p

variable {S}

theorem tagLabel_length (p : PurposeV3) : p.tagLabel.length = 18 := by
  cases p <;> decide

theorem tagLabel_inj {p p' : PurposeV3} (h : p.tagLabel = p'.tagLabel) : p = p' := by
  revert h
  cases p <;> cases p' <;> decide

/-- What a tag confirms determines the transcript hash. -/
theorem th_of_confirmed {x y : ConfirmationV3} {p : PurposeV3}
    (h : x.confirmed S p = y.confirmed S p) : x.th S = y.th S ∨ Collision S x y p := by
  cases p with
  | serverFinished => exact .inl h
  | clientFinished => exact .inl h
  | completion =>
      by_cases hc : x.completionCall S = y.completionCall S
      · have hfront := (List.append_inj_left' hc (by rw [Bytes.len, Bytes.len]))
        exact .inl (Bytes.val_inj.mp (List.append_cancel_left hfront))
      · exact .inr (.completion rfl ⟨hc, h⟩)

/-- The same tag for the same purpose means the same run. -/
theorem agree {x y : ConfirmationV3} {p : PurposeV3} (h : x.tag S p = y.tag S p) :
    x = y ∨ Collision S x y p := by
  by_cases htag : x.tagCall S p = y.tagCall S p
  · have hkey : x.key S p = y.key S p := Bytes.val_inj.mp (congrArg Prod.fst htag)
    have hconf : x.confirmed S p = y.confirmed S p :=
      Bytes.val_inj.mp (List.append_cancel_left (congrArg Prod.snd htag))
    obtain hth | hc := th_of_confirmed hconf
    · by_cases hhash : x.parts.bytes = y.parts.bytes
      · by_cases hcall : x.keyCall S p = y.keyCall S p
        · have hsk : x.sessionKey = y.sessionKey :=
            Bytes.val_inj.mp (congrArg (fun c => c.2.1) hcall)
          exact .inl (ConfirmationV3.ext (C.AuthV3TranscriptParts.bytes_inj hhash) hsk)
        · exact .inr (.key hcall hkey)
      · exact .inr (.transcript ⟨hhash, hth⟩)
    · exact .inr hc
  · exact .inr (.tag ⟨htag, h⟩)

/-- A tag that passes for another purpose is a collision of HMAC. -/
theorem cross {x y : ConfirmationV3} {p p' : PurposeV3} (hp : p ≠ p')
    (h : x.tag S p = y.tag S p') : HmacCollision S (x.tagCall S p) (y.tagCall S p') := by
  refine ⟨fun hc => hp ?_, h⟩
  have hmsg : p.tagLabel ++ (x.confirmed S p).val = p'.tagLabel ++ (y.confirmed S p').val :=
    congrArg Prod.snd hc
  exact tagLabel_inj (List.append_inj hmsg (by rw [tagLabel_length, tagLabel_length])).1

/-- So is a tag that passes in version 2. -/
theorem cross_v2 {x : ConfirmationV3} {y : Confirmation} {p : PurposeV3} {d : Direction}
    (h : x.tag S p = y.tag S d) : HmacCollision S (x.tagCall S p) (y.tagCall S d) := by
  refine ⟨fun hc => ?_, h⟩
  have hmsg : p.tagLabel ++ (x.confirmed S p).val = d.tagLabel ++ (y.th S).val :=
    congrArg Prod.snd hc
  have hlen := congrArg List.length hmsg
  simp [tagLabel_length, Confirmation.tagLabel_length] at hlen

end ConfirmationV3

/-! ## Both languages compute it -/

/-- The functions of both languages compute the transcript hash, the keys, the tags of server and
client, and the completion hash and tag of the acknowledgement. -/
structure ComputesV3 (H : StreamHash S.sha256) (c : ConfirmationV3) : Prop where
  transcript : ∀ p : Rust.KcTranscriptV3Parts q G, p.encode S = c.parts →
    Rust.kcTranscriptHashV3 S p = .ok (c.th S)
  transcriptC : C.authV3KcTranscriptHash S (some c.parts) = .ok (c.th S)
  keys : Rust.deriveKcKeysV3 S c.sessionKey (c.th S)
    = (c.key S .serverFinished, c.key S .clientFinished, c.key S .completion)
  keysC : C.authV3DeriveKcKeys S (some c.sessionKey) (some (c.th S))
    = .ok (Rust.deriveKcKeysV3 S c.sessionKey (c.th S))
  finished : ∀ p, p ≠ .completion →
    Rust.finishedTagV3 S (c.key S p) p.tagLabel (c.th S) = c.tag S p ∧
      C.authV3FinishedTag S (c.key S p) p.tagLabel (c.th S) = c.tag S p
  completion : Rust.completionTagV3 S (c.key S .completion)
    (Rust.completionHashV3 S (c.th S) (c.tag S .clientFinished)) = c.tag S .completion
  completionHash : Rust.completionHashV3 S (c.th S) (c.tag S .clientFinished)
    = c.confirmed S .completion
  completionHashC : C.authV3CompletionHash S H (some (c.th S)) (some (c.tag S .clientFinished))
    = .ok (Rust.completionHashV3 S (c.th S) (c.tag S .clientFinished))
  completionC : C.authV3CompletionTag S (c.key S .completion)
    (Rust.completionHashV3 S (c.th S) (c.tag S .clientFinished)) = c.tag S .completion

theorem computesV3 (H : StreamHash S.sha256) (c : ConfirmationV3) : ComputesV3 S H c where
  transcript := by
    rintro p hp
    rw [Rust.kcTranscriptHashV3_eq, hp]
    rfl
  transcriptC := C.authV3KcTranscriptHash_eq S c.parts
  keys := rfl
  keysC := rfl
  finished := by
    intro p hp
    cases p with
    | serverFinished => exact ⟨rfl, rfl⟩
    | clientFinished => exact ⟨rfl, rfl⟩
    | completion => exact absurd rfl hp
  completion := rfl
  completionHash := rfl
  completionHashC := by
    have hstream := H.final_updates [ascii "zk-arche/auth-complete/v3", (c.th S).val,
      (c.tag S .clientFinished).val]
    simp only [C.authV3CompletionHash, Except.ok.injEq]
    refine hstream.trans ?_
    simp only [List.flatten_cons, List.flatten_nil, List.append_nil, ← List.append_assoc]
    rfl
  completionC := rfl

/-- The confirmation of the v3 draft.  Both languages compute the same hashes, keys and tags.  A tag, in
particular that of the acknowledgement, passes only for a run with the same context, the same ten
values and the same session key, and for its own purpose, unless two calls of a hash function
collide. -/
theorem v3_confirmation (S : Suite q G) (H : StreamHash S.sha256) (x y : ConfirmationV3) :
    ComputesV3 S H x ∧
    (∀ p, x.tag S p = y.tag S p → x = y ∨ ConfirmationV3.Collision S x y p) ∧
    (∀ p p', p ≠ p' → x.tag S p = y.tag S p' →
      ConfirmationV3.HmacCollision S (x.tagCall S p) (y.tagCall S p')) ∧
    ∀ p (z : Confirmation) d, x.tag S p = z.tag S d →
      ConfirmationV3.HmacCollision S (x.tagCall S p) (z.tagCall S d) :=
  ⟨computesV3 S H x, fun _ h => ConfirmationV3.agree h, fun _ _ hp h => ConfirmationV3.cross hp h,
    fun _ _ _ h => ConfirmationV3.cross_v2 h⟩

end ZkArche
