import ZkArche.Crypto.Suite

/-!
# Transcripts

A transcript is a domain and a list of labelled messages, laid out as

```text
u8 domain_len | domain | (u8 label_len | label | u32 msg_len | msg)*
```

`transcript` is this layout.  Rust builds it in a growing buffer, so there it is the
whole of `Transcript::new` and `append_message`.  C builds it in a buffer of 4096 bytes
that remembers an overflow: once an append did not fit, every later append and both
finalizers refuse.

The C challenge functions of `proofs.c` all have one shape: initialize, append the
fields in order, return the first error, finalize.  `C.transcriptOf` is that shape, and
`C.transcriptOf_eq` says that it holds the layout whenever the layout fits.

The layout is injective (`transcript_inj`): every part carries its length in front.
-/

namespace ZkArche

/-- A labelled message. -/
abbrev Field := List UInt8 × List UInt8

/-- One field of a transcript. -/
def fieldBytes (f : Field) : List UInt8 :=
  UInt8.ofNat f.1.length :: (f.1 ++ (natLE 4 f.2.length ++ f.2))

/-- The layout of a transcript. -/
def transcript (domain : List UInt8) (fields : List Field) : List UInt8 :=
  UInt8.ofNat domain.length :: (domain ++ fields.flatMap fieldBytes)

/-- A field with a text label. -/
def field (label : String) (msg : List UInt8) : Field := (ascii label, msg)

theorem fieldBytes_length (f : Field) :
    (fieldBytes f).length = 5 + f.1.length + f.2.length := by
  simp [fieldBytes]
  omega

/-! ## Injectivity -/

/-- The bounds under which a field can be read back: a one-byte label length and a
four-byte message length. -/
def Field.Small (f : Field) : Prop := f.1.length ≤ 255 ∧ f.2.length ≤ 0xFFFFFFFF

/-- Two length-prefixed strings with one byte of length, followed by anything. -/
theorem prefixed_inj {a b r r' : List UInt8} (ha : a.length ≤ 255) (hb : b.length ≤ 255)
    (h : UInt8.ofNat a.length :: (a ++ r) = UInt8.ofNat b.length :: (b ++ r')) :
    a = b ∧ r = r' := by
  simp only [List.cons.injEq] at h
  have hlen : a.length = b.length := by
    have h1 := congrArg UInt8.toNat h.1
    simp only [UInt8.toNat_ofNat'] at h1
    omega
  exact List.append_inj h.2 hlen

/-- A field is determined by any string that starts with it. -/
theorem fieldBytes_append_inj {f g : Field} (hf : Field.Small f) (hg : Field.Small g)
    {r r' : List UInt8} (h : fieldBytes f ++ r = fieldBytes g ++ r') : f = g ∧ r = r' := by
  simp only [fieldBytes, List.cons_append, List.append_assoc] at h
  obtain ⟨hlabel, h⟩ := prefixed_inj hf.1 hg.1 h
  obtain ⟨hnum, h⟩ := List.append_inj h (by simp)
  have hlen : f.2.length = g.2.length := by
    have h1 := congrArg leNat hnum
    have hf2 : f.2.length < 256 ^ 4 := Nat.lt_of_le_of_lt hf.2 (by decide)
    have hg2 : g.2.length < 256 ^ 4 := Nat.lt_of_le_of_lt hg.2 (by decide)
    rwa [leNat_natLE hf2, leNat_natLE hg2] at h1
  obtain ⟨hmsg, hr⟩ := List.append_inj h hlen
  exact ⟨Prod.ext hlabel hmsg, hr⟩

theorem flatMap_fieldBytes_inj : ∀ {fs gs : List Field}, (∀ f ∈ fs, Field.Small f) →
    (∀ g ∈ gs, Field.Small g) → fs.flatMap fieldBytes = gs.flatMap fieldBytes → fs = gs
  | [], [], _, _, _ => rfl
  | [], g :: gs, _, _, h => by simp [fieldBytes] at h
  | f :: fs, [], _, _, h => by simp [fieldBytes] at h
  | f :: fs, g :: gs, hf, hg, h => by
      simp only [List.flatMap_cons] at h
      obtain ⟨hfg, hrest⟩ := fieldBytes_append_inj (hf f (by simp)) (hg g (by simp)) h
      have ih := flatMap_fieldBytes_inj (fun x hx => hf x (by simp [hx]))
        (fun x hx => hg x (by simp [hx])) hrest
      rw [hfg, ih]

/-- The layout determines the domain and the fields. -/
theorem transcript_inj {d d' : List UInt8} {fs fs' : List Field} (hd : d.length ≤ 255)
    (hd' : d'.length ≤ 255) (hs : ∀ f ∈ fs, Field.Small f) (hs' : ∀ f ∈ fs', Field.Small f)
    (h : transcript d fs = transcript d' fs') : d = d' ∧ fs = fs' := by
  obtain ⟨hdom, hrest⟩ := prefixed_inj hd hd' h
  exact ⟨hdom, flatMap_fieldBytes_inj hs hs' hrest⟩

/-! ## Sizes -/

/-- The bounds every field of the program keeps. -/
def Field.Short (f : Field) : Prop := f.1.length ≤ 15 ∧ f.2.length ≤ 32

theorem field_short {label : String} {msg : List UInt8} (hl : (ascii label).length ≤ 15)
    (hm : msg.length ≤ 32) : Field.Short (field label msg) := ⟨hl, hm⟩

theorem Field.Short.small {f : Field} (h : f.Short) : f.Small :=
  ⟨h.1.trans (by decide), h.2.trans (by decide)⟩

theorem flatMap_fieldBytes_length_le {fs : List Field} (h : ∀ f ∈ fs, f.Short) :
    (fs.flatMap fieldBytes).length ≤ 52 * fs.length := by
  induction fs with
  | nil => simp
  | cons f fs ih =>
      have hf := h f (by simp)
      have ihf := ih fun g hg => h g (by simp [hg])
      simp only [List.flatMap_cons, List.length_append, fieldBytes_length, List.length_cons]
      have h1 := hf.1
      have h2 := hf.2
      omega

/-- Short fields in a small number fit the C buffer. -/
theorem transcript_length_le {domain : List UInt8} {fs : List Field}
    (hd : domain.length ≤ 255) (hn : fs.length ≤ 73) (h : ∀ f ∈ fs, f.Short) :
    (transcript domain fs).length ≤ 4096 := by
  have hl := flatMap_fieldBytes_length_le h
  simp only [transcript, List.length_cons, List.length_append]
  omega

/-! ## Domain separators -/

def tSetup : List UInt8 := ascii "setup_client_schnorr_v1"
def tSetupServer : List UInt8 := ascii "setup_server_schnorr_v1"
def tServer : List UInt8 := ascii "server_schnorr_v1"
def tPid : List UInt8 := ascii "iot-auth/pid/v1"
def tClientV2 : List UInt8 := ascii "client_schnorr_v2"
def tKcV2 : List UInt8 := ascii "kc_v2"
def tRoleSet : List UInt8 := ascii "client_role_set_v1"
def tRoleRerand : List UInt8 := ascii "client_role_rerand_v1"

/-! ## Finalizers of the Rust builder -/

namespace Rust

variable {q : ℕ} {G : Type} [AddCommGroup G] [Module (ZMod q) G] (S : Suite q G)

/-- `Transcript::challenge_scalar`, on the bytes built. -/
def challengeScalar (buf : List UInt8) : ZMod q := scalarOf (S.sha512 buf)

/-- `challenge(domain, fields)`. -/
def challenge (domain : List UInt8) (fields : List Field) : ZMod q :=
  challengeScalar S (transcript domain fields)

end Rust

/-! ## The C builder -/

namespace C

/-- `auth_transcript_t`.  The buffer holds the first `len` bytes of `buf`. -/
structure Transcript where
  buf : List UInt8
  overflow : Bool
deriving DecidableEq

/-- The size of the transcript buffer. -/
def transcriptCap : Nat := 4096

/-- `append_bytes`. -/
def appendBytes (t : Transcript) (b : List UInt8) : Transcript × Bool :=
  if t.overflow then (t, false)
  else if t.buf.length + b.length > transcriptCap then ({ t with overflow := true }, false)
  else ({ t with buf := t.buf ++ b }, true)

/-- A run of `append_bytes` calls that stops at the first one that fails. -/
def appendAll (t : Transcript) : List (List UInt8) → Transcript × Except AuthErr Unit
  | [] => (t, .ok ())
  | b :: bs =>
      match appendBytes t b with
      | (t', true) => appendAll t' bs
      | (t', false) => (t', .error .bufferTooSmall)

/-- `auth_transcript_init`. -/
def authTranscriptInit (domain : List UInt8) : Except AuthErr Transcript := do
  ensure (domain.length ≤ 255) .invalidArgument
  match appendAll ⟨[], false⟩ [[UInt8.ofNat domain.length], domain] with
  | (t, .ok ()) => .ok t
  | (_, .error e) => .error e

/-- `auth_transcript_append`. -/
def authTranscriptAppend (t : Transcript) (f : Field) : Transcript × Except AuthErr Unit :=
  if f.1.length > 255 then (t, .error .invalidArgument)
  else if f.2.length > 0xFFFFFFFF then (t, .error .invalidArgument)
  else appendAll t [[UInt8.ofNat f.1.length], f.1, natLE 4 f.2.length, f.2]

/-- Append the fields in order, stopping at the first error. -/
def appendFields : Transcript → List Field → Except AuthErr Transcript
  | t, [] => .ok t
  | t, f :: fs =>
      match authTranscriptAppend t f with
      | (t', .ok ()) => appendFields t' fs
      | (_, .error e) => .error e

/-- Initialize and append, as every challenge function of `proofs.c` does. -/
def transcriptOf (domain : List UInt8) (fields : List Field) : Except AuthErr Transcript := do
  let t ← authTranscriptInit domain
  appendFields t fields

section Finalize

variable {q : ℕ} {G : Type} [AddCommGroup G] [Module (ZMod q) G] (S : Suite q G)

/-- `auth_transcript_challenge`. -/
def authTranscriptChallenge (t : Transcript) : Except AuthErr (Bytes 32) := do
  ensure (t.overflow = false) .bufferTooSmall
  return encScalar (scalarOf (S.sha512 t.buf) : ZMod q)

/-- `auth_transcript_hash_sha256`. -/
def authTranscriptHashSha256 (t : Transcript) : Except AuthErr (Bytes 32) := do
  ensure (t.overflow = false) .bufferTooSmall
  return S.sha256 t.buf

/-- The body of the challenge functions of `proofs.c`. -/
def challenge (domain : List UInt8) (fields : List Field) : Except AuthErr (Bytes 32) := do
  let t ← transcriptOf domain fields
  authTranscriptChallenge S t

end Finalize

/-! ### A transcript that fits -/

theorem appendAll_eq {t : Transcript} (ho : t.overflow = false) (bs : List (List UInt8))
    (h : t.buf.length + bs.flatten.length ≤ transcriptCap) :
    appendAll t bs = (⟨t.buf ++ bs.flatten, false⟩, .ok ()) := by
  induction bs generalizing t with
  | nil =>
      cases t
      simp_all [appendAll]
  | cons b bs ih =>
      simp only [List.flatten_cons, List.length_append] at h
      have hb : ¬ t.buf.length + b.length > transcriptCap := by omega
      have hone : appendBytes t b = (⟨t.buf ++ b, false⟩, true) := by
        simp [appendBytes, ho, hb]
      rw [appendAll, hone]
      simp only
      rw [ih rfl (by simp only [List.length_append]; omega)]
      simp [List.append_assoc]

theorem authTranscriptAppend_eq {t : Transcript} (ho : t.overflow = false) {f : Field}
    (hf : Field.Small f) (h : t.buf.length + (fieldBytes f).length ≤ transcriptCap) :
    authTranscriptAppend t f = (⟨t.buf ++ fieldBytes f, false⟩, .ok ()) := by
  have h1 : ¬ f.1.length > 255 := Nat.not_lt.mpr hf.1
  have h2 : ¬ f.2.length > 0xFFFFFFFF := Nat.not_lt.mpr hf.2
  have hflat : ([[UInt8.ofNat f.1.length], f.1, natLE 4 f.2.length, f.2] :
      List (List UInt8)).flatten = fieldBytes f := by
    simp [fieldBytes]
  rw [authTranscriptAppend, if_neg h1, if_neg h2, appendAll_eq ho _ (by rw [hflat]; exact h),
    hflat]

theorem appendFields_eq {t : Transcript} (ho : t.overflow = false) (fs : List Field)
    (hs : ∀ f ∈ fs, Field.Small f)
    (h : t.buf.length + (fs.flatMap fieldBytes).length ≤ transcriptCap) :
    appendFields t fs = .ok ⟨t.buf ++ fs.flatMap fieldBytes, false⟩ := by
  induction fs generalizing t with
  | nil =>
      cases t
      simp_all [appendFields]
  | cons f fs ih =>
      simp only [List.flatMap_cons, List.length_append] at h
      rw [appendFields, authTranscriptAppend_eq ho (hs f (by simp)) (by omega)]
      simp only
      rw [ih rfl (fun g hg => hs g (by simp [hg]))
        (by simp only [List.length_append]; omega)]
      simp [List.append_assoc]

theorem authTranscriptInit_eq {domain : List UInt8} (hd : domain.length ≤ 255) :
    authTranscriptInit domain = .ok ⟨UInt8.ofNat domain.length :: domain, false⟩ := by
  have hinit : appendAll ⟨[], false⟩ [[UInt8.ofNat domain.length], domain]
      = (⟨UInt8.ofNat domain.length :: domain, false⟩, .ok ()) := by
    rw [appendAll_eq rfl]
    · simp
    · simp only [transcriptCap, List.flatten_cons, List.flatten_nil, List.length_append,
        List.length_cons, List.length_nil]
      omega
  rw [authTranscriptInit, ensure_pos hd, Except.ok_bind', hinit]

/-- While the layout fits, the builder holds exactly the layout. -/
theorem transcriptOf_eq {domain : List UInt8} {fields : List Field}
    (hd : domain.length ≤ 255) (hs : ∀ f ∈ fields, Field.Small f)
    (h : (transcript domain fields).length ≤ transcriptCap) :
    transcriptOf domain fields = .ok ⟨transcript domain fields, false⟩ := by
  simp only [transcript, List.length_cons, List.length_append] at h
  rw [transcriptOf, authTranscriptInit_eq hd, Except.ok_bind',
    appendFields_eq rfl fields hs (by simp only [List.length_cons]; omega)]
  simp [transcript]

variable {q : ℕ} {G : Type} [AddCommGroup G] [Module (ZMod q) G] (S : Suite q G)

/-- Both languages derive the same challenge from short fields. -/
theorem challenge_eq {domain : List UInt8} {fields : List Field}
    (hd : domain.length ≤ 255) (hn : fields.length ≤ 73) (hs : ∀ f ∈ fields, f.Short) :
    challenge S domain fields = .ok (encScalar (Rust.challenge S domain fields)) := by
  have ht := transcriptOf_eq hd (fun f hf => (hs f hf).small) (transcript_length_le hd hn hs)
  simp [challenge, ht, authTranscriptChallenge, Rust.challenge, Rust.challengeScalar]

/-- Challenges are canonical scalars. -/
theorem challenge_canonical {S : Suite q G} {domain : List UInt8} {fields : List Field}
    {c : Bytes 32} (h : challenge S domain fields = .ok c) : ∃ x : ZMod q, c = encScalar x := by
  simp only [challenge, authTranscriptChallenge, Except.bind_eq_ok_iff, Except.pure_eq_ok,
    Except.ok.injEq] at h
  obtain ⟨t, -, -, -, rfl⟩ := h
  exact ⟨_, rfl⟩

end C

/-! ## Pseudonyms -/

section Pid

variable {q : ℕ} {G : Type} [AddCommGroup G] [Module (ZMod q) G] (S : Suite q G)

/-- The bytes both `compute_pid` functions hash. -/
def pidBytes (devicePub nonceC ephC serverPub : Bytes 32) : List UInt8 :=
  natLE 4 tPid.length ++ tPid ++ devicePub.val ++ nonceC.val ++ ephC.val ++ serverPub.val

/-- `auth_compute_pid`. -/
def C.authComputePid (devicePub nonceC ephC serverPub : Bytes 32) : Bytes 32 :=
  S.sha256 (pidBytes devicePub nonceC ephC serverPub)

/-- `compute_pid`. -/
def Rust.computePid (devicePub : G) (nonceC : Bytes 32) (ephC serverPub : G) : Bytes 32 :=
  S.sha256 (pidBytes (S.encPoint devicePub) nonceC (S.encPoint ephC) (S.encPoint serverPub))

end Pid

end ZkArche
