import ZkArche.Crypto.Transcript
import ZkArche.Wire.Header

/-!
# The two transcript builders

`Transcript::new` and `append_message` of `transcript.rs` append to a growing buffer.  A domain
or a label above 255 bytes is a panic, and the length of a message is cut to 32 bits.  On
fields within these bounds the buffer is the layout `transcript`, which determines domain and
fields.

The C builder is followed here through a whole sequence of appends whose results the caller
may ignore (`C.appendEach`).  It holds the layout as long as the layout fits.  The append that
does not fit sets the overflow flag, after a part of the field may have been written, and from
then on every append and both finalizers refuse.
-/

namespace ZkArche

/-! ## The Rust builder -/

namespace Rust

/-- `Transcript`. -/
structure Transcript where
  buf : List UInt8

namespace Transcript

/-- `Transcript::new`. -/
def new (domain : List UInt8) : Except Stop Transcript := do
  ensure (domain.length ≤ 255) (.panic "domain too long")
  return ⟨UInt8.ofNat domain.length :: domain⟩

/-- `append_message`. -/
def appendMessage (t : Transcript) (label msg : List UInt8) : Except Stop Transcript := do
  ensure (label.length ≤ 255) (.panic "label too long")
  return ⟨t.buf ++ [UInt8.ofNat label.length] ++ label
    ++ natLE 4 (UInt32.ofNat msg.length).toNat ++ msg⟩

/-- Append the fields in order. -/
def appendMessages (t : Transcript) : List Field → Except Stop Transcript
  | [] => .ok t
  | f :: fs => do
      let t ← t.appendMessage f.1 f.2
      appendMessages t fs

/-- `build`, with the values as the bytes they are appended as. -/
def build (domain : List UInt8) (fields : List Field) : Except Stop Transcript := do
  let t ← new domain
  appendMessages t fields

theorem appendMessages_eq (t : Transcript) {fs : List Field} (hs : ∀ f ∈ fs, f.Small) :
    appendMessages t fs = .ok ⟨t.buf ++ fs.flatMap fieldBytes⟩ := by
  induction fs generalizing t with
  | nil => simp [appendMessages]
  | cons f fs ih =>
      have hf : f.Small := hs f List.mem_cons_self
      have hlen : (UInt32.ofNat f.2.length).toNat = f.2.length := by
        have h2 := hf.2
        simp only [UInt32.toNat_ofNat']
        omega
      have hone : appendMessage t f.1 f.2 = .ok ⟨t.buf ++ fieldBytes f⟩ := by
        simp [appendMessage, ensure_pos hf.1, hlen, fieldBytes]
      rw [appendMessages, hone, Except.ok_bind', ih _ fun g hg => hs g (List.mem_cons_of_mem f hg)]
      simp

/-- The builder holds the layout. -/
theorem build_eq {domain : List UInt8} {fs : List Field} (hd : domain.length ≤ 255)
    (hs : ∀ f ∈ fs, f.Small) : build domain fs = .ok ⟨transcript domain fs⟩ := by
  rw [build, new, ensure_pos hd, Except.ok_bind', Except.pure_eq_ok, Except.ok_bind',
    appendMessages_eq _ hs]
  rfl

end Transcript

end Rust

/-! ## The C builder -/

namespace C

/-- Append the fields in order, whatever the results are. -/
def appendEach : Transcript → List Field → Transcript × List (Except AuthErr Unit)
  | t, [] => (t, [])
  | t, f :: fs =>
      let r := authTranscriptAppend t f
      let rest := appendEach r.1 fs
      (rest.1, r.2 :: rest.2)

theorem appendEach_length (t : Transcript) (fs : List Field) :
    (appendEach t fs).2.length = fs.length := by
  induction fs generalizing t with
  | nil => rfl
  | cons f fs ih => simp only [appendEach, List.length_cons, ih]

/-- A run of `append_bytes` calls that does not fit stops with the flag set. -/
theorem appendAll_overflow {t : Transcript} (ho : t.overflow = false) {bs : List (List UInt8)}
    (h : transcriptCap < t.buf.length + bs.flatten.length) (hfit : t.buf.length ≤ transcriptCap) :
    (appendAll t bs).1.overflow = true ∧ (appendAll t bs).2 = .error .bufferTooSmall := by
  induction bs generalizing t with
  | nil =>
      simp only [List.flatten_nil, List.length_nil] at h
      omega
  | cons b bs ih =>
      by_cases hb : t.buf.length + b.length > transcriptCap
      · have hone : appendBytes t b = ({ t with overflow := true }, false) := by
          simp [appendBytes, ho, hb]
        rw [appendAll, hone]
        exact ⟨rfl, rfl⟩
      · have hone : appendBytes t b = (⟨t.buf ++ b, false⟩, true) := by
          simp [appendBytes, ho, hb]
        rw [appendAll, hone]
        apply ih rfl
        · simpa [Nat.add_assoc] using h
        · simpa using hb

/-- Nothing is appended after an overflow. -/
theorem authTranscriptAppend_sticky {t : Transcript} (ho : t.overflow = true) {f : Field}
    (hf : f.Small) : authTranscriptAppend t f = (t, .error .bufferTooSmall) := by
  have h1 : ¬ f.1.length > 255 := Nat.not_lt.mpr hf.1
  have h2 : ¬ f.2.length > 0xFFFFFFFF := Nat.not_lt.mpr hf.2
  rw [authTranscriptAppend, if_neg h1, if_neg h2]
  simp [appendAll, appendBytes, ho]

/-- An append that does not fit fails and sets the flag. -/
theorem authTranscriptAppend_overflow {t : Transcript} (ho : t.overflow = false)
    (hfit : t.buf.length ≤ transcriptCap) {f : Field} (hf : f.Small)
    (h : transcriptCap < t.buf.length + (fieldBytes f).length) :
    (authTranscriptAppend t f).1.overflow = true ∧
      (authTranscriptAppend t f).2 = .error .bufferTooSmall := by
  have h1 : ¬ f.1.length > 255 := Nat.not_lt.mpr hf.1
  have h2 : ¬ f.2.length > 0xFFFFFFFF := Nat.not_lt.mpr hf.2
  have hflat : ([[UInt8.ofNat f.1.length], f.1, natLE 4 f.2.length, f.2] :
      List (List UInt8)).flatten = fieldBytes f := by
    simp [fieldBytes]
  rw [authTranscriptAppend, if_neg h1, if_neg h2]
  exact appendAll_overflow ho (by rw [hflat]; exact h) hfit

theorem appendEach_sticky {t : Transcript} (ho : t.overflow = true) {fs : List Field}
    (hs : ∀ f ∈ fs, f.Small) :
    appendEach t fs = (t, fs.map fun _ => .error .bufferTooSmall) := by
  induction fs with
  | nil => rfl
  | cons f fs ih =>
      have hf := authTranscriptAppend_sticky ho (hs f List.mem_cons_self)
      have hrest := ih fun g hg => hs g (List.mem_cons_of_mem f hg)
      simp only [appendEach, hf, hrest, List.map_cons]

/-- As long as the fields fit, every append succeeds. -/
theorem appendEach_eq {t : Transcript} (ho : t.overflow = false) {fs : List Field}
    (hs : ∀ f ∈ fs, f.Small)
    (h : t.buf.length + (fs.flatMap fieldBytes).length ≤ transcriptCap) :
    appendEach t fs = (⟨t.buf ++ fs.flatMap fieldBytes, false⟩, fs.map fun _ => .ok ()) := by
  induction fs generalizing t with
  | nil =>
      cases t
      simp_all [appendEach]
  | cons f fs ih =>
      simp only [List.flatMap_cons, List.length_append] at h
      have hf := authTranscriptAppend_eq ho (hs f List.mem_cons_self) (by omega)
      have hrest := @ih ⟨t.buf ++ fieldBytes f, false⟩ rfl
        (fun g hg => hs g (List.mem_cons_of_mem f hg)) (by simp only [List.length_append]; omega)
      simp only [appendEach, hf, hrest, List.map_cons, List.flatMap_cons, List.append_assoc]

/-- When the first `i + 1` fields do not fit, the flag is set in the end, and the appends from
the `i`-th on fail. -/
theorem appendEach_overflow {t : Transcript} (ho : t.overflow = false)
    (hfit : t.buf.length ≤ transcriptCap) {fs : List Field} (hs : ∀ f ∈ fs, f.Small) {i : ℕ}
    (h : transcriptCap < t.buf.length + ((fs.take (i + 1)).flatMap fieldBytes).length) :
    (appendEach t fs).1.overflow = true ∧
      ∀ j, i ≤ j → j < fs.length → (appendEach t fs).2[j]? = some (.error .bufferTooSmall) := by
  induction fs generalizing t i with
  | nil =>
      simp only [List.take_nil, List.flatMap_nil, List.length_nil] at h
      omega
  | cons f fs ih =>
      have hf := hs f List.mem_cons_self
      have hs' : ∀ g ∈ fs, g.Small := fun g hg => hs g (List.mem_cons_of_mem f hg)
      rw [List.take_succ_cons, List.flatMap_cons, List.length_append] at h
      by_cases hone : t.buf.length + (fieldBytes f).length ≤ transcriptCap
      · -- this field still fits, so a later one does not
        have happ := authTranscriptAppend_eq ho hf hone
        cases i with
        | zero =>
            simp only [List.take_zero, List.flatMap_nil, List.length_nil] at h
            omega
        | succ i =>
            have hnext := @ih ⟨t.buf ++ fieldBytes f, false⟩ rfl
              (by simpa using hone) hs' i (by simp only [List.length_append]; omega)
            simp only [appendEach, happ]
            refine ⟨hnext.1, ?_⟩
            intro j hij hj
            obtain ⟨j, rfl⟩ : ∃ j', j = j' + 1 := ⟨j - 1, by omega⟩
            rw [List.getElem?_cons_succ]
            exact hnext.2 j (by omega) (by simpa using hj)
      · obtain ⟨hov, herr⟩ := authTranscriptAppend_overflow ho hfit hf (by omega)
        simp only [appendEach, appendEach_sticky hov hs', herr]
        refine ⟨hov, ?_⟩
        intro j _ hj
        cases j with
        | zero => rfl
        | succ j =>
            have hj' : j < fs.length := by simpa using hj
            simp [hj']

end C

/-! ## Both -/

variable {q : ℕ} {G : Type} [AddCommGroup G] [Module (ZMod q) G]

/-- What the C builder does with the fields of a transcript, beside the bytes the Rust builder
has for them. -/
structure BuildersAgree (S : Suite q G) (domain : List UInt8) (fields : List Field)
    (buf : List UInt8) (t : C.Transcript) (results : List (Except C.AuthErr Unit)) : Prop where
  /-- One result for each append. -/
  count : results.length = fields.length
  /-- A transcript that fits is held completely, and hashed as in Rust. -/
  fits : buf.length ≤ C.transcriptCap → (∀ r ∈ results, r = .ok ()) ∧ t = ⟨buf, false⟩ ∧
    C.authTranscriptChallenge S t = .ok (encScalar (Rust.challengeScalar S buf)) ∧
    C.authTranscriptHashSha256 S t = .ok (S.sha256 buf)
  /-- The append that does not fit and every later one fail. -/
  fails : ∀ i, C.transcriptCap < (transcript domain (fields.take (i + 1))).length →
    ∀ j, i ≤ j → j < fields.length → results[j]? = some (.error .bufferTooSmall)
  /-- A transcript that does not fit is not hashed. -/
  refuses : C.transcriptCap < buf.length →
    C.authTranscriptChallenge S t = .error .bufferTooSmall ∧
      C.authTranscriptHashSha256 S t = .error .bufferTooSmall

theorem buildersAgree (S : Suite q G) {domain : List UInt8} {fields : List Field}
    (hd : domain.length ≤ 255) (hs : ∀ f ∈ fields, f.Small) :
    BuildersAgree S domain fields (transcript domain fields)
      (C.appendEach ⟨UInt8.ofNat domain.length :: domain, false⟩ fields).1
      (C.appendEach ⟨UInt8.ofNat domain.length :: domain, false⟩ fields).2 := by
  set t₀ : C.Transcript := ⟨UInt8.ofNat domain.length :: domain, false⟩ with ht₀
  have hlen : ∀ fs : List Field, (transcript domain fs).length
      = t₀.buf.length + (fs.flatMap fieldBytes).length := by
    intro fs
    simp only [transcript, ht₀, List.length_cons, List.length_append]
    omega
  have hfit : t₀.buf.length ≤ C.transcriptCap := by
    simp only [ht₀, List.length_cons, C.transcriptCap]
    omega
  constructor
  · exact C.appendEach_length t₀ fields
  · intro h
    rw [hlen] at h
    rw [C.appendEach_eq rfl hs h]
    refine ⟨?_, rfl, ?_, ?_⟩
    · intro r hr
      obtain ⟨-, -, rfl⟩ := List.mem_map.mp hr
      rfl
    · simp [C.authTranscriptChallenge, Rust.challengeScalar, transcript, ht₀]
    · simp [C.authTranscriptHashSha256, transcript, ht₀]
  · intro i h j hij hj
    rw [hlen] at h
    exact (C.appendEach_overflow rfl hfit hs h).2 j hij hj
  · intro h
    have hall : transcript domain (fields.take (fields.length + 1)) = transcript domain fields := by
      rw [List.take_of_length_le (by omega)]
    rw [← hall, hlen] at h
    have hov := (C.appendEach_overflow rfl hfit hs h).1
    simp [C.authTranscriptChallenge, C.authTranscriptHashSha256, hov]

/-- The bytes of the Rust builder determine the domain and the fields.  The C builder holds
the same bytes if they fit, and otherwise fails from the append on that does not fit and is
never hashed. -/
theorem transcript_builders (S : Suite q G) :
    (∀ d d' fs fs' t, d.length ≤ 255 → d'.length ≤ 255 → (∀ f ∈ fs, Field.Small f) →
      (∀ f ∈ fs', Field.Small f) → Rust.Transcript.build d fs = .ok t →
      Rust.Transcript.build d' fs' = .ok t → d = d' ∧ fs = fs') ∧
    ∀ d fs, d.length ≤ 255 → (∀ f ∈ fs, Field.Small f) →
      ∃ buf t₀, Rust.Transcript.build d fs = .ok ⟨buf⟩ ∧ C.authTranscriptInit d = .ok t₀ ∧
        BuildersAgree S d fs buf (C.appendEach t₀ fs).1 (C.appendEach t₀ fs).2 := by
  constructor
  · intro d d' fs fs' t hd hd' hs hs' hb hb'
    rw [Rust.Transcript.build_eq hd hs] at hb
    rw [Rust.Transcript.build_eq hd' hs'] at hb'
    cases hb
    exact transcript_inj hd hd' hs hs' (congrArg Rust.Transcript.buf (Except.ok.inj hb')).symm
  · intro d fs hd hs
    exact ⟨_, _, Rust.Transcript.build_eq hd hs, C.authTranscriptInit_eq hd, buildersAgree S hd hs⟩

end ZkArche
