import ZkArche.Crypto.KeySchedule
import ZkArche.Crypto.SmallSuite
import ZkArche.Crypto.TranscriptParity
import ZkArche.Lib.Output

/-!
# The key-confirmation transcript of the v3 draft

`auth_v3.c` and `auth_v3.rs` serialize the context of a session and the ten values of the key
confirmation by hand, in eighteen labelled fields.  Both write the generic layout `transcript`
of the v3 domain, and so the bytes determine every field.

The C function writes into a buffer of the caller.  It writes all of the transcript and reports
its length, or it fails and reports nothing.  The transcript always has 726 bytes, which fit
the buffer of `auth_v3_kc_transcript_hash`.
-/

namespace ZkArche

/-- The v3 transcript domain. -/
def tKcV3 : List UInt8 := ascii "zk-arche/kc/v3"

/-- The domains of the v2 transcripts and of the pseudonym. -/
def v2Domains : List (List UInt8) :=
  [tSetup, tSetupServer, tServer, tPid, tClientV2, tKcV2, tRoleSet, tRoleRerand]

/-- `auth_v3_context_t` / `AuthV3Context`. -/
@[ext] structure AuthV3Context where
  protocolVersion : UInt8
  suiteId : UInt16
  profileId : UInt16
  selectedCapabilities : UInt64
  sessionId : SessionId
  authzContextHash : Bytes 32
  criticalExtensionsHash : Bytes 32
  channelBindingHash : Bytes 32

/-- The bytes of a `u16`, little-endian. -/
def u16LE (x : UInt16) : List UInt8 := natLE 2 x.toNat

theorem u16LE_inj {x y : UInt16} (h : u16LE x = u16LE y) : x = y := by
  have hn := congrArg leNat h
  rw [u16LE, u16LE, leNat_natLE x.toNat_lt, leNat_natLE y.toNat_lt] at hn
  exact UInt16.toNat_inj.mp hn

theorem u64LE_inj {x y : UInt64} (h : u64LE x = u64LE y) : x = y := by
  have hn := congrArg leNat h
  rw [u64LE, u64LE, leNat_natLE x.toNat_lt, leNat_natLE y.toNat_lt] at hn
  exact UInt64.toNat_inj.mp hn

/-! ## The C function -/

namespace C

/-- `auth_v3_transcript_parts_t`. -/
@[ext] structure AuthV3TranscriptParts where
  context : AuthV3Context
  values : KcParts

/-- `AUTH_V3_TRANSCRIPT_MAX`. -/
def authV3TranscriptMax : ℕ := 768

/-- A routine that writes a v3 transcript. -/
abbrev V3Writer := Routine AuthErr (Output UInt8) Unit

/-- `append_bytes` of `auth_v3.c`. -/
def v3AppendBytes (outCap : ℕ) (value : List UInt8) : V3Writer :=
  Output.put outCap .bufferTooSmall value

/-- `append_field` of `auth_v3.c`. -/
def v3AppendField (outCap : ℕ) (f : Field) : V3Writer :=
  if f.1.length > 255 ∨ f.2.length > 0xFFFFFFFF then throw .invalidArgument
  else do
    v3AppendBytes outCap [UInt8.ofNat f.1.length]
    v3AppendBytes outCap f.1
    v3AppendBytes outCap (natLE 4 f.2.length)
    v3AppendBytes outCap f.2

/-- The `APPEND_FIELD` calls, in order. -/
def AuthV3TranscriptParts.fields (p : AuthV3TranscriptParts) : List Field :=
  [field "protocol_version" [p.context.protocolVersion],
    field "suite_id" (u16LE p.context.suiteId),
    field "profile_id" (u16LE p.context.profileId),
    field "selected_capabilities" (u64LE p.context.selectedCapabilities),
    field "session_id" p.context.sessionId.val,
    field "authz_context_hash" p.context.authzContextHash.val,
    field "critical_extensions_hash" p.context.criticalExtensionsHash.val,
    field "channel_binding_hash" p.context.channelBindingHash.val,
    field "pid" p.values.pid.val,
    field "a_c" p.values.aC.val,
    field "s_c" p.values.sC.val,
    field "nonce_c" p.values.nonceC.val,
    field "eph_c" p.values.ephC.val,
    field "server_pub" p.values.serverPub.val,
    field "a_s" p.values.aS.val,
    field "s_s" p.values.sS.val,
    field "nonce_s" p.values.nonceS.val,
    field "eph_s" p.values.ephS.val]

/-- `auth_v3_build_kc_transcript`.  There are no parts when a pointer is NULL. -/
def authV3BuildKcTranscript (outCap : ℕ) : Option AuthV3TranscriptParts → V3Writer
  | none => throw .invalidArgument
  | some p =>
      if tKcV3.length > 255 then throw .invalidArgument
      else (do
        v3AppendBytes outCap [UInt8.ofNat tKcV3.length]
        v3AppendBytes outCap tKcV3
        Output.each (v3AppendField outCap) p.fields) >>= fun _ => Output.report

/-- `auth_v3_kc_transcript_hash`. -/
def authV3KcTranscriptHash {q : ℕ} {G : Type} [AddCommGroup G] [Module (ZMod q) G]
    (S : Suite q G) (parts : Option AuthV3TranscriptParts) : Except AuthErr (Bytes 32) :=
  match (authV3BuildKcTranscript authV3TranscriptMax parts).exec ⟨[], 0⟩ with
  | (.ok (), t) => .ok (S.sha256 (t.out.take t.outLen))
  | (.error e, _) => .error e

end C

/-! ## The Rust function -/

namespace Rust

variable {q : ℕ} {G : Type} [AddCommGroup G] [Module (ZMod q) G] (S : Suite q G)

/-- `KcTranscriptV3Parts`. -/
structure KcTranscriptV3Parts (q : ℕ) (G : Type) where
  context : AuthV3Context
  values : KcTranscriptParts q G

/-- The parts as C has them. -/
def KcTranscriptV3Parts.encode (p : KcTranscriptV3Parts q G) : C.AuthV3TranscriptParts :=
  ⟨p.context, p.values.encode S⟩

/-- `append_field` of `auth_v3.rs`. -/
def v3AppendField (buf : List UInt8) (label value : List UInt8) : Except Stop (List UInt8) := do
  ensure (label.length ≤ 255) (.panic "label too long")
  ensure (value.length < 2 ^ 32) (.panic "transcript field too long")
  return buf ++ [UInt8.ofNat label.length] ++ label ++ natLE 4 value.length ++ value

/-- The calls of `append_field`, in order. -/
def v3AppendFields (buf : List UInt8) : List Field → Except Stop (List UInt8)
  | [] => .ok buf
  | f :: fs => do
      let buf ← v3AppendField buf f.1 f.2
      v3AppendFields buf fs

/-- `build_kc_transcript_v3`. -/
def buildKcTranscriptV3 (p : KcTranscriptV3Parts q G) : Except Stop (List UInt8) := do
  ensure (tKcV3.length ≤ 255) (.panic "domain too long")
  v3AppendFields (UInt8.ofNat tKcV3.length :: tKcV3)
    [field "protocol_version" [p.context.protocolVersion],
      field "suite_id" (u16LE p.context.suiteId),
      field "profile_id" (u16LE p.context.profileId),
      field "selected_capabilities" (u64LE p.context.selectedCapabilities),
      field "session_id" p.context.sessionId.val,
      field "authz_context_hash" p.context.authzContextHash.val,
      field "critical_extensions_hash" p.context.criticalExtensionsHash.val,
      field "channel_binding_hash" p.context.channelBindingHash.val,
      field "pid" p.values.pid.val,
      field "a_c" (S.encPoint p.values.aC).val,
      field "s_c" (encScalar p.values.sC).val,
      field "nonce_c" p.values.nonceC.val,
      field "eph_c" (S.encPoint p.values.ephC).val,
      field "server_pub" (S.encPoint p.values.serverPub).val,
      field "a_s" (S.encPoint p.values.aS).val,
      field "s_s" (encScalar p.values.sS).val,
      field "nonce_s" p.values.nonceS.val,
      field "eph_s" (S.encPoint p.values.ephS).val]

/-- `kc_transcript_hash_v3`. -/
def kcTranscriptHashV3 (p : KcTranscriptV3Parts q G) : Except Stop (Bytes 32) := do
  let t ← buildKcTranscriptV3 S p
  return S.sha256 t

end Rust

/-! ## The layout -/

namespace C.AuthV3TranscriptParts

/-- The generic transcript of the parts. -/
def bytes (p : AuthV3TranscriptParts) : List UInt8 := transcript tKcV3 p.fields

/-- The sizes of the labels and values, which do not depend on the parts. -/
def sizes : List (ℕ × ℕ) :=
  [(16, 1), (8, 2), (10, 2), (21, 8), (10, 16), (18, 32), (24, 32), (20, 32), (3, 32), (3, 32),
    (3, 32), (7, 32), (5, 32), (10, 32), (3, 32), (3, 32), (7, 32), (5, 32)]

theorem map_fields (p : AuthV3TranscriptParts) :
    p.fields.map (fun f => (f.1.length, f.2.length)) = sizes := by
  simp only [fields, field, List.map_cons, List.map_nil, List.length_cons, List.length_nil,
    Bytes.len, u16LE, u64LE, natLE_length]
  rfl

theorem fields_small (p : AuthV3TranscriptParts) : ∀ f ∈ p.fields, f.Small := by
  intro f hf
  have hmem := List.mem_map_of_mem (f := fun f : Field => (f.1.length, f.2.length)) hf
  rw [map_fields] at hmem
  have hall : ∀ n ∈ sizes, n.1 ≤ 255 ∧ n.2 ≤ 0xFFFFFFFF := by decide
  exact hall _ hmem

/-- The transcript has 726 bytes. -/
theorem bytes_length (p : AuthV3TranscriptParts) : p.bytes.length = 726 := by
  have hsum : (p.fields.flatMap fieldBytes).length
      = ((p.fields.map fun f => (f.1.length, f.2.length)).map fun n => 5 + n.1 + n.2).sum := by
    rw [List.length_flatMap, List.map_map]
    congr 1
    exact List.map_congr_left fun f _ => fieldBytes_length f
  rw [map_fields] at hsum
  rw [bytes, transcript, List.length_cons, List.length_append, hsum]
  rfl

/-- The bytes determine the parts. -/
theorem bytes_inj {p p' : AuthV3TranscriptParts} (h : p.bytes = p'.bytes) : p = p' := by
  have hd : tKcV3.length ≤ 255 := by decide
  have hf := (transcript_inj hd hd p.fields_small p'.fields_small h).2
  simp only [fields, field, List.cons.injEq, Prod.mk.injEq, true_and, and_true, Bytes.val_inj]
    at hf
  obtain ⟨hver, hsuite, hprofile, hcaps, hsid, hauthz, hext, hch, hpid, haC, hsC, hnC, heC, hpub,
    haS, hsS, hnS, heS⟩ := hf
  have hcontext : p.context = p'.context := by
    apply AuthV3Context.ext hver (u16LE_inj hsuite) (u16LE_inj hprofile) (u64LE_inj hcaps) hsid
      hauthz hext hch
  have hvalues : p.values = p'.values :=
    KcParts.ext hpid haC hsC hnC heC hpub haS hsS hnS heS
  exact AuthV3TranscriptParts.ext hcontext hvalues

/-- No transcript of a v2 domain has the same bytes, whatever its fields are. -/
theorem bytes_ne_v2 (p : AuthV3TranscriptParts) {d : List UInt8} (hd : d ∈ v2Domains)
    (fs : List Field) : p.bytes ≠ transcript d fs := by
  have hall : ∀ d ∈ v2Domains, d.length ≤ 255 ∧ tKcV3 ≠ d := by decide
  intro h
  exact (hall d hd).2 (prefixed_inj (by decide) (hall d hd).1 h).1

end C.AuthV3TranscriptParts

/-! ## The two builders -/

theorem C.v3AppendField_writes {outCap : ℕ} {f : Field} (hf : f.Small) :
    Output.Writes outCap .bufferTooSmall (v3AppendField outCap f) (fieldBytes f) := by
  have hsize : ¬ (f.1.length > 255 ∨ f.2.length > 0xFFFFFFFF) := by
    rintro (h | h)
    · exact absurd hf.1 (Nat.not_le.mpr h)
    · exact absurd hf.2 (Nat.not_le.mpr h)
  have hbytes : fieldBytes f
      = [UInt8.ofNat f.1.length] ++ (f.1 ++ (natLE 4 f.2.length ++ f.2)) := rfl
  rw [v3AppendField, if_neg hsize, hbytes]
  exact (Output.Writes.put _).bind ((Output.Writes.put _).bind
    ((Output.Writes.put _).bind (Output.Writes.put _)))

/-- The C builder writes all of the transcript and its length, or reports nothing. -/
theorem C.authV3BuildKcTranscript_spec (p : AuthV3TranscriptParts) (outCap n : ℕ) :
    (p.bytes.length ≤ outCap →
      (authV3BuildKcTranscript outCap (some p)).exec ⟨[], n⟩ =
        (.ok (), ⟨p.bytes, p.bytes.length⟩)) ∧
    (outCap < p.bytes.length →
      ∃ t, (authV3BuildKcTranscript outCap (some p)).exec ⟨[], n⟩ = (.error .bufferTooSmall, t) ∧
        t.outLen = n) := by
  have hdom : ¬ tKcV3.length > 255 := by decide
  have hfields : Output.Writes outCap AuthErr.bufferTooSmall
      (Output.each (v3AppendField outCap) p.fields) (p.fields.flatMap fieldBytes) :=
    Output.Writes.each fun f hf => v3AppendField_writes (p.fields_small f hf)
  have hall := (Output.Writes.put [UInt8.ofNat tKcV3.length]).bind
    ((Output.Writes.put tKcV3).bind hfields)
  rw [authV3BuildKcTranscript, if_neg hdom]
  exact ⟨fun hl => hall.fits.report hl n, fun hl => hall.report hl n⟩

/-- The buffer of the hash function is large enough. -/
theorem C.authV3KcTranscriptHash_eq {q : ℕ} {G : Type} [AddCommGroup G] [Module (ZMod q) G]
    (S : Suite q G) (p : AuthV3TranscriptParts) :
    authV3KcTranscriptHash S (some p) = .ok (S.sha256 p.bytes) := by
  have hfit : p.bytes.length ≤ authV3TranscriptMax := by
    rw [p.bytes_length]
    decide
  rw [authV3KcTranscriptHash, (authV3BuildKcTranscript_spec p authV3TranscriptMax 0).1 hfit]
  simp

section

variable {q : ℕ} {G : Type} [AddCommGroup G] [Module (ZMod q) G] (S : Suite q G)

theorem Rust.v3AppendFields_eq (buf : List UInt8) {fs : List Field} (hs : ∀ f ∈ fs, f.Small) :
    v3AppendFields buf fs = .ok (buf ++ fs.flatMap fieldBytes) := by
  induction fs generalizing buf with
  | nil => simp [v3AppendFields]
  | cons f fs ih =>
      have hf : f.Small := hs f List.mem_cons_self
      have hval : f.2.length < 2 ^ 32 := Nat.lt_of_le_of_lt hf.2 (by decide)
      have hone : v3AppendField buf f.1 f.2 = .ok (buf ++ fieldBytes f) := by
        rw [v3AppendField, ensure_pos hf.1, ensure_pos hval]
        simp [fieldBytes]
      rw [v3AppendFields, hone, Except.ok_bind',
        ih _ fun g hg => hs g (List.mem_cons_of_mem f hg)]
      simp

/-- The Rust builder writes the bytes of the encoded parts. -/
theorem Rust.buildKcTranscriptV3_eq (p : KcTranscriptV3Parts q G) :
    buildKcTranscriptV3 S p = .ok (p.encode S).bytes := by
  have hdom : tKcV3.length ≤ 255 := by decide
  have hfields := v3AppendFields_eq (UInt8.ofNat tKcV3.length :: tKcV3) (p.encode S).fields_small
  rw [buildKcTranscriptV3, ensure_pos hdom, Except.ok_bind']
  exact hfields

/-- The Rust hash function hashes them. -/
theorem Rust.kcTranscriptHashV3_eq (p : KcTranscriptV3Parts q G) :
    kcTranscriptHashV3 S p = .ok (S.sha256 (p.encode S).bytes) := by
  rw [kcTranscriptHashV3, buildKcTranscriptV3_eq]
  rfl

/-- Points and scalars are determined by their encodings. -/
theorem Rust.KcTranscriptParts.encode_inj [NeZero q] {v v' : KcTranscriptParts q G}
    (h : v.encode S = v'.encode S) : v = v' := by
  simp only [encode, KcParts.mk.injEq] at h
  obtain ⟨hpid, haC, hsC, hnC, heC, hpub, haS, hsS, hnS, heS⟩ := h
  have hsC := encScalar_inj S.order_le hsC
  have hsS := encScalar_inj S.order_le hsS
  cases v
  cases v'
  simp only [mk.injEq]
  exact ⟨hpid, S.encPoint_inj haC, hsC, hnC, S.encPoint_inj heC, S.encPoint_inj hpub,
    S.encPoint_inj haS, hsS, hnS, S.encPoint_inj heS⟩

theorem Rust.KcTranscriptV3Parts.encode_inj [NeZero q] {p p' : KcTranscriptV3Parts q G}
    (h : p.encode S = p'.encode S) : p = p' := by
  obtain ⟨hcontext, hvalues⟩ := C.AuthV3TranscriptParts.mk.inj h
  cases p
  cases p'
  rw [mk.injEq]
  exact ⟨hcontext, KcTranscriptParts.encode_inj S hvalues⟩

end

/-! ## Agreement -/

/-- What the two v3 builders and their hash functions give. -/
structure V3Builders {q : ℕ} {G : Type} [AddCommGroup G] [Module (ZMod q) G] (S : Suite q G) :
    Prop where
  /-- The layout is the generic one, of eighteen fields. -/
  layout : ∀ p : C.AuthV3TranscriptParts, p.fields.length = 18 ∧
    Rust.Transcript.build tKcV3 p.fields = .ok ⟨p.bytes⟩
  /-- The Rust builder writes it. -/
  rust : ∀ p : Rust.KcTranscriptV3Parts q G,
    Rust.buildKcTranscriptV3 S p = .ok (p.encode S).bytes ∧
      Rust.kcTranscriptHashV3 S p = .ok (S.sha256 (p.encode S).bytes)
  /-- The C builder writes all of it and reports its length, if it fits. -/
  fits : ∀ (p : C.AuthV3TranscriptParts) (outCap n : ℕ), p.bytes.length ≤ outCap →
    (C.authV3BuildKcTranscript outCap (some p)).exec ⟨[], n⟩ = (.ok (), ⟨p.bytes, p.bytes.length⟩)
  /-- The C builder fails and leaves the length alone, if it does not fit. -/
  fails : ∀ (p : C.AuthV3TranscriptParts) (outCap n : ℕ), outCap < p.bytes.length →
    ∃ t, (C.authV3BuildKcTranscript outCap (some p)).exec ⟨[], n⟩ = (.error .bufferTooSmall, t) ∧
      t.outLen = n
  /-- It refuses a NULL pointer. -/
  null : ∀ outCap n, (C.authV3BuildKcTranscript outCap none).exec ⟨[], n⟩ =
    (.error .invalidArgument, ⟨[], n⟩)
  /-- The C hash function has room for it. -/
  hash : ∀ p : C.AuthV3TranscriptParts, C.authV3KcTranscriptHash S (some p) = .ok (S.sha256 p.bytes)
  /-- The bytes determine the parts in C. -/
  injC : ∀ p p' : C.AuthV3TranscriptParts, p.bytes = p'.bytes → p = p'
  /-- The bytes determine the parts in Rust. -/
  injRust : ∀ p p' : Rust.KcTranscriptV3Parts q G,
    Rust.buildKcTranscriptV3 S p = Rust.buildKcTranscriptV3 S p' → p = p'
  /-- No v2 transcript has these bytes. -/
  fresh : ∀ (p : C.AuthV3TranscriptParts), ∀ d ∈ v2Domains, ∀ fs, p.bytes ≠ transcript d fs

/-- Both languages write the same v3 transcripts. -/
theorem kcTranscriptV3_builders {q : ℕ} {G : Type} [AddCommGroup G] [Module (ZMod q) G]
    [NeZero q] (S : Suite q G) : V3Builders S where
  layout := by
    intro p
    exact ⟨rfl, Rust.Transcript.build_eq (by decide) p.fields_small⟩
  rust := fun p => ⟨Rust.buildKcTranscriptV3_eq S p, Rust.kcTranscriptHashV3_eq S p⟩
  fits := fun p outCap n => (C.authV3BuildKcTranscript_spec p outCap n).1
  fails := fun p outCap n => (C.authV3BuildKcTranscript_spec p outCap n).2
  null := fun _ _ => rfl
  hash := C.authV3KcTranscriptHash_eq S
  injC := fun _ _ => C.AuthV3TranscriptParts.bytes_inj
  injRust := by
    intro p p' h
    rw [Rust.buildKcTranscriptV3_eq, Rust.buildKcTranscriptV3_eq] at h
    exact Rust.KcTranscriptV3Parts.encode_inj S
      (C.AuthV3TranscriptParts.bytes_inj (Except.ok.inj h))
  fresh := fun p _ hd fs => p.bytes_ne_v2 hd fs

theorem kcTranscriptV3_builders_small : V3Builders smallSuite :=
  kcTranscriptV3_builders smallSuite

end ZkArche
