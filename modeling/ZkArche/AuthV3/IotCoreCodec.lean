import ZkArche.AuthV3.IotCoreAuthz
import ZkArche.AuthV3.ContextParse

/-!
# One encoding per authorization context

The seven entries of a context are canonical whatever the fields are, so the encoder fails on
invalid contexts only.  The decoder finds the seven entries again.  So the accepted strings are the
encodings of the valid contexts, and all four hashes of a context are the hash of its encoding.

The decoders reject alike, except for one kind of string (`TwoLimits`).  A header that declares more
than 27 entries breaks the limit of the profile and the limit of the length.  Rust reports the first
and C the second.
-/

namespace ZkArche

/-! ## Valid contexts -/

/-- A context that has an encoding. -/
structure IotCoreAuthorizationContextV1.Valid (c : IotCoreAuthorizationContextV1) : Prop where
  holder : c.holderBinding ≠ Bytes.zero 32
  audience : c.audienceId ≠ Bytes.zero 32
  rolePolicy : c.rolePolicyId ≠ 0
  scope : c.scopeBits = iotCoreScopeSecureAssociation
  generation : c.authorizationGeneration ≠ 0
  policyEpoch : c.policyEpoch ≠ 0
  revocationEpoch : c.revocationEpoch ≠ 0

theorem Rust.isAllZero_iff {n : ℕ} (b : Bytes n) : Rust.isAllZero b.val = true ↔ b = Bytes.zero n := by
  rw [← Bytes.val_inj, Bytes.zero, List.eq_replicate_iff]
  simp [Rust.isAllZero]

theorem C.allZero_iff (l : List UInt8) : C.allZero l ↔ Rust.isAllZero l = true := by
  have hacc : ∀ (l : List UInt8) (acc : UInt8),
      l.foldl (fun acc byte => acc ||| byte) acc = 0 ↔ acc = 0 ∧ ∀ b ∈ l, b = 0 := by
    intro l
    induction l with
    | nil => simp
    | cons b l ih =>
        intro acc
        rw [List.foldl_cons, ih, UInt8.or_eq_zero_iff, List.forall_mem_cons, and_assoc]
  rw [C.allZero, hacc]
  simp [Rust.isAllZero]

theorem Rust.validate_eq_ok_iff {c : IotCoreAuthorizationContextV1} {u : Unit} :
    Rust.validateIotCoreAuthorizationContext c = .ok u ↔ c.Valid := by
  simp only [Rust.validateIotCoreAuthorizationContext, Except.bind_eq_ok_iff, ensure_eq_ok_iff,
    exists_const, Rust.isAllZero_iff, ne_eq, not_not]
  constructor
  · rintro ⟨h1, h2, h3, h4, h5, h6, h7⟩
    exact ⟨h1, h2, h3, h4, h5, h6, h7⟩
  · rintro ⟨h1, h2, h3, h4, h5, h6, h7⟩
    exact ⟨h1, h2, h3, h4, h5, h6, h7⟩

/-! ## Errors -/

/-- The error of C for an error of Rust. -/
def Rust.IotCoreAuthorizationError.inC : Rust.IotCoreAuthorizationError → C.IotCoreAuthzResult
  | .invalidHolderBinding => .invalidHolder
  | .invalidAudience => .invalidAudience
  | .invalidRolePolicy => .invalidRolePolicy
  | .invalidScope => .invalidScope
  | .invalidAuthorizationGeneration => .invalidGeneration
  | .invalidPolicyEpoch => .invalidPolicyEpoch
  | .invalidRevocationEpoch => .invalidRevocationEpoch
  | .invalidEncodingLength => .invalidEncodingLength
  | .invalidContextKind => .invalidContextKind
  | .invalidEntrySchema => .invalidEntrySchema
  | .parsing .entryLimitExceeded => .entryLimitExceeded
  | .parsing _ => .invalidEncoding
  | .encoding _ => .invalidArgument

/-- Both validations fail alike. -/
theorem validate_same (c : IotCoreAuthorizationContextV1) :
    SameOutcome (fun e d => d = e.inC) Eq
      (Rust.validateIotCoreAuthorizationContext c) (C.authV3IotCoreAuthzValidate c) := by
  have hlast : SameOutcome (fun (e : Rust.IotCoreAuthorizationError) d => d = e.inC)
      Eq (ensure (¬ c.revocationEpoch = 0) .invalidRevocationEpoch)
      (ensure (¬ c.revocationEpoch = 0) .invalidRevocationEpoch) := by
    by_cases h : c.revocationEpoch = 0
    · rw [ensure_neg (not_not.mpr h), ensure_neg (not_not.mpr h)]
      exact .error rfl
    · rw [ensure_pos h, ensure_pos h]
      exact .ok rfl
  exact .guard (C.allZero_iff _).symm.not rfl fun _ => .guard (C.allZero_iff _).symm.not rfl
    fun _ => .guard Iff.rfl rfl fun _ => .guard Iff.rfl rfl fun _ => .guard Iff.rfl rfl
    fun _ => .guard Iff.rfl rfl fun _ => hlast

/-! ## The seven entries -/

namespace IotCoreAuthorizationContextV1

/-- The encoding of a context. -/
def bytes (c : IotCoreAuthorizationContextV1) : List UInt8 :=
  contextLayout .authorization (Rust.iotCoreEntries c)

@[simp] theorem u64LE_length (x : UInt64) : (u64LE x).length = 8 := natLE_length 8 x.toNat

theorem length_bytes (c : IotCoreAuthorizationContextV1) :
    c.bytes.length = iotCoreAuthzCanonicalLen := by
  rw [bytes, C.length_contextLayout]
  simp only [Rust.iotCoreEntries, List.flatMap_cons, List.flatMap_nil, List.length_append,
    C.ContextEntry.length_bytes, Bytes.len, u64LE_length, List.length_nil]
  rfl

theorem entries_canonical (c : IotCoreAuthorizationContextV1) :
    CanonicalContext .authorization (Rust.iotCoreEntries c) := by
  rw [canonicalContext_iff]
  refine ⟨by simp [Rust.iotCoreEntries], ?_⟩
  simp only [Rust.iotCoreEntries, CanonicalAfter, ContextKind.Allows, Bytes.len, u64LE_length,
    iotCoreAuthzHolderBindingId, iotCoreAuthzAudienceId, iotCoreAuthzRolePolicyId,
    iotCoreAuthzScopeBitsId, iotCoreAuthzGenerationId, iotCoreAuthzPolicyEpochId,
    iotCoreAuthzRevocationEpochId, reduceCtorEq, IsEmpty.forall_iff, and_true]
  decide

theorem entries_matchExpected (c : IotCoreAuthorizationContextV1) :
    MatchesExpected (Rust.iotCoreEntries c) := by
  simp [MatchesExpected, Rust.iotCoreEntries, iotCoreAuthzExpected]

/-- A number of eight bytes is written back. -/
theorem u64LE_ofNat_leNat {l : List UInt8} (h : l.length = 8) : u64LE (UInt64.ofNat (leNat l)) = l := by
  have hlt := leNat_lt l
  rw [h] at hlt
  have hback := natLE_leNat l
  rw [h] at hback
  rw [u64LE, UInt64.toNat_ofNat_of_lt' (by simpa using hlt), hback]

theorem ofNat_leNat_u64LE (x : UInt64) : UInt64.ofNat (leNat (u64LE x)) = x := by
  rw [u64LE, leNat_natLE x.toNat_lt, UInt64.ofNat_toNat]

/-- Seven entries with the expected ids and lengths are those of a context. -/
theorem exists_of_matchesExpected {entries : List ContextEntry}
    (hlen : entries.length = iotCoreAuthzEntryCount) (h : MatchesExpected entries) :
    ∃ c, entries = Rust.iotCoreEntries c := by
  obtain ⟨⟨i0, v0⟩, ⟨i1, v1⟩, ⟨i2, v2⟩, ⟨i3, v3⟩, ⟨i4, v4⟩, ⟨i5, v5⟩, ⟨i6, v6⟩, rfl⟩ :
      ∃ e0 e1 e2 e3 e4 e5 e6, entries = [e0, e1, e2, e3, e4, e5, e6] := by
    match entries, hlen with
    | [e0, e1, e2, e3, e4, e5, e6], _ => exact ⟨e0, e1, e2, e3, e4, e5, e6, rfl⟩
  simp only [MatchesExpected, iotCoreAuthzExpected, List.zip_cons_cons, List.zip_nil_left,
    List.forall_mem_cons, not_or, not_not, ne_eq, List.not_mem_nil, false_implies, implies_true,
    and_true] at h
  obtain ⟨⟨rfl, h0⟩, ⟨rfl, h1⟩, ⟨rfl, h2⟩, ⟨rfl, h3⟩, ⟨rfl, h4⟩, ⟨rfl, h5⟩, ⟨rfl, h6⟩⟩ := h
  refine ⟨⟨⟨v0, h0⟩, ⟨v1, h1⟩, UInt64.ofNat (leNat v2), UInt64.ofNat (leNat v3),
    UInt64.ofNat (leNat v4), UInt64.ofNat (leNat v5), UInt64.ofNat (leNat v6)⟩, ?_⟩
  simp only [Rust.iotCoreEntries, u64LE_ofNat_leNat, h2, h3, h4, h5, h6]

end IotCoreAuthorizationContextV1

open IotCoreAuthorizationContextV1

/-- The decoder of Rust reads the fields back. -/
theorem Rust.readFields_entries (c : IotCoreAuthorizationContextV1) :
    Rust.readFields (Rust.iotCoreEntries c) = .ok c := by
  simp [Rust.readFields, Rust.iotCoreEntries, Rust.valueAt, Rust.tryInto, Rust.loadU64Le,
    ofNat_leNat_u64LE]

/-- The decoder of C reads the fields back. -/
theorem C.readFields_entries {c : IotCoreAuthorizationContextV1} {entries : List C.ContextEntry}
    (h : C.plainEntries entries = Rust.iotCoreEntries c) : C.readFields entries = .ok c := by
  have hvalue : ∀ i e, (Rust.iotCoreEntries c)[i]? = some e →
      C.valueAt entries i = .ok e.value := by
    intro i e hentry
    rw [← h, C.plainEntries, List.getElem?_map] at hentry
    obtain ⟨entry, hget, rfl⟩ := Option.map_eq_some_iff.mp hentry
    simp only [C.valueAt, hget]
  have hload : ∀ x : UInt64, C.loadU64Le (u64LE x) = .ok x := by
    intro x
    rw [C.loadU64Le, if_pos (by simp), loadU64LE, List.drop_zero,
      List.take_of_length_le (by simp), ofNat_leNat_u64LE]
  have hcopy : ∀ b : Bytes 32, C.copy32 b.val = .ok b := by
    intro b
    rw [C.copy32, dif_pos (by simp)]
    congr 1
    apply Bytes.ext
    exact List.take_of_length_le (by simp)
  simp [C.readFields, hvalue 0 _ rfl, hvalue 1 _ rfl, hvalue 2 _ rfl, hvalue 3 _ rfl,
    hvalue 4 _ rfl, hvalue 5 _ rfl, hvalue 6 _ rfl, hload, hcopy]

/-! ## The encoders and the decoders -/

/-- A failure that is only renamed leaves the successes. -/
theorem Except.mapError_eq_ok_iff {ε δ α : Type} {f : ε → δ} {x : Except ε α} {a : α} :
    x.mapError f = .ok a ↔ x = .ok a := by
  cases x <;> simp [Except.mapError]

namespace Rust

/-- The encoder accepts the valid contexts. -/
theorem encodeIotCore_eq_ok_iff {c : IotCoreAuthorizationContextV1} {b : List UInt8} :
    encodeIotCoreAuthorizationContext c = .ok b ↔ c.Valid ∧ b = c.bytes := by
  simp only [encodeIotCoreAuthorizationContext, Except.bind_eq_ok_iff, exists_const,
    validate_eq_ok_iff, Except.mapError_eq_ok_iff, encodeCanonicalContext_eq_ok_iff,
    c.entries_canonical, true_and]
  rfl

/-- The decoder accepts the encodings of the valid contexts. -/
theorem decodeIotCore_eq_ok_iff {c : IotCoreAuthorizationContextV1} {input : List UInt8} :
    decodeIotCoreAuthorizationContextBytes input = .ok c ↔ c.Valid ∧ input = c.bytes := by
  simp only [decodeIotCoreAuthorizationContextBytes, parseCanonicalContextBounded,
    Except.bind_eq_ok_iff, ensure_eq_ok_iff, exists_const, Except.mapError_eq_ok_iff,
    parseCanonicalContextImpl_eq_ok_iff, validate_eq_ok_iff, Except.pure_eq_ok, Except.ok.injEq,
    ne_eq, not_not]
  constructor
  · rintro ⟨-, ⟨kind, entries⟩, ⟨-, hinput, -⟩, hkind, hcount, hmatch, c', hread, hvalid, rfl⟩
    dsimp only at hinput hkind hcount hmatch hread
    obtain ⟨d, rfl⟩ := exists_of_matchesExpected hcount hmatch
    rw [readFields_entries] at hread
    cases hread
    rw [hkind] at hinput
    exact ⟨hvalid, hinput⟩
  · rintro ⟨hvalid, rfl⟩
    refine ⟨c.length_bytes, ⟨.authorization, iotCoreEntries c⟩, ⟨c.entries_canonical, rfl, ?_⟩, rfl,
      rfl, c.entries_matchExpected, c, readFields_entries c, hvalid, rfl⟩
    intro limit hlimit
    cases hlimit
    exact le_refl 7

end Rust

/-! ### The decoders in step -/

/-- The decoders stop with corresponding errors. -/
def SameAuthzHalt : Halt Rust.IotCoreAuthorizationError → Halt C.IotCoreAuthzResult → Prop :=
  SameHalt fun e d => d = e.inC

theorem sameAuthzHalt (e : Rust.IotCoreAuthorizationError) : SameAuthzHalt (.err e) (.err e.inC) :=
  .err rfl

/-- The string breaks the limit of the profile and the limit of its length. -/
structure TwoLimits (input : List UInt8) (limit : ℕ) : Prop where
  header : HeaderOk input
  profile : declaredCount input > limit
  structural : declaredCount input > (input.length - 9) / 5

/-- With the same limit, both parsers have the same outcome but on strings that break two. -/
theorem parse_bounded_same {input : List UInt8} {limit : ℕ} (h : ¬ TwoLimits input limit) :
    SameOutcome SameParseHalt (SameParsed true) (Rust.parseCanonicalContextBounded input limit)
      (C.authV3ContextParseBytes input limit) := by
  refine parse_same (by simp) ?_
  rintro hheader ⟨_, hmem, hlimit⟩ hstructure
  cases hmem
  exact h ⟨hheader, hlimit, hstructure⟩

/-- Both decoders have the same outcome but on strings that break two limits. -/
theorem decode_same {input : List UInt8}
    (h : input.length = iotCoreAuthzCanonicalLen → ¬ TwoLimits input iotCoreAuthzEntryCount) :
    SameOutcome SameAuthzHalt Eq (Rust.decodeIotCoreAuthorizationContextBytes input)
      (C.authV3IotCoreAuthzDecodeBytes input) := by
  refine .guard Iff.rfl (sameAuthzHalt .invalidEncodingLength) fun hlen => ?_
  have hparse : SameOutcome SameAuthzHalt (SameParsed true)
      ((Rust.parseCanonicalContextBounded input iotCoreAuthzEntryCount).mapError Rust.Halt.parsing)
      ((C.authV3ContextParseBytes input iotCoreAuthzEntryCount).mapError C.Halt.reported) := by
    refine (parse_bounded_same (h (not_not.mp hlen))).mapError ?_
    intro e d hed
    cases hed with
    | err hed =>
        subst hed
        rename_i e
        cases e <;> exact sameAuthzHalt (.parsing _)
  refine hparse.bind fun r c hrc => ?_
  have hentries : C.plainEntries c.entries = r.entries := hrc.entries
  refine .guard (by rw [hrc.kind]) (sameAuthzHalt .invalidContextKind) fun _ => ?_
  refine .guard (by rw [hrc.count]) (sameAuthzHalt .invalidEntrySchema) fun hcount => ?_
  refine .guard (by rw [← hentries]; rfl) (sameAuthzHalt .invalidEntrySchema) fun hmatch => ?_
  obtain ⟨d, hd⟩ := exists_of_matchesExpected (not_not.mp hcount) hmatch
  rw [hd, Rust.readFields_entries, C.readFields_entries (hentries.trans hd)]
  refine ((validate_same d).mapError ?_).bind fun _ _ _ => .ok rfl
  rintro e _ rfl
  exact sameAuthzHalt e

namespace C

theorem validate_eq_ok_iff {c : IotCoreAuthorizationContextV1} {u : Unit} :
    authV3IotCoreAuthzValidate c = .ok u ↔ c.Valid := by
  rw [← (validate_same c).eq_ok_iff, Rust.validate_eq_ok_iff]

theorem buildEntries_eq_ok_iff {c : IotCoreAuthorizationContextV1} {entries : List ContextEntry} :
    buildEntries c = .ok entries ↔ c.Valid ∧ plainEntries entries = Rust.iotCoreEntries c := by
  rw [buildEntries]
  simp only [Except.bind_eq_ok_iff, validate_eq_ok_iff, exists_const, Except.pure_eq_ok,
    Except.ok.injEq]
  refine and_congr_right fun _ => ⟨?_, fun h => plainEntries_injective (h.symm ▸ rfl)⟩
  rintro rfl
  rfl

/-- A valid context has its entries. -/
theorem exists_buildEntries {c : IotCoreAuthorizationContextV1} (h : c.Valid) :
    ∃ entries, buildEntries c = .ok entries ∧ plainEntries entries = Rust.iotCoreEntries c := by
  have hok : authV3IotCoreAuthzValidate c = .ok () := validate_eq_ok_iff.mpr h
  rw [buildEntries, hok]
  exact ⟨_, rfl, rfl⟩

/-- The encoder accepts the valid contexts where there is room. -/
theorem encodeIotCore_eq_ok_iff {c : IotCoreAuthorizationContextV1} {outCapacity : ℕ}
    {b : List UInt8} :
    authV3IotCoreAuthzEncode c outCapacity = .ok b ↔
      c.Valid ∧ b = c.bytes ∧ iotCoreAuthzCanonicalLen ≤ outCapacity := by
  have hlen := c.length_bytes
  have hencode : ∀ (entries : List ContextEntry), Output.result
      ((authV3ContextEncode .authorization entries outCapacity).exec ⟨[], 0⟩) =
        encodeContext .authorization entries outCapacity := fun _ => rfl
  simp only [authV3IotCoreAuthzEncode, Except.bind_eq_ok_iff, buildEntries_eq_ok_iff, hencode,
    Except.mapError_eq_ok_iff, encodeContext_eq_ok_iff, ensure_eq_ok_iff, exists_const, ne_eq,
    not_not, Except.pure_eq_ok, Except.ok.injEq]
  constructor
  · rintro ⟨entries, ⟨hvalid, hentries⟩, out, ⟨-, hout, hroom⟩, hlen', rfl⟩
    rw [hentries] at hout
    exact ⟨hvalid, hout, hlen' ▸ hroom⟩
  · rintro ⟨hvalid, rfl, hroom⟩
    obtain ⟨entries, -, hplain⟩ := exists_buildEntries hvalid
    refine ⟨entries, ⟨hvalid, hplain⟩, c.bytes, ⟨?_, ?_, hlen.symm ▸ hroom⟩, hlen, rfl⟩
    · rw [hplain]
      exact c.entries_canonical
    · rw [hplain, bytes]

end C

/-- A string that breaks two limits is rejected by both decoders, for different reasons. -/
theorem decode_twoLimits {input : List UInt8} (hlen : input.length = iotCoreAuthzCanonicalLen)
    (h : TwoLimits input iotCoreAuthzEntryCount) :
    Rust.decodeIotCoreAuthorizationContextBytes input =
        .error (.err (.parsing .entryLimitExceeded)) ∧
      C.authV3IotCoreAuthzDecodeBytes input = .error (.err .invalidEncoding) := by
  obtain ⟨hrust, hc⟩ := parse_both_limits h.header h.profile h.structural
  rw [Rust.decodeIotCoreAuthorizationContextBytes, C.authV3IotCoreAuthzDecodeBytes, hrust,
    C.authV3ContextParseBytes, hc true, ensure_pos (not_not.mpr hlen),
    ensure_pos (not_not.mpr hlen)]
  exact ⟨rfl, rfl⟩

/-- The decoder of C accepts the encodings of the valid contexts. -/
theorem C.decodeIotCore_eq_ok_iff {c : IotCoreAuthorizationContextV1} {input : List UInt8} :
    C.authV3IotCoreAuthzDecodeBytes input = .ok c ↔ c.Valid ∧ input = c.bytes := by
  rw [← Rust.decodeIotCore_eq_ok_iff]
  by_cases htwo : input.length = iotCoreAuthzCanonicalLen ∧ TwoLimits input iotCoreAuthzEntryCount
  · obtain ⟨hrust, hc⟩ := decode_twoLimits htwo.1 htwo.2
    rw [hrust, hc]
    simp
  · have hsame := decode_same fun hlen h => htwo ⟨hlen, h⟩
    exact hsame.eq_ok_iff.symm

theorem Rust.iotCore_canonicalCodec :
    CanonicalCodec Rust.encodeIotCoreAuthorizationContext
      Rust.decodeIotCoreAuthorizationContextBytes := by
  intro c b
  rw [Rust.decodeIotCore_eq_ok_iff, Rust.encodeIotCore_eq_ok_iff]

theorem C.iotCore_canonicalCodec {outCapacity : ℕ} (hroom : 148 ≤ outCapacity) :
    CanonicalCodec (fun c => C.authV3IotCoreAuthzEncode c outCapacity)
      C.authV3IotCoreAuthzDecodeBytes := by
  intro c b
  rw [C.decodeIotCore_eq_ok_iff, C.encodeIotCore_eq_ok_iff]
  exact ⟨fun h => ⟨h.1, h.2, hroom⟩, fun h => ⟨h.1, h.2.1⟩⟩

/-! ## Hashes -/

section hashes

variable {sha256 : List UInt8 → Bytes 32} (H : StreamHash sha256)
  {c : IotCoreAuthorizationContextV1}

theorem Rust.hashIotCore_of_valid (h : c.Valid) :
    Rust.hashIotCoreAuthorizationContext sha256 c = .ok (sha256 c.bytes) := by
  have hvalidate : Rust.validateIotCoreAuthorizationContext c = .ok () :=
    Rust.validate_eq_ok_iff.mpr h
  have hencode := Rust.encodeCanonicalContext_eq_ok_iff.mpr ⟨c.entries_canonical, rfl⟩
  rw [Rust.hashIotCoreAuthorizationContext, hvalidate, Except.ok_bind', Rust.hashCanonicalContext,
    hencode]
  rfl

theorem C.hashIotCore_of_valid (h : c.Valid) :
    C.authV3IotCoreAuthzHash H c = .ok (sha256 c.bytes) := by
  obtain ⟨entries, hentries, hplain⟩ := C.exists_buildEntries h
  have hvalidate : C.validateEntries .authorization entries =
      .ok (contextLayout .authorization (C.plainEntries entries)).length :=
    C.validateEntries_eq_ok_iff.mpr ⟨hplain ▸ c.entries_canonical, rfl⟩
  rw [C.authV3IotCoreAuthzHash, hentries, Except.ok_bind', C.authV3ContextHash_eq, hvalidate,
    hplain]
  rfl

/-- Contexts with one hash are equal or a collision. -/
theorem hash_eq_or_collision {d : IotCoreAuthorizationContextV1} (hcv : c.Valid) (hdv : d.Valid)
    (heq : Rust.hashIotCoreAuthorizationContext sha256 c =
        Rust.hashIotCoreAuthorizationContext sha256 d ∨
      C.authV3IotCoreAuthzHash H c = C.authV3IotCoreAuthzHash H d) :
    c = d ∨ ∃ x y, Rust.encodeIotCoreAuthorizationContext c = .ok x ∧
      Rust.encodeIotCoreAuthorizationContext d = .ok y ∧ x ≠ y ∧ sha256 x = sha256 y := by
  have hec := Rust.encodeIotCore_eq_ok_iff.mpr ⟨hcv, rfl⟩
  have hed := Rust.encodeIotCore_eq_ok_iff.mpr ⟨hdv, rfl⟩
  simp only [Rust.hashIotCore_of_valid hcv, Rust.hashIotCore_of_valid hdv,
    C.hashIotCore_of_valid H hcv, C.hashIotCore_of_valid H hdv, Except.ok.injEq, or_self] at heq
  by_cases hbytes : c.bytes = d.bytes
  · exact .inl (Rust.iotCore_canonicalCodec.encode_inj (hbytes ▸ hec) hed)
  · exact .inr ⟨c.bytes, d.bytes, hec, hed, hbytes, heq⟩

end hashes

/-- In both languages decoding inverts encoding, every encoding has 148 bytes and is the same in
both, and nothing else is accepted.  The four hashes of a context are the hash of its encoding, so
two contexts with one hash are equal or a collision. -/
theorem iotCore_codec_canonical {sha256 : List UInt8 → Bytes 32} (H : StreamHash sha256) :
    CanonicalCodec Rust.encodeIotCoreAuthorizationContext
        Rust.decodeIotCoreAuthorizationContextBytes ∧
      (∀ outCapacity, 148 ≤ outCapacity →
        CanonicalCodec (fun c => C.authV3IotCoreAuthzEncode c outCapacity)
          C.authV3IotCoreAuthzDecodeBytes) ∧
      (∀ c, c.Valid → ∃ b, b.length = 148 ∧
        Rust.encodeIotCoreAuthorizationContext c = .ok b ∧
        (∀ outCapacity, 148 ≤ outCapacity → C.authV3IotCoreAuthzEncode c outCapacity = .ok b) ∧
        Rust.decodeIotCoreAuthorizationContextBytes b = .ok c ∧
        C.authV3IotCoreAuthzDecodeBytes b = .ok c ∧
        Rust.hashIotCoreAuthorizationContext sha256 c = .ok (sha256 b) ∧
        Rust.hashIotCoreAuthorizationContextBytes sha256 b = .ok (sha256 b) ∧
        C.authV3IotCoreAuthzHash H c = .ok (sha256 b) ∧
        C.authV3IotCoreAuthzHashBytes sha256 b = .ok (sha256 b)) ∧
      (∀ b, (∃ c, Rust.decodeIotCoreAuthorizationContextBytes b = .ok c) ↔
        ∃ c, c.Valid ∧ Rust.encodeIotCoreAuthorizationContext c = .ok b) ∧
      (∀ b, (∃ c, C.authV3IotCoreAuthzDecodeBytes b = .ok c) ↔
        ∃ c, c.Valid ∧ ∀ outCapacity, 148 ≤ outCapacity →
          C.authV3IotCoreAuthzEncode c outCapacity = .ok b) ∧
      ∀ c d, c.Valid → d.Valid →
        (Rust.hashIotCoreAuthorizationContext sha256 c =
            Rust.hashIotCoreAuthorizationContext sha256 d ∨
          C.authV3IotCoreAuthzHash H c = C.authV3IotCoreAuthzHash H d) →
        c = d ∨ ∃ x y, Rust.encodeIotCoreAuthorizationContext c = .ok x ∧
          Rust.encodeIotCoreAuthorizationContext d = .ok y ∧ x ≠ y ∧ sha256 x = sha256 y := by
  refine ⟨Rust.iotCore_canonicalCodec, fun _ => C.iotCore_canonicalCodec, ?_, ?_, ?_,
    fun _ _ => hash_eq_or_collision H⟩
  · intro c hvalid
    have hdecode := Rust.decodeIotCore_eq_ok_iff.mpr ⟨hvalid, rfl⟩
    have hdecodeC := C.decodeIotCore_eq_ok_iff.mpr ⟨hvalid, rfl⟩
    refine ⟨c.bytes, c.length_bytes, Rust.iotCore_canonicalCodec.encode_decode hdecode,
      fun _ hroom => (C.iotCore_canonicalCodec hroom).encode_decode hdecodeC, hdecode, hdecodeC,
      Rust.hashIotCore_of_valid hvalid, ?_, C.hashIotCore_of_valid H hvalid, ?_⟩
    · rw [Rust.hashIotCoreAuthorizationContextBytes, hdecode]
      rfl
    · rw [C.authV3IotCoreAuthzHashBytes, hdecodeC]
      rfl
  · intro b
    refine exists_congr fun c => ?_
    rw [Rust.decodeIotCore_eq_ok_iff, Rust.encodeIotCore_eq_ok_iff]
    tauto
  · intro b
    refine exists_congr fun c => ?_
    rw [C.decodeIotCore_eq_ok_iff]
    constructor
    · rintro ⟨hvalid, rfl⟩
      exact ⟨hvalid, fun _ hroom => C.encodeIotCore_eq_ok_iff.mpr ⟨hvalid, rfl, hroom⟩⟩
    · rintro ⟨hvalid, h⟩
      exact ⟨hvalid, (C.encodeIotCore_eq_ok_iff.mp (h 148 le_rfl)).2.1⟩

/-! ## Limits -/

/-- In a string of 148 bytes there is room for 27 entries. -/
theorem twoLimits_iff {input : List UInt8} (hlen : input.length = iotCoreAuthzCanonicalLen) :
    TwoLimits input iotCoreAuthzEntryCount ↔ HeaderOk input ∧ 27 < declaredCount input := by
  have hroom : (input.length - 9) / 5 = 27 := by rw [hlen]; rfl
  have hseven : iotCoreAuthzEntryCount = 7 := rfl
  constructor
  · rintro ⟨hheader, -, hstructure⟩
    exact ⟨hheader, hroom ▸ hstructure⟩
  · rintro ⟨hheader, hcount⟩
    exact ⟨hheader, by omega, by omega⟩

/-- With the same limit, the parsers return the same context or corresponding errors, except where
the declared count breaks both the limit and the length of the input.  There Rust reports the
limit and C the length.  So the decoders of the profile classify alike all strings but those of 148
bytes that declare more than 27 entries. -/
theorem bounded_parse_parity (input : List UInt8) (limit : ℕ) :
    (¬ (HeaderOk input ∧ limit < declaredCount input ∧
        (input.length - 9) / 5 < declaredCount input) →
      SameOutcome SameParseHalt (SameParsed true) (Rust.parseCanonicalContextBounded input limit)
        (C.authV3ContextParseBytes input limit)) ∧
    (HeaderOk input ∧ limit < declaredCount input ∧
        (input.length - 9) / 5 < declaredCount input →
      Rust.parseCanonicalContextBounded input limit = .error (.err .entryLimitExceeded) ∧
        C.authV3ContextParseBytes input limit = .error (.err .truncated)) ∧
    (¬ (input.length = 148 ∧ HeaderOk input ∧ 27 < declaredCount input) →
      SameOutcome SameAuthzHalt Eq (Rust.decodeIotCoreAuthorizationContextBytes input)
        (C.authV3IotCoreAuthzDecodeBytes input)) ∧
    (input.length = 148 ∧ HeaderOk input ∧ 27 < declaredCount input →
      Rust.decodeIotCoreAuthorizationContextBytes input =
          .error (.err (.parsing .entryLimitExceeded)) ∧
        C.authV3IotCoreAuthzDecodeBytes input = .error (.err .invalidEncoding)) := by
  refine ⟨fun h => ?_, fun h => ?_, fun h => ?_, fun h => ?_⟩
  · exact parse_bounded_same fun ⟨hheader, hprofile, hstructure⟩ =>
      h ⟨hheader, hprofile, hstructure⟩
  · obtain ⟨hrust, hc⟩ := parse_both_limits h.1 h.2.1 h.2.2
    exact ⟨hrust, hc true⟩
  · exact decode_same fun hlen htwo => h ⟨hlen, (twoLimits_iff hlen).mp htwo⟩
  · exact decode_twoLimits h.1 ((twoLimits_iff h.1).mpr h.2)

/-- The header of a context that declares 65535 entries. -/
def demoHeader : List UInt8 := C.contextHeader .authorization 0xFFFF

/-- A header without entries breaks both limits. -/
theorem bounded_parses_differ :
    ¬ ∀ (input : List UInt8) (limit : ℕ), SameOutcome SameParseHalt (SameParsed true)
      (Rust.parseCanonicalContextBounded input limit) (C.authV3ContextParseBytes input limit) := by
  intro h
  have hrust : Rust.parseCanonicalContextBounded demoHeader 7 =
      .error (.err .entryLimitExceeded) := by decide +kernel
  have hc : C.authV3ContextParseBytes demoHeader 7 = .error (.err .truncated) := by
    decide +kernel
  have hsame := h demoHeader 7
  rw [hrust, hc] at hsame
  cases hsame with
  | error hhalt =>
      cases hhalt with
      | err hclass => cases hclass

end ZkArche
