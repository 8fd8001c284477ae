import ZkArche.AuthV3.ContextCodec

/-!
# The parsers accept the encodings

Both parsers read the header of the context, compare the declared number of entries with the limits
and run a loop over the entries.  The step of each loop succeeds exactly when the bytes of an entry
that may come next are at the offset (`Rust.parseEntry_eq_ok_iff`), so the loop succeeds exactly
when the bytes of the declared number of entries are there.

So each encoder and its parser form a canonical codec.

The two steps have the same outcome at every offset (`parseEntry_same`), and so have the two loops.
On every input the parsers stop alike, except that they test the two limits on the number of
entries in opposite orders (`parse_same`).  Neither reads outside the input.
-/

namespace ZkArche

/-! ## Bytes at an offset -/

theorem u16At_eq {ε : Type} {buf : List UInt8} {i : ℕ} (h : i + 2 ≤ buf.length) :
    (u16At buf i : Except (Halt ε) UInt16) = .ok (loadU16LE buf i) := u16At_of_le h

/-- A number is written back. -/
theorem u16LE_loadU16LE {buf : List UInt8} {i : ℕ} (h : i + 2 ≤ buf.length) :
    u16LE (loadU16LE buf i) = (buf.drop i).take 2 := by
  have hlen : ((buf.drop i).take 2).length = 2 := by
    rw [List.length_take, List.length_drop]
    omega
  have hlt := leNat_lt ((buf.drop i).take 2)
  rw [hlen] at hlt
  have hback := natLE_leNat ((buf.drop i).take 2)
  rw [hlen] at hback
  rw [u16LE, loadU16LE, UInt16.toNat_ofNat_of_lt' (by simpa using hlt), hback]

/-- One list after another in front of a third. -/
theorem append_prefix_iff {a b l : List UInt8} :
    a ++ b <+: l ↔ a <+: l ∧ b <+: l.drop a.length := by
  constructor
  · rintro ⟨t, rfl⟩
    rw [List.append_assoc]
    refine ⟨List.prefix_append _ _, ?_⟩
    rw [List.drop_left]
    exact List.prefix_append _ _
  · rintro ⟨⟨t, rfl⟩, u, hu⟩
    rw [List.drop_left] at hu
    refine ⟨u, ?_⟩
    rw [List.append_assoc, hu]

theorem take_append_drop_add (buf : List UInt8) (i n : ℕ) :
    (buf.drop i).take n ++ buf.drop (i + n) = buf.drop i := by
  rw [← List.drop_drop, List.take_append_drop]

/-- The five bytes in front of a value. -/
theorem drop_eq_entry_header {input : List UInt8} {offset : ℕ} (h : offset + 5 ≤ input.length) :
    input.drop offset = u16LE (loadU16LE input offset) ++ ([input.getD (offset + 2) 0] ++
      (u16LE (loadU16LE input (offset + 3)) ++ input.drop (offset + 5))) := by
  have hflags : offset + 2 < input.length := by omega
  rw [u16LE_loadU16LE (by omega), u16LE_loadU16LE (by omega), List.getD_eq_getElem _ _ hflags,
    take_append_drop_add input (offset + 3) 2, List.singleton_append,
    ← List.drop_eq_getElem_cons hflags, take_append_drop_add]

/-! ## One entry -/

namespace Rust

theorem getRange_of_le {input : List UInt8} {first last : ℕ} (hle : first ≤ last)
    (hlast : last ≤ input.length) :
    getRange input first last = .ok ((input.drop first).take (last - first)) :=
  if_pos ⟨hle, hlast⟩

theorem getRange_of_lt {input : List UInt8} {first last : ℕ} (hlast : input.length < last) :
    getRange input first last = .error (.err .truncated) :=
  if_neg fun h => absurd h.2 (Nat.not_le.mpr hlast)

/-- A step with a whole header. -/
theorem parseEntry_eq {input : List UInt8} {offset : ℕ} (h : offset + 5 ≤ input.length)
    (kind : ContextKind) (index : ℕ) (previousId : UInt16) :
    parseEntry input kind index previousId offset = (do
      checkId kind index previousId (loadU16LE input offset) (.err .invalidId)
        (.err .nonCanonicalOrder) (.err .invalidCriticalId)
      ensure (input.getD (offset + 2) 0 = 0) (.err .nonZeroFlags)
      let value ← getRange input (offset + 5)
        (offset + 5 + (loadU16LE input (offset + 3)).toNat)
      return (⟨loadU16LE input offset, value⟩,
        offset + 5 + (loadU16LE input (offset + 3)).toNat)) := by
  have hlen : ((input.drop offset).take 5).length = 5 := by
    rw [List.length_take, List.length_drop]
    omega
  have hload : ∀ i, i + 2 ≤ 5 →
      loadU16LE ((input.drop offset).take 5) i = loadU16LE input (offset + i) := by
    intro i hi
    rw [loadU16LE, loadU16LE, List.drop_take, List.take_take, List.drop_drop, min_eq_left (by omega)]
  have hflags : ((input.drop offset).take 5).getD 2 0 = input.getD (offset + 2) 0 := by
    rw [List.getD_eq_getElem?_getD, List.getElem?_take_of_lt (by omega), List.getElem?_drop,
      List.getD_eq_getElem?_getD]
  simp only [parseEntry]
  rw [getRange_of_le (by omega) h, Except.ok_bind', Nat.add_sub_cancel_left,
    u16At_eq (by omega), Except.ok_bind', byteAt_of_lt (by omega), Except.ok_bind',
    u16At_eq (by omega), Except.ok_bind', hload 0 (by omega), hload 3 (by omega), hflags,
    Nat.add_zero]

/-- A step without one. -/
theorem parseEntry_of_lt {input : List UInt8} {offset : ℕ} (h : input.length < offset + 5)
    (kind : ContextKind) (index : ℕ) (previousId : UInt16) :
    parseEntry input kind index previousId offset = .error (.err .truncated) := by
  simp only [parseEntry]
  rw [getRange_of_lt h]
  rfl

/-- What is read at the bytes of an entry. -/
theorem entry_reads {input : List UInt8} {offset : ℕ} {e : ContextEntry}
    (hshort : e.value.length ≤ 0xFFFF) (h : e.bytes <+: input.drop offset) :
    offset + 5 + e.value.length ≤ input.length ∧ loadU16LE input offset = e.id ∧
      input.getD (offset + 2) 0 = 0 ∧ (loadU16LE input (offset + 3)).toNat = e.value.length ∧
      (input.drop (offset + 5)).take e.value.length = e.value := by
  obtain ⟨rest, hrest⟩ := h
  have hdrop : input.drop offset = u16LE e.id ++ ([0] ++ (natLE 2 e.value.length ++
      (e.value ++ rest))) := by
    rw [← hrest, ContextEntry.bytes]
    simp only [List.append_assoc]
  have hlen := congrArg List.length hdrop
  simp only [List.length_drop, List.length_append, u16LE, natLE_length,
    List.length_singleton] at hlen
  -- the header that is read is the one of the entry
  rw [drop_eq_entry_header (by omega)] at hdrop
  obtain ⟨hid, hdrop⟩ := List.append_inj hdrop rfl
  obtain ⟨hflags, hdrop⟩ := List.append_inj hdrop rfl
  obtain ⟨hlenEq, hdrop⟩ := List.append_inj hdrop rfl
  refine ⟨by omega, u16LE_inj hid, List.singleton_inj.mp hflags, ?_, ?_⟩
  · have hnat := congrArg leNat hlenEq
    rwa [u16LE, leNat_natLE (UInt16.toNat_lt _), leNat_natLE (by omega)] at hnat
  · rw [hdrop, List.take_left]

/-- A step returns the entry whose bytes are at the offset, if it may come next. -/
theorem parseEntry_eq_ok_iff {input : List UInt8} {kind : ContextKind} {index : ℕ}
    {previousId : UInt16} (hfirst : index = 0 → previousId = 0) {offset next : ℕ}
    {e : ContextEntry} :
    parseEntry input kind index previousId offset = .ok (e, next) ↔
      ((previousId < e.id ∧ kind.Allows e.id) ∧ e.value.length ≤ 0xFFFF) ∧
        e.bytes <+: input.drop offset ∧ next = offset + e.bytes.length := by
  have hbytes := C.ContextEntry.length_bytes e
  constructor
  · intro hok
    have h : offset + 5 ≤ input.length := by
      by_contra hshort
      rw [parseEntry_of_lt (Nat.not_le.mp hshort)] at hok
      cases hok
    rw [parseEntry_eq h] at hok
    simp only [Except.bind_eq_ok_iff, ensure_eq_ok_iff, exists_const,
      checkId_eq_ok_iff hfirst] at hok
    obtain ⟨hid, hflags, value, hvalue, hret⟩ := hok
    cases hret
    set valueLen := loadU16LE input (offset + 3) with hvalueLen
    have hin : offset + 5 + valueLen.toNat ≤ input.length := by
      by_contra hlong
      rw [getRange_of_lt (Nat.not_le.mp hlong)] at hvalue
      cases hvalue
    rw [getRange_of_le (Nat.le_add_right _ _) hin, Nat.add_sub_cancel_left] at hvalue
    cases hvalue
    have hlen : ((input.drop (offset + 5)).take valueLen.toNat).length = valueLen.toNat := by
      rw [List.length_take, List.length_drop]
      omega
    have hlt := valueLen.toNat_lt
    refine ⟨⟨hid, by rw [hlen]; omega⟩, ?_, ?_⟩
    · refine ⟨(input.drop (offset + 5)).drop valueLen.toNat, ?_⟩
      rw [drop_eq_entry_header h, hflags, ContextEntry.bytes, hlen]
      simp only [List.append_assoc, List.take_append_drop, u16LE, hvalueLen]
    · rw [hbytes, hlen, Nat.add_assoc]
  · rintro ⟨⟨hid, hshort⟩, hpre, rfl⟩
    obtain ⟨hin, hidEq, hflags, hvalueLen, hvalue⟩ := entry_reads hshort hpre
    rw [parseEntry_eq (by omega), hidEq, hflags, hvalueLen, (checkId_eq_ok_iff hfirst).mpr hid,
      Except.ok_bind', ensure_pos rfl, Except.ok_bind', getRange_of_le (Nat.le_add_right _ _) hin,
      Except.ok_bind', Nat.add_sub_cancel_left, hvalue, hbytes, Nat.add_assoc]
    rfl

/-- The loop returns the entries whose bytes are at the offset, if they may come next. -/
theorem parseEntries_eq_ok_iff {input : List UInt8} {kind : ContextKind} {left index : ℕ}
    {previousId : UInt16} (hfirst : index = 0 → previousId = 0) {offset next : ℕ}
    {before entries : List ContextEntry} :
    parseEntries input kind left index before previousId offset = .ok (entries, next) ↔
      ∃ es, es.length = left ∧ entries = before ++ es ∧ CanonicalAfter kind previousId es ∧
        es.flatMap ContextEntry.bytes <+: input.drop offset ∧
        next = offset + (es.flatMap ContextEntry.bytes).length := by
  induction left generalizing index before previousId offset with
  | zero =>
      rw [parseEntries]
      constructor
      · intro h
        cases h
        exact ⟨[], rfl, (List.append_nil _).symm, trivial, List.nil_prefix, rfl⟩
      · rintro ⟨es, hes, rfl, -, -, rfl⟩
        cases List.eq_nil_of_length_eq_zero hes
        simp
  | succ left ih =>
      have hnext : index + 1 = 0 → ∀ id : UInt16, id = 0 := fun h => absurd h (Nat.succ_ne_zero _)
      rw [parseEntries, Except.bind_eq_ok_iff]
      constructor
      · rintro ⟨⟨e, offset'⟩, hentry, hloop⟩
        obtain ⟨⟨hid, hshort⟩, hpre, rfl⟩ := (parseEntry_eq_ok_iff hfirst).mp hentry
        obtain ⟨es, rfl, rfl, hafter, hes, rfl⟩ := (ih fun h => hnext h _).mp hloop
        refine ⟨e :: es, rfl, ?_, ⟨hid, hshort, hafter⟩, ?_, ?_⟩
        · rw [List.append_assoc, List.singleton_append]
        · rw [List.flatMap_cons, append_prefix_iff, List.drop_drop]
          exact ⟨hpre, hes⟩
        · rw [List.flatMap_cons, List.length_append, Nat.add_assoc]
      · rintro ⟨es, hes, rfl, hafter, hpre, rfl⟩
        obtain ⟨e, es, rfl⟩ := List.exists_cons_of_length_eq_add_one hes
        obtain ⟨hid, hshort, hafter⟩ := hafter
        rw [List.flatMap_cons, append_prefix_iff, List.drop_drop] at hpre
        refine ⟨(e, offset + e.bytes.length),
          (parseEntry_eq_ok_iff hfirst).mpr ⟨⟨hid, hshort⟩, hpre.1, rfl⟩, ?_⟩
        refine (ih fun h => hnext h _).mpr ⟨es, Nat.succ.inj hes, ?_, hafter, hpre.2, ?_⟩
        · rw [List.append_assoc, List.singleton_append]
        · rw [List.flatMap_cons, List.length_append, Nat.add_assoc]

end Rust

/-! ## The header -/

/-- The nine bytes in front of the entries. -/
theorem eq_context_header {input : List UInt8} (h : 9 ≤ input.length) :
    input = input.take 5 ++ ([input.getD 5 0] ++ ([input.getD 6 0] ++
      (u16LE (loadU16LE input 7) ++ input.drop 9))) := by
  have hversion : 5 < input.length := by omega
  have hkind : 6 < input.length := by omega
  rw [u16LE_loadU16LE (by omega), List.getD_eq_getElem _ _ hversion, List.getD_eq_getElem _ _ hkind,
    take_append_drop_add input 7 2, List.singleton_append, List.singleton_append,
    ← List.drop_eq_getElem_cons hkind, ← List.drop_eq_getElem_cons hversion, List.take_append_drop]

theorem contextHeader_append (kind : ContextKind) (count : ℕ) (rest : List UInt8) :
    C.contextHeader kind count ++ rest = contextMagic ++ ([contextEncodingVersion] ++
      ([kind.toU8] ++ (natLE 2 count ++ rest))) := by
  simp only [C.contextHeader, List.append_assoc, List.cons_append, List.nil_append]

/-- A string starts with a header exactly when the four fields are the header's. -/
theorem context_header_iff {input : List UInt8} (h : 9 ≤ input.length) {kind : ContextKind}
    {count : ℕ} (hcount : count ≤ 0xFFFF) {rest : List UInt8} :
    input = C.contextHeader kind count ++ rest ↔
      input.take 5 = contextMagic ∧ input.getD 5 0 = contextEncodingVersion ∧
        input.getD 6 0 = kind.toU8 ∧ (loadU16LE input 7).toNat = count ∧ input.drop 9 = rest := by
  have hlen : (input.take 5).length = contextMagic.length := by
    rw [List.length_take, min_eq_left (by omega)]
    rfl
  have hnat : u16LE (loadU16LE input 7) = natLE 2 count ↔ (loadU16LE input 7).toNat = count := by
    constructor
    · intro he
      have hnat := congrArg leNat he
      rwa [u16LE, leNat_natLE (UInt16.toNat_lt _), leNat_natLE (by omega)] at hnat
    · rintro rfl
      rfl
  nth_rewrite 1 [eq_context_header h]
  rw [contextHeader_append, ← hnat]
  constructor
  · intro heq
    obtain ⟨hmagic, heq⟩ := List.append_inj heq hlen
    obtain ⟨hversion, heq⟩ := List.append_inj heq rfl
    obtain ⟨hkind, heq⟩ := List.append_inj heq rfl
    obtain ⟨hcount, hrest⟩ := List.append_inj heq rfl
    exact ⟨hmagic, List.singleton_inj.mp hversion, List.singleton_inj.mp hkind, hcount, hrest⟩
  · rintro ⟨hmagic, hversion, hkind, hcount, hrest⟩
    rw [hmagic, hversion, hkind, hcount, hrest]

namespace Rust

theorem parseKind_eq_ok_iff {b : UInt8} {kind : ContextKind} :
    parseKind b = .ok kind ↔ b = kind.toU8 := by
  unfold parseKind
  cases kind <;> simp only [ContextKind.toU8] <;> split_ifs <;> simp_all

/-- The parser with a whole header. -/
theorem parseCanonicalContextImpl_eq {input : List UInt8} (h : 9 ≤ input.length)
    (maxEntries : Option ℕ) :
    parseCanonicalContextImpl input maxEntries = (do
      ensure (input.take 5 = contextMagic) (.err .invalidMagic)
      ensure (input.getD 5 0 = contextEncodingVersion) (.err .unsupportedVersion)
      let kind ← parseKind (input.getD 6 0)
      ensure (¬ ∃ limit ∈ maxEntries, (loadU16LE input 7).toNat > limit)
        (.err .entryLimitExceeded)
      ensure (¬ (loadU16LE input 7).toNat > (input.length - 9) / 5) (.err .truncated)
      let (entries, offset) ← parseEntries input kind (loadU16LE input 7).toNat 0 [] 0 9
      ensure (offset = input.length) (.err .trailingBytes)
      return ⟨kind, entries⟩) := by
  have hmagic : contextMagic.length = 5 := rfl
  simp only [parseCanonicalContextImpl]
  rw [ensure_pos (Nat.not_lt.mpr h), Except.ok_bind', bytesAt_of_le (by omega), Except.ok_bind',
    byteAt_of_lt (by omega), Except.ok_bind', byteAt_of_lt (by omega), Except.ok_bind',
    u16At_eq (by omega), hmagic, List.drop_zero]
  rfl

/-- The entries a parser accepts are no more than fit the input. -/
theorem length_le_of_layout {kind : ContextKind} {entries : List ContextEntry} {input : List UInt8}
    (h : input = contextLayout kind entries) : entries.length ≤ (input.length - 9) / 5 := by
  have hfive : 5 * entries.length ≤ (entries.flatMap ContextEntry.bytes).length := by
    clear h
    induction entries with
    | nil => simp
    | cons e entries ih =>
        rw [List.flatMap_cons, List.length_append, C.ContextEntry.length_bytes, List.length_cons]
        omega
  rw [h, C.length_contextLayout]
  omega

/-- The parser accepts the layouts of the canonical contexts within its limit. -/
theorem parseCanonicalContextImpl_eq_ok_iff {input : List UInt8} {maxEntries : Option ℕ}
    {p : ParsedContext} :
    parseCanonicalContextImpl input maxEntries = .ok p ↔
      CanonicalContext p.kind p.entries ∧ input = contextLayout p.kind p.entries ∧
        ∀ limit ∈ maxEntries, p.entries.length ≤ limit := by
  constructor
  · intro hok
    have h : 9 ≤ input.length := by
      by_contra hshort
      rw [parseCanonicalContextImpl, ensure_neg (not_not.mpr (Nat.not_le.mp hshort))] at hok
      cases hok
    rw [parseCanonicalContextImpl_eq h] at hok
    simp only [Except.bind_eq_ok_iff, ensure_eq_ok_iff, exists_const, parseKind_eq_ok_iff] at hok
    obtain ⟨hmagic, hversion, kind, hkind, hlimit, -, ⟨entries, offset⟩, hloop, hend, hret⟩ := hok
    cases hret
    obtain ⟨es, hcount, hes, hafter, hpre, hoffset⟩ :=
      (parseEntries_eq_ok_iff fun _ => rfl).mp hloop
    rw [List.nil_append] at hes
    subst hes
    have hmax : entries.length ≤ 0xFFFF := by
      have hlt := (loadU16LE input 7).toNat_lt
      omega
    have hrest : entries.flatMap ContextEntry.bytes = input.drop 9 := by
      refine hpre.eq_of_length ?_
      rw [List.length_drop]
      omega
    refine ⟨canonicalContext_iff.mpr ⟨hmax, hafter⟩, ?_, ?_⟩
    · exact (context_header_iff h hmax).mpr ⟨hmagic, hversion, hkind, hcount.symm, hrest.symm⟩
    · intro limit hmem
      by_contra hgt
      exact hlimit ⟨limit, hmem, hcount ▸ Nat.not_le.mp hgt⟩
  · rintro ⟨hcan, hinput, hlimit⟩
    obtain ⟨hmax, hafter⟩ := canonicalContext_iff.mp hcan
    have hlen : input.length = _ := congrArg List.length hinput
    rw [C.length_contextLayout] at hlen
    have h : 9 ≤ input.length := by omega
    obtain ⟨hmagic, hversion, hkind, hcount, hrest⟩ := (context_header_iff h hmax).mp hinput
    have hloop : parseEntries input p.kind p.entries.length 0 [] 0 9 =
        .ok (p.entries, input.length) := by
      refine (parseEntries_eq_ok_iff fun _ => rfl).mpr ⟨p.entries, rfl, rfl, hafter, ?_, hlen⟩
      rw [hrest]
    have hnolimit : ¬ ∃ limit ∈ maxEntries, p.entries.length > limit := by
      rintro ⟨limit, hmem, hgt⟩
      exact absurd (hlimit limit hmem) (Nat.not_le.mpr hgt)
    rw [parseCanonicalContextImpl_eq h, hcount, ensure_pos hmagic, ensure_pos hversion,
      Except.ok_bind', Except.ok_bind', parseKind_eq_ok_iff.mpr hkind, Except.ok_bind',
      ensure_pos hnolimit, ensure_pos (Nat.not_lt.mpr (length_le_of_layout hinput)),
      Except.ok_bind', Except.ok_bind', hloop, Except.ok_bind']
    simp only [ensure_pos, Except.ok_bind', Except.pure_eq_ok]

end Rust

/-! ## The parsers in step -/

/-- The error of C for an error of Rust. -/
def Rust.ContextParseError.inC : Rust.ContextParseError → C.ContextParseResult
  | .truncated => .truncated
  | .invalidMagic => .invalidMagic
  | .unsupportedVersion => .unsupportedVersion
  | .unknownKind => .unknownKind
  | .invalidId => .invalidId
  | .nonCanonicalOrder => .nonCanonicalOrder
  | .invalidCriticalId => .invalidCriticalId
  | .nonZeroFlags => .nonzeroFlags
  | .trailingBytes => .trailingBytes
  | .entryLimitExceeded => .entryBufferTooSmall

/-- The parsers stop with corresponding errors. -/
def SameParseHalt : Halt Rust.ContextParseError → Halt C.ContextParseResult → Prop :=
  SameHalt fun e d => d = e.inC

theorem sameParseHalt (e : Rust.ContextParseError) : SameParseHalt (.err e) (.err e.inC) := .err rfl

/-- A step of C with a whole header. -/
theorem C.parseEntry_eq {input : List UInt8} {offset : ℕ} (h : offset + 5 ≤ input.length)
    (kind : ContextKind) (i : ℕ) (previousId : UInt16) :
    C.parseEntry input kind i previousId offset = (do
      checkId kind i previousId (loadU16LE input offset) (.err .invalidId)
        (.err .nonCanonicalOrder) (.err .invalidCriticalId)
      ensure (¬ input.getD (offset + 2) 0 ≠ 0) (.err .nonzeroFlags)
      ensure (¬ (offset + 5 > input.length ∨
        (loadU16LE input (offset + 3)).toNat > input.length - (offset + 5))) (.err .truncated)
      return (C.entryInto input (loadU16LE input offset) (offset + 5) (loadU16LE input (offset + 3)),
        offset + 5 + (loadU16LE input (offset + 3)).toNat)) := by
  have hheader : ¬ (offset > input.length ∨ input.length - offset < 5) := by omega
  simp only [C.parseEntry]
  rw [ensure_pos hheader, Except.ok_bind', u16At_eq (by omega), Except.ok_bind',
    byteAt_of_lt (by omega), Except.ok_bind', u16At_eq (by omega)]
  rfl

/-- A step of C without one. -/
theorem C.parseEntry_of_lt {input : List UInt8} {offset : ℕ} (h : input.length < offset + 5)
    (kind : ContextKind) (i : ℕ) (previousId : UInt16) :
    C.parseEntry input kind i previousId offset = .error (.err .truncated) := by
  have hheader : offset > input.length ∨ input.length - offset < 5 := by omega
  simp only [C.parseEntry]
  rw [ensure_neg (not_not.mpr hheader)]
  rfl

/-- Both steps have the same outcome at every offset. -/
theorem parseEntry_same (input : List UInt8) (kind : ContextKind) (index : ℕ)
    (previousId : UInt16) (offset : ℕ) :
    SameOutcome SameParseHalt (fun r c => r.1 = c.1.toContextEntry ∧ r.2 = c.2)
      (Rust.parseEntry input kind index previousId offset)
      (C.parseEntry input kind index previousId offset) := by
  by_cases h : offset + 5 ≤ input.length
  · rw [Rust.parseEntry_eq h, C.parseEntry_eq h]
    refine .bind (checkId_same (sameParseHalt .invalidId) (sameParseHalt .nonCanonicalOrder)
      (sameParseHalt .invalidCriticalId) kind index previousId _) fun _ _ _ => ?_
    refine .guard not_not.symm (sameParseHalt .nonZeroFlags) fun _ => ?_
    by_cases hvalue : offset + 5 + (loadU16LE input (offset + 3)).toNat ≤ input.length
    · rw [Rust.getRange_of_le (Nat.le_add_right _ _) hvalue, Except.ok_bind', ensure_pos (by omega),
        Nat.add_sub_cancel_left]
      exact .ok ⟨rfl, rfl⟩
    · rw [Rust.getRange_of_lt (Nat.not_le.mp hvalue), ensure_neg (by omega)]
      exact .error (sameParseHalt .truncated)
  · rw [Rust.parseEntry_of_lt (Nat.not_le.mp h), C.parseEntry_of_lt (Nat.not_le.mp h)]
    exact .error (sameParseHalt .truncated)

/-- What C has captured of the entries. -/
def Captured (captureEntries : Bool) (entries : List ContextEntry)
    (entriesOut : List C.ContextEntry) : Prop :=
  C.plainEntries entriesOut = if captureEntries then entries else []

theorem Captured.snoc {captureEntries : Bool} {entries : List ContextEntry}
    {entriesOut : List C.ContextEntry} (h : Captured captureEntries entries entriesOut)
    (e : C.ContextEntry) :
    Captured captureEntries (entries ++ [e.toContextEntry])
      (if captureEntries then entriesOut ++ [e] else entriesOut) := by
  cases captureEntries with
  | false => exact h
  | true =>
      have hplain : C.plainEntries entriesOut = entries := h
      simp only [Captured, if_true, C.plainEntries, List.map_append] at hplain ⊢
      rw [hplain]
      rfl

/-- Both loops have the same outcome. -/
theorem parseEntries_same (input : List UInt8) (kind : ContextKind) (captureEntries : Bool)
    {left index : ℕ} {entries : List ContextEntry} {entriesOut : List C.ContextEntry}
    (hcaptured : Captured captureEntries entries entriesOut) {previousId : UInt16} {offset : ℕ} :
    SameOutcome SameParseHalt
      (fun r c => Captured captureEntries r.1 c.1 ∧ r.1.length = entries.length + left ∧ r.2 = c.2)
      (Rust.parseEntries input kind left index entries previousId offset)
      (C.parseEntries input kind captureEntries left index entriesOut previousId offset) := by
  induction left generalizing index entries entriesOut previousId offset with
  | zero => exact .ok ⟨hcaptured, rfl, rfl⟩
  | succ left ih =>
      rw [Rust.parseEntries, C.parseEntries]
      refine .bind (parseEntry_same input kind index previousId offset) ?_
      rintro ⟨e, next⟩ ⟨f, next'⟩ ⟨he, hnext⟩
      dsimp only at he hnext
      subst he hnext
      refine (ih (hcaptured.snoc f)).mono ?_
      rintro r c ⟨hr, hlen, hoffset⟩
      refine ⟨hr, ?_, hoffset⟩
      rw [hlen, List.length_append, List.length_singleton]
      omega

/-- The kinds are the bytes from one to three. -/
theorem Rust.parseKind_eq (b : UInt8) :
    Rust.parseKind b = (do
      ensure (¬ (b < ContextKind.authorization.toU8 ∨ b > ContextKind.channelBinding.toU8))
        (.err .unknownKind)
      return C.castKind b) := by
  unfold Rust.parseKind C.castKind
  by_cases h1 : b = 1
  · subst h1
    rfl
  by_cases h2 : b = 2
  · subst h2
    rfl
  by_cases h3 : b = 3
  · subst h3
    rfl
  have hout : b < ContextKind.authorization.toU8 ∨ b > ContextKind.channelBinding.toU8 := by
    have h1' : b.toNat ≠ 1 := fun h => h1 (UInt8.toNat_inj.mp h)
    have h2' : b.toNat ≠ 2 := fun h => h2 (UInt8.toNat_inj.mp h)
    have h3' : b.toNat ≠ 3 := fun h => h3 (UInt8.toNat_inj.mp h)
    have hiff : b.toNat < 1 ∨ 3 < b.toNat := by omega
    exact hiff
  rw [if_neg h1, if_neg h2, if_neg h3, ensure_neg (not_not.mpr hout)]
  rfl

/-- A parser of C with a whole header. -/
theorem C.parseImpl_eq {input : List UInt8} (h : 9 ≤ input.length) (entriesCapacity : ℕ)
    (captureEntries : Bool) :
    C.parseImpl input entriesCapacity captureEntries = (do
      ensure (¬ input.take 5 ≠ contextMagic) (.err .invalidMagic)
      ensure (¬ input.getD 5 0 ≠ contextEncodingVersion) (.err .unsupportedVersion)
      ensure (¬ (input.getD 6 0 < ContextKind.authorization.toU8 ∨
        input.getD 6 0 > ContextKind.channelBinding.toU8)) (.err .unknownKind)
      ensure (¬ (loadU16LE input 7).toNat > (input.length - 9) / 5) (.err .truncated)
      ensure (¬ (captureEntries = true ∧ (loadU16LE input 7).toNat > entriesCapacity))
        (.err .entryBufferTooSmall)
      let (entries, offset) ← C.parseEntries input (C.castKind (input.getD 6 0)) captureEntries
        (loadU16LE input 7).toNat 0 [] 0 9
      ensure (¬ offset ≠ input.length) (.err .trailingBytes)
      return ⟨C.castKind (input.getD 6 0), entries, (loadU16LE input 7).toNat⟩) := by
  have hmagic : contextMagic.length = 5 := rfl
  simp only [C.parseImpl]
  rw [ensure_pos (Nat.not_lt.mpr h), Except.ok_bind', bytesAt_of_le (by omega), Except.ok_bind',
    byteAt_of_lt (by omega), Except.ok_bind', byteAt_of_lt (by omega), Except.ok_bind',
    u16At_eq (by omega), hmagic, List.drop_zero]
  rfl

/-- The number of entries that the header declares. -/
def declaredCount (input : List UInt8) : ℕ := (loadU16LE input 7).toNat

/-- The parsers returned the same context. -/
structure SameParsed (captureEntries : Bool) (r : Rust.ParsedContext) (c : C.ParsedContext) :
    Prop where
  kind : r.kind = c.kind
  entries : Captured captureEntries r.entries c.entries
  count : r.entries.length = c.entryCount

/-- What both parsers do after the limits. -/
theorem parse_rest_same (input : List UInt8) (captureEntries : Bool) (kind : ContextKind)
    (count : ℕ) :
    SameOutcome SameParseHalt (SameParsed captureEntries)
      (Rust.parseEntries input kind count 0 [] 0 9 >>= fun r =>
        ensure (r.2 = input.length) (.err .trailingBytes) >>= fun _ => .ok ⟨kind, r.1⟩)
      (C.parseEntries input kind captureEntries count 0 [] 0 9 >>= fun c =>
        ensure (¬ c.2 ≠ input.length) (.err .trailingBytes) >>= fun _ =>
          .ok ⟨kind, c.1, count⟩) := by
  have hnone : Captured captureEntries [] [] := by
    cases captureEntries <;> rfl
  refine .bind (parseEntries_same input kind captureEntries hnone) ?_
  rintro ⟨r, offset⟩ ⟨c, offset'⟩ ⟨hcaptured, hlen, hoffset⟩
  dsimp only at hcaptured hlen hoffset
  subst hoffset
  refine .guard not_not.symm (sameParseHalt .trailingBytes) fun _ => .ok ⟨rfl, hcaptured, ?_⟩
  rw [hlen, List.length_nil, Nat.zero_add]

/-- The fields in front of the declared count are those of a context. -/
structure HeaderOk (input : List UInt8) : Prop where
  whole : 9 ≤ input.length
  magic : input.take 5 = contextMagic
  version : input.getD 5 0 = contextEncodingVersion
  kind : ¬ (input.getD 6 0 < ContextKind.authorization.toU8 ∨
    input.getD 6 0 > ContextKind.channelBinding.toU8)

/-- Both parsers have the same outcome, unless the declared count breaks both limits. -/
theorem parse_same {input : List UInt8} {maxEntries : Option ℕ} {entriesCapacity : ℕ}
    {captureEntries : Bool}
    (hlimit : (∃ limit ∈ maxEntries, declaredCount input > limit) ↔
      captureEntries = true ∧ declaredCount input > entriesCapacity)
    (hone : HeaderOk input → (∃ limit ∈ maxEntries, declaredCount input > limit) →
      ¬ declaredCount input > (input.length - 9) / 5) :
    SameOutcome SameParseHalt (SameParsed captureEntries)
      (Rust.parseCanonicalContextImpl input maxEntries)
      (C.parseImpl input entriesCapacity captureEntries) := by
  by_cases h : input.length < 9
  · rw [Rust.parseCanonicalContextImpl, C.parseImpl, ensure_neg (not_not.mpr h),
      ensure_neg (not_not.mpr h)]
    exact .error (sameParseHalt .truncated)
  rw [Rust.parseCanonicalContextImpl_eq (Nat.not_lt.mp h), C.parseImpl_eq (Nat.not_lt.mp h),
    Rust.parseKind_eq, bind_assoc]
  refine .guard not_not.symm (sameParseHalt .invalidMagic) fun hmagic => ?_
  refine .guard not_not.symm (sameParseHalt .unsupportedVersion) fun hversion => ?_
  refine .guard Iff.rfl (sameParseHalt .unknownKind) fun hkind => ?_
  have hone := hone ⟨Nat.not_lt.mp h, hmagic, hversion, hkind⟩
  rw [pure_bind]
  unfold declaredCount at hlimit hone
  by_cases hstructure : (loadU16LE input 7).toNat > (input.length - 9) / 5
  · have hfew : ¬ ∃ limit ∈ maxEntries, (loadU16LE input 7).toNat > limit := fun hmany =>
      hone hmany hstructure
    rw [ensure_pos hfew, Except.ok_bind', ensure_neg (not_not.mpr hstructure),
      ensure_neg (not_not.mpr hstructure)]
    exact .error (sameParseHalt .truncated)
  · rw [ensure_pos hstructure, ensure_pos hstructure]
    refine .guard hlimit.not (sameParseHalt .entryLimitExceeded) fun _ => ?_
    exact parse_rest_same input captureEntries _ _

/-- Without a limit, both parsers have the same outcome. -/
theorem parse_same_unlimited {input : List UInt8} {entriesCapacity : ℕ} {captureEntries : Bool}
    (hroom : captureEntries = true → declaredCount input ≤ entriesCapacity) :
    SameOutcome SameParseHalt (SameParsed captureEntries)
      (Rust.parseCanonicalContextImpl input none)
      (C.parseImpl input entriesCapacity captureEntries) := by
  refine parse_same ⟨?_, ?_⟩ ?_
  · rintro ⟨limit, hmem, -⟩
    cases hmem
  · rintro ⟨hcapture, hgt⟩
    exact absurd (hroom hcapture) (Nat.not_le.mpr hgt)
  · rintro - ⟨limit, hmem, -⟩
    cases hmem

/-- A count that breaks both limits is reported as the limit that is tested first. -/
theorem parse_both_limits {input : List UInt8} (h : HeaderOk input) {limit : ℕ}
    (hlimit : declaredCount input > limit)
    (hstructure : declaredCount input > (input.length - 9) / 5) :
    Rust.parseCanonicalContextBounded input limit = .error (.err .entryLimitExceeded) ∧
      ∀ captureEntries, C.parseImpl input limit captureEntries = .error (.err .truncated) := by
  unfold declaredCount at hlimit hstructure
  constructor
  · have hmany : ∃ l ∈ some limit, (loadU16LE input 7).toNat > l := ⟨limit, rfl, hlimit⟩
    rw [Rust.parseCanonicalContextBounded, Rust.parseCanonicalContextImpl_eq h.whole,
      ensure_pos h.magic, ensure_pos h.version, Except.ok_bind', Except.ok_bind',
      Rust.parseKind_eq, ensure_pos h.kind, Except.ok_bind', pure_bind,
      ensure_neg (not_not.mpr hmany)]
    rfl
  · intro captureEntries
    rw [C.parseImpl_eq h.whole, ensure_pos (not_not.mpr h.magic),
      ensure_pos (not_not.mpr h.version), Except.ok_bind', Except.ok_bind', ensure_pos h.kind,
      Except.ok_bind', ensure_neg (not_not.mpr hstructure)]
    rfl

/-! ## The codecs -/

/-- The Rust parser inverts the encoder. -/
theorem Rust.context_canonicalCodec :
    CanonicalCodec (fun p : Rust.ParsedContext => Rust.encodeCanonicalContext p.kind p.entries)
      Rust.parseCanonicalContext := by
  intro p b
  rw [Rust.parseCanonicalContext, Rust.parseCanonicalContextImpl_eq_ok_iff,
    Rust.encodeCanonicalContext_eq_ok_iff]
  simp

theorem declaredCount_le (input : List UInt8) : declaredCount input ≤ 0xFFFF :=
  Nat.le_of_lt_succ (UInt16.toNat_lt _)

/-- With room for every entry, both parsers have the same outcome on every input. -/
theorem parse_unbounded_same (input : List UInt8) {entriesCapacity : ℕ}
    (hcapacity : 0xFFFF ≤ entriesCapacity) :
    SameOutcome SameParseHalt (SameParsed true) (Rust.parseCanonicalContext input)
      (C.authV3ContextParseBytes input entriesCapacity) := by
  exact parse_same_unlimited fun _ => le_trans (declaredCount_le input) hcapacity

/-- The parser of C, with room for every entry, accepts the layouts of the canonical contexts. -/
theorem C.authV3ContextParseBytes_eq_ok_iff {input : List UInt8} {entriesCapacity : ℕ}
    (hcapacity : 0xFFFF ≤ entriesCapacity) {p : C.ParsedContext} :
    C.authV3ContextParseBytes input entriesCapacity = .ok p ↔
      CanonicalContext p.kind (C.plainEntries p.entries) ∧
        input = contextLayout p.kind (C.plainEntries p.entries) ∧
        p.entryCount = p.entries.length := by
  have hsame := parse_unbounded_same input hcapacity
  constructor
  · intro hok
    rw [hok] at hsame
    obtain ⟨r, hr, hsame⟩ := hsame.of_ok_right
    obtain ⟨hcan, hinput, -⟩ := Rust.parseCanonicalContextImpl_eq_ok_iff.mp hr
    have hentries : C.plainEntries p.entries = r.entries := hsame.entries
    rw [hentries, ← hsame.kind, ← hsame.count, ← C.length_plainEntries p.entries, hentries]
    exact ⟨hcan, hinput, rfl⟩
  · rintro ⟨hcan, hinput, hcount⟩
    have hr : Rust.parseCanonicalContext input = .ok ⟨p.kind, C.plainEntries p.entries⟩ :=
      Rust.parseCanonicalContextImpl_eq_ok_iff.mpr ⟨hcan, hinput, by simp⟩
    rw [hr] at hsame
    obtain ⟨q, hq, hsame⟩ := hsame.of_ok
    have hentries : C.plainEntries q.entries = C.plainEntries p.entries := hsame.entries
    have hkind : p.kind = q.kind := hsame.kind
    have hlen : (C.plainEntries p.entries).length = q.entryCount := hsame.count
    rw [C.length_plainEntries] at hlen
    rw [hq]
    exact congrArg Except.ok (C.ParsedContext.ext hkind.symm (C.plainEntries_injective hentries)
      (hlen.symm.trans hcount.symm))

/-- Neither parser reads outside its input, whatever its limit. -/
theorem parse_never_outside (input : List UInt8) (i : ℕ) :
    (∀ maxEntries, Rust.parseCanonicalContextImpl input maxEntries ≠ .error (.outside i)) ∧
      ∀ entriesCapacity captureEntries,
        C.parseImpl input entriesCapacity captureEntries ≠ .error (.outside i) := by
  -- without a limit, the parsers are in step with the captures off
  have hnone : ∀ entriesCapacity,
      Rust.parseCanonicalContextImpl input none ≠ .error (.outside i) ∧
        C.parseImpl input entriesCapacity false ≠ .error (.outside i) := by
    intro entriesCapacity
    exact (parse_same_unlimited Bool.noConfusion).not_outside i
  have hsome : ∀ limit, Rust.parseCanonicalContextImpl input (some limit) ≠ .error (.outside i) ∧
      C.parseImpl input limit true ≠ .error (.outside i) := by
    intro limit
    by_cases hboth : HeaderOk input ∧ declaredCount input > limit ∧
        declaredCount input > (input.length - 9) / 5
    · obtain ⟨hheader, hlimit, hstructure⟩ := hboth
      obtain ⟨hr, hc⟩ := parse_both_limits hheader hlimit hstructure
      rw [show Rust.parseCanonicalContextImpl input (some limit) = _ from hr, hc true]
      exact ⟨by simp, by simp⟩
    · refine (parse_same (by simp) ?_).not_outside i
      rintro hheader ⟨_, hmem, hlimit⟩ hstructure
      cases hmem
      exact hboth ⟨hheader, hlimit, hstructure⟩
  constructor
  · rintro (_ | limit)
    · exact (hnone 0).1
    · exact (hsome limit).1
  · rintro entriesCapacity (_ | _)
    · exact (hnone entriesCapacity).2
    · exact (hsome entriesCapacity).2

/-- In both languages the parser inverts the encoder and accepts its image only, and a context has
one encoding.  Both languages write the same encodings, accept the same strings and reject the
others alike, and no parser reads outside its input. -/
theorem context_encoding_canonical :
    CanonicalCodec (fun p : Rust.ParsedContext => Rust.encodeCanonicalContext p.kind p.entries)
        Rust.parseCanonicalContext ∧
      (∀ input, (∃ p, Rust.parseCanonicalContext input = .ok p) ↔
        ∃ kind entries, Rust.encodeCanonicalContext kind entries = .ok input) ∧
      (∀ input input' p, Rust.parseCanonicalContext input = .ok p →
        Rust.parseCanonicalContext input' = .ok p → input = input') ∧
      (∀ entriesCapacity, 0xFFFF ≤ entriesCapacity →
        (∀ kind entries outCapacity b, C.encodeContext kind entries outCapacity = .ok b →
          C.authV3ContextParseBytes b entriesCapacity = .ok ⟨kind, entries, entries.length⟩) ∧
        (∀ input p, C.authV3ContextParseBytes input entriesCapacity = .ok p →
          ∀ outCapacity, input.length ≤ outCapacity →
            C.encodeContext p.kind p.entries outCapacity = .ok input) ∧
        (∀ input, (∃ p, C.authV3ContextParseBytes input entriesCapacity = .ok p) ↔
          ∃ kind entries outCapacity, C.encodeContext kind entries outCapacity = .ok input) ∧
        (∀ input input' p, C.authV3ContextParseBytes input entriesCapacity = .ok p →
          C.authV3ContextParseBytes input' entriesCapacity = .ok p → input = input') ∧
        ∀ input, SameOutcome SameParseHalt (SameParsed true) (Rust.parseCanonicalContext input)
          (C.authV3ContextParseBytes input entriesCapacity)) ∧
      (∀ kind entries outCapacity,
        (contextLayout kind (C.plainEntries entries)).length ≤ outCapacity →
          SameOutcome SameEncodingError Eq
            (Rust.encodeCanonicalContext kind (C.plainEntries entries))
            (C.encodeContext kind entries outCapacity)) ∧
      ∀ input i,
        (∀ maxEntries, Rust.parseCanonicalContextImpl input maxEntries ≠ .error (.outside i)) ∧
          ∀ entriesCapacity captureEntries,
            C.parseImpl input entriesCapacity captureEntries ≠ .error (.outside i) := by
  have hrust := Rust.context_canonicalCodec
  refine ⟨hrust, fun input => ?_, fun _ _ _ => hrust.decode_inj, fun entriesCapacity hcapacity => ?_,
    fun kind entries _ => encode_same kind entries, parse_never_outside⟩
  · rw [hrust.accepts_iff]
    exact ⟨fun ⟨p, hp⟩ => ⟨p.kind, p.entries, hp⟩, fun ⟨kind, entries, h⟩ => ⟨⟨kind, entries⟩, h⟩⟩
  · have hparse : ∀ kind entries outCapacity b, C.encodeContext kind entries outCapacity = .ok b →
        C.authV3ContextParseBytes b entriesCapacity = .ok ⟨kind, entries, entries.length⟩ := by
      intro kind entries outCapacity b hb
      obtain ⟨hcan, hlayout, -⟩ := C.encodeContext_eq_ok_iff.mp hb
      exact (C.authV3ContextParseBytes_eq_ok_iff hcapacity).mpr ⟨hcan, hlayout, rfl⟩
    have hencode : ∀ input p, C.authV3ContextParseBytes input entriesCapacity = .ok p →
        ∀ outCapacity, input.length ≤ outCapacity →
          C.encodeContext p.kind p.entries outCapacity = .ok input := by
      intro input p hp outCapacity hroom
      obtain ⟨hcan, hlayout, -⟩ := (C.authV3ContextParseBytes_eq_ok_iff hcapacity).mp hp
      exact C.encodeContext_eq_ok_iff.mpr ⟨hcan, hlayout, hroom⟩
    refine ⟨hparse, hencode, fun input => ⟨?_, ?_⟩, ?_,
      fun input => parse_unbounded_same input hcapacity⟩
    · rintro ⟨p, hp⟩
      exact ⟨p.kind, p.entries, input.length, hencode input p hp _ le_rfl⟩
    · rintro ⟨kind, entries, outCapacity, hb⟩
      exact ⟨_, hparse kind entries outCapacity input hb⟩
    · intro input input' p hp hp'
      rw [((C.authV3ContextParseBytes_eq_ok_iff hcapacity).mp hp).2.1,
        ((C.authV3ContextParseBytes_eq_ok_iff hcapacity).mp hp').2.1]

/-! ## Hashes of contexts -/

/-- Hashing the bytes of a context parses them first, and both languages agree. -/
theorem hash_bytes_same (sha256 : List UInt8 → Bytes 32) (input : List UInt8) :
    SameOutcome SameParseHalt Eq (Rust.hashCanonicalContextBytes sha256 input)
      (C.authV3ContextHashBytes sha256 input) := by
  have hsame : SameOutcome SameParseHalt (SameParsed false) (Rust.parseCanonicalContext input)
      (C.parseImpl input 0 false) := parse_same_unlimited Bool.noConfusion
  exact hsame.bind fun _ _ _ => .ok rfl

/-- The pieces in which C hashes an entry. -/
def C.ContextEntry.pieces (e : C.ContextEntry) : List (List UInt8) :=
  if e.value.length > 0 then [C.entryHeader e, e.value] else [C.entryHeader e]

theorem C.ContextEntry.flatten_pieces (e : C.ContextEntry) :
    e.pieces.flatten = e.toContextEntry.bytes := by
  rw [pieces, ZkArche.ContextEntry.bytes]
  split
  next => simp [entryHeader]
  next h =>
    have hnil : e.value = [] := List.eq_nil_of_length_eq_zero (by omega)
    simp [entryHeader, hnil]

/-- The hash of a context in pieces is the hash of its encoding. -/
theorem C.authV3ContextHash_eq {sha256 : List UInt8 → Bytes 32} (H : StreamHash sha256)
    (kind : ContextKind) (entries : List C.ContextEntry) :
    C.authV3ContextHash H kind entries =
      C.validateEntries kind entries >>= fun _ =>
        .ok (sha256 (contextLayout kind (C.plainEntries entries))) := by
  have hloop : ∀ state, entries.foldl (fun state entry =>
      let state := H.update state (C.entryHeader entry)
      if entry.value.length > 0 then H.update state entry.value else state) state =
        (entries.flatMap C.ContextEntry.pieces).foldl H.update state := by
    intro state
    induction entries generalizing state with
    | nil => rfl
    | cons e entries ih =>
        rw [List.foldl_cons, ih, List.flatMap_cons, List.foldl_append, C.ContextEntry.pieces]
        split <;> rfl
  have hflatten : (entries.flatMap C.ContextEntry.pieces).flatten =
      (C.plainEntries entries).flatMap ZkArche.ContextEntry.bytes := by
    clear hloop
    induction entries with
    | nil => rfl
    | cons e entries ih =>
        rw [List.flatMap_cons, List.flatten_append, ih, e.flatten_pieces]
        rfl
  have hfinal := H.final_updates
    (C.contextHeader kind entries.length :: entries.flatMap C.ContextEntry.pieces)
  rw [List.foldl_cons, List.flatten_cons, hflatten] at hfinal
  simp only [C.authV3ContextHash, hloop, hfinal, contextLayout, C.length_plainEntries]
  rfl

/-- The capacity that the encoding of these entries takes. -/
def C.contextSize (entries : List C.ContextEntry) : ℕ :=
  9 + (entries.map fun e => 5 + e.value.length).sum

theorem C.contextSize_eq (kind : ContextKind) (entries : List C.ContextEntry) :
    C.contextSize entries = (contextLayout kind (C.plainEntries entries)).length := by
  rw [C.length_contextLayout, C.contextSize, List.length_flatMap, C.plainEntries, List.map_map]
  simp only [Function.comp_def, C.ContextEntry.length_bytes]

/-- With room for the layout the encoder checks the entries and nothing else. -/
theorem C.encodeContext_of_room {kind : ContextKind} {entries : List C.ContextEntry}
    {outCapacity : ℕ} (hroom : C.contextSize entries ≤ outCapacity) :
    C.encodeContext kind entries outCapacity =
      C.validateEntries kind entries >>= fun _ =>
        .ok (contextLayout kind (C.plainEntries entries)) := by
  rw [C.encodeContext_eq]
  cases hneeded : C.validateEntries kind entries with
  | error e => rfl
  | ok needed =>
      obtain ⟨-, hlen⟩ := C.validateEntries_eq_ok_iff.mp hneeded
      rw [← C.contextSize_eq] at hlen
      have hfits : ¬ outCapacity < needed := by omega
      rw [Except.ok_bind', ensure_pos hfits]
      rfl

/-- The hash that C computes in pieces is the hash of what its encoder writes, it fails with the
error of the encoder, and it is the hash of the other two functions. -/
theorem context_hash_streamed {sha256 : List UInt8 → Bytes 32} (H : StreamHash sha256)
    (kind : ContextKind) (entries : List C.ContextEntry) :
    (∀ extra, C.authV3ContextHash H kind entries =
      (C.encodeContext kind entries (C.contextSize entries + extra)).map sha256) ∧
    (∀ outCapacity b, C.encodeContext kind entries outCapacity = .ok b →
      C.contextSize entries ≤ outCapacity ∧
      C.authV3ContextHash H kind entries = .ok (sha256 b) ∧
      C.authV3ContextHashBytes sha256 b = .ok (sha256 b)) ∧
    SameOutcome SameEncodingError Eq
      (Rust.hashCanonicalContext sha256 kind (C.plainEntries entries))
      (C.authV3ContextHash H kind entries) := by
  have hstream : ∀ extra, C.authV3ContextHash H kind entries =
      (C.encodeContext kind entries (C.contextSize entries + extra)).map sha256 := by
    intro extra
    rw [C.authV3ContextHash_eq, C.encodeContext_of_room (Nat.le_add_right _ extra)]
    cases C.validateEntries kind entries <;> rfl
  refine ⟨hstream, ?_, ?_⟩
  · intro outCapacity b hb
    obtain ⟨hcan, hlayout, hroom⟩ := C.encodeContext_eq_ok_iff.mp hb
    rw [hlayout, ← C.contextSize_eq] at hroom
    refine ⟨hroom, ?_, ?_⟩
    · rw [hstream (outCapacity - C.contextSize entries), Nat.add_sub_cancel' hroom, hb]
      rfl
    · have hparse : Rust.parseCanonicalContext b = .ok ⟨kind, C.plainEntries entries⟩ :=
        Rust.parseCanonicalContextImpl_eq_ok_iff.mpr ⟨hcan, hlayout, nofun⟩
      have hsame := hash_bytes_same sha256 b
      rw [Rust.hashCanonicalContextBytes, hparse] at hsame
      obtain ⟨_, hok, rfl⟩ := hsame.of_ok
      exact hok
  · have hsame := encode_same kind entries (C.contextSize_eq kind entries).ge
    rw [hstream 0, Rust.hashCanonicalContext]
    exact hsame.bind fun _ _ h => .ok (congrArg sha256 h)

end ZkArche
