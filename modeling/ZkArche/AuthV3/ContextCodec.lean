import ZkArche.AuthV3.Context
import ZkArche.Wire.HelloCodec
import ZkArche.Lib.Codec

/-!
# One encoding per context

A context is *canonical* when it has at most 65535 entries, their ids grow and are allowed for its
kind, and their values are short.  Both encoders accept the canonical contexts and write the same
bytes for them (`contextLayout`).  On the others they fail for the same reason (`encode_same`).
-/

namespace ZkArche

/-! ## Canonical contexts -/

/-- An id that a context of this kind may have. -/
def ContextKind.Allows (kind : ContextKind) (id : UInt16) : Prop :=
  id ≠ 0 ∧ (kind = .criticalExtensions → id &&& 0x8000 ≠ 0 ∧ id &&& 0x7fff ≠ 0)

/-- A context that has an encoding. -/
structure CanonicalContext (kind : ContextKind) (entries : List ContextEntry) : Prop where
  count : entries.length ≤ 0xFFFF
  increasing : entries.Pairwise fun e f => e.id < f.id
  allowed : ∀ e ∈ entries, kind.Allows e.id
  short : ∀ e ∈ entries, e.value.length ≤ 0xFFFF

/-- The bytes of an entry. -/
def ContextEntry.bytes (e : ContextEntry) : List UInt8 :=
  u16LE e.id ++ ([0] ++ (natLE 2 e.value.length ++ e.value))

/-- The bytes of a context. -/
def contextLayout (kind : ContextKind) (entries : List ContextEntry) : List UInt8 :=
  C.contextHeader kind entries.length ++ entries.flatMap ContextEntry.bytes

/-- The entries may follow one with the id `previous`. -/
def CanonicalAfter (kind : ContextKind) : UInt16 → List ContextEntry → Prop
  | _, [] => True
  | previous, e :: entries =>
      (previous < e.id ∧ kind.Allows e.id) ∧ e.value.length ≤ 0xFFFF ∧
        CanonicalAfter kind e.id entries

theorem canonicalAfter_iff {kind : ContextKind} {previous : UInt16} {entries : List ContextEntry} :
    CanonicalAfter kind previous entries ↔
      (∀ e ∈ entries, previous < e.id ∧ kind.Allows e.id ∧ e.value.length ≤ 0xFFFF) ∧
        entries.Pairwise fun e f => e.id < f.id := by
  induction entries generalizing previous with
  | nil => simp [CanonicalAfter]
  | cons e entries ih =>
      rw [CanonicalAfter, ih, List.pairwise_cons, List.forall_mem_cons]
      constructor
      · rintro ⟨⟨hlt, hallows⟩, hshort, hrest, hpair⟩
        refine ⟨⟨⟨hlt, hallows, hshort⟩, fun f hf => ?_⟩, fun f hf => (hrest f hf).1, hpair⟩
        exact ⟨UInt16.lt_trans hlt (hrest f hf).1, (hrest f hf).2⟩
      · rintro ⟨⟨⟨hlt, hallows, hshort⟩, hrest⟩, hfirst, hpair⟩
        exact ⟨⟨hlt, hallows⟩, hshort, fun f hf => ⟨hfirst f hf, (hrest f hf).2⟩, hpair⟩

/-- A context is canonical when its entries may follow the id zero. -/
theorem canonicalContext_iff {kind : ContextKind} {entries : List ContextEntry} :
    CanonicalContext kind entries ↔ entries.length ≤ 0xFFFF ∧ CanonicalAfter kind 0 entries := by
  rw [canonicalAfter_iff]
  constructor
  · intro h
    refine ⟨h.count, fun e he => ⟨?_, h.allowed e he, h.short e he⟩, h.increasing⟩
    exact UInt16.pos_iff_ne_zero.mpr (h.allowed e he).1
  · rintro ⟨hcount, hall, hpair⟩
    exact ⟨hcount, hpair, fun e he => (hall e he).2.1, fun e he => (hall e he).2.2⟩

/-- The checks on an id, where the first entry is compared with zero. -/
theorem checkId_eq_ok_iff {ε : Type} {kind : ContextKind} {index : ℕ} {previous id : UInt16}
    {a b c : ε} (hfirst : index = 0 → previous = 0) :
    checkId kind index previous id a b c = .ok () ↔ previous < id ∧ kind.Allows id := by
  simp only [checkId, Except.bind_eq_ok_iff, ensure_eq_ok_iff, exists_const, ContextKind.Allows]
  have horder : ¬ (index > 0 ∧ id ≤ previous) ∧ id ≠ 0 ↔ previous < id ∧ id ≠ 0 := by
    rcases Nat.eq_zero_or_pos index with hzero | hpos
    · simp [hzero, hfirst hzero, UInt16.pos_iff_ne_zero]
    · simp [hpos, UInt16.not_le]
  have hcritical : ¬ (kind = .criticalExtensions ∧ (id &&& 0x8000 = 0 ∨ id &&& 0x7fff = 0)) ↔
      (kind = .criticalExtensions → id &&& 0x8000 ≠ 0 ∧ id &&& 0x7fff ≠ 0) := by
    rw [not_and, not_or]
  rw [hcritical]
  tauto

/-! ## The encoders -/

/-- Appending the entries one by one. -/
theorem foldl_entry_bytes (out : List UInt8) (entries : List ContextEntry) :
    entries.foldl (fun out entry =>
      out ++ u16LE entry.id ++ [0] ++ natLE 2 entry.value.length ++ entry.value) out =
      out ++ entries.flatMap ContextEntry.bytes := by
  induction entries generalizing out with
  | nil => simp
  | cons e entries ih =>
      rw [List.foldl_cons, ih, List.flatMap_cons, ContextEntry.bytes]
      simp only [List.append_assoc]

namespace Rust

theorem validateLoop_eq_ok_iff {kind : ContextKind} {index : ℕ} {previous : UInt16}
    {entries : List ContextEntry} (hfirst : index = 0 → previous = 0) :
    validateLoop kind index previous entries = .ok () ↔ CanonicalAfter kind previous entries := by
  induction entries generalizing index previous with
  | nil => simp [validateLoop, CanonicalAfter]
  | cons e entries ih =>
      simp only [validateLoop, Except.bind_eq_ok_iff, ensure_eq_ok_iff, exists_const,
        checkId_eq_ok_iff hfirst, CanonicalAfter]
      rw [ih (fun h => absurd h (Nat.succ_ne_zero index))]

/-- The encoder returns the layout after its checks. -/
theorem encodeCanonicalContext_eq (kind : ContextKind) (entries : List ContextEntry) :
    encodeCanonicalContext kind entries =
      validateEntries kind entries >>= fun _ => .ok (contextLayout kind entries) := by
  have hheader : C.contextHeader kind entries.length =
      contextMagic ++ [contextEncodingVersion] ++ [kind.toU8] ++ natLE 2 entries.length := by
    simp only [C.contextHeader, List.append_assoc, List.cons_append, List.nil_append]
  simp only [encodeCanonicalContext, foldl_entry_bytes, contextLayout, hheader, Except.pure_eq_ok]

/-- The encoder accepts the canonical contexts. -/
theorem encodeCanonicalContext_eq_ok_iff {kind : ContextKind} {entries : List ContextEntry}
    {b : List UInt8} :
    encodeCanonicalContext kind entries = .ok b ↔
      CanonicalContext kind entries ∧ b = contextLayout kind entries := by
  simp only [encodeCanonicalContext_eq, validateEntries, Except.bind_eq_ok_iff, ensure_eq_ok_iff,
    exists_const, validateLoop_eq_ok_iff (fun _ => rfl), canonicalContext_iff, Except.ok.injEq]
  rw [eq_comm]

end Rust

namespace C

/-- The entries as Rust has them. -/
def plainEntries (entries : List ContextEntry) : List ZkArche.ContextEntry :=
  entries.map ContextEntry.toContextEntry

theorem plainEntries_injective : Function.Injective plainEntries := by
  refine List.map_injective_iff.mpr ?_
  rintro ⟨e, _⟩ ⟨f, _⟩ h
  cases h
  rfl

@[simp] theorem length_plainEntries (entries : List ContextEntry) :
    (plainEntries entries).length = entries.length := List.length_map _

theorem ContextEntry.length_bytes (e : ZkArche.ContextEntry) :
    e.bytes.length = 5 + e.value.length := by
  simp only [ZkArche.ContextEntry.bytes, u16LE, List.length_append, natLE_length,
    List.length_singleton]
  omega

/-- The length of the encoding never overflows. -/
theorem validateLoop_eq_ok_iff {kind : ContextKind} {i : ℕ} {previous : UInt16} {total needed : ℕ}
    {entries : List ContextEntry} (hfirst : i = 0 → previous = 0)
    (hfits : total + entries.length * 65540 ≤ sizeMax) :
    validateLoop kind i previous total entries = .ok needed ↔
      CanonicalAfter kind previous (plainEntries entries) ∧
        needed = total + ((plainEntries entries).flatMap ZkArche.ContextEntry.bytes).length := by
  induction entries generalizing i previous total with
  | nil => simp [validateLoop, CanonicalAfter, plainEntries, eq_comm]
  | cons e entries ih =>
      have hshort := e.short
      rw [List.length_cons] at hfits
      have hroom : ¬ total > sizeMax - 5 - e.value.length := by omega
      simp only [validateLoop, Except.bind_eq_ok_iff, ensure_eq_ok_iff, exists_const,
        checkId_eq_ok_iff hfirst, hroom, not_false_eq_true, true_and]
      rw [ih (fun h => absurd h (Nat.succ_ne_zero i)) (by omega)]
      simp only [plainEntries, List.map_cons, CanonicalAfter, List.flatMap_cons,
        List.length_append, ContextEntry.length_bytes, hshort, true_and, and_assoc, Nat.add_assoc]

theorem length_contextLayout (kind : ContextKind) (entries : List ZkArche.ContextEntry) :
    (contextLayout kind entries).length =
      9 + (entries.flatMap ZkArche.ContextEntry.bytes).length := by
  rw [contextLayout, contextHeader, List.length_append, List.length_append, natLE_length]
  rfl

theorem validateEntries_eq_ok_iff {kind : ContextKind} {entries : List ContextEntry}
    {needed : ℕ} :
    validateEntries kind entries = .ok needed ↔
      CanonicalContext kind (plainEntries entries) ∧
        needed = (contextLayout kind (plainEntries entries)).length := by
  rw [canonicalContext_iff, length_plainEntries, length_contextLayout, validateEntries,
    Except.bind_eq_ok_iff]
  simp only [ensure_eq_ok_iff, exists_const, Nat.not_lt, gt_iff_lt, and_assoc]
  refine and_congr_right fun hcount => validateLoop_eq_ok_iff (fun _ => rfl) ?_
  have hmax : sizeMax = 2 ^ 64 - 1 := rfl
  omega

/-- What the caller of `auth_v3_context_encode` has in its buffer. -/
def encodeContext (kind : ContextKind) (entries : List ContextEntry) (outCapacity : ℕ) :
    Except ContextResult (List UInt8) :=
  Output.result ((authV3ContextEncode kind entries outCapacity).exec ⟨[], 0⟩)

/-- The encoder writes the layout after its checks. -/
theorem encodeContext_eq (kind : ContextKind) (entries : List ContextEntry) (outCapacity : ℕ) :
    encodeContext kind entries outCapacity = (do
      let needed ← validateEntries kind entries
      ensure (¬ outCapacity < needed) .bufferTooSmall
      return contextLayout kind (plainEntries entries)) := by
  rw [encodeContext, authV3ContextEncode, Routine.exec_bind, Routine.exec_lift]
  cases hneeded : validateEntries kind entries with
  | error e => rfl
  | ok needed =>
      obtain ⟨-, hlen⟩ := validateEntries_eq_ok_iff.mp hneeded
      simp only [Except.ok_bind']
      rw [Routine.exec_bind, Routine.exec_lift]
      by_cases hroom : ¬ outCapacity < needed
      · rw [ensure_pos hroom]
        have hentry : ∀ e ∈ entries, Output.Fits outCapacity (do
            Output.write (entryHeader e)
            if e.value.length > 0 then Output.write e.value else pure () :
              Routine ContextResult (Output UInt8) Unit) e.toContextEntry.bytes := by
          intro e _
          have hbytes : e.toContextEntry.bytes = entryHeader e ++ e.value := by
            simp only [ZkArche.ContextEntry.bytes, entryHeader, List.append_assoc]
          rw [hbytes]
          refine (Output.Fits.write _).bind ?_
          by_cases hvalue : e.value.length > 0
          · rw [if_pos hvalue]
            exact Output.Fits.write _
          · rw [if_neg hvalue, List.eq_nil_of_length_eq_zero (by omega : e.value.length = 0)]
            exact Output.Fits.pure
        have hlayout : contextLayout kind (plainEntries entries) =
            contextHeader kind entries.length ++
              entries.flatMap fun e => e.toContextEntry.bytes := by
          rw [contextLayout, length_plainEntries, plainEntries, List.flatMap_map]
        have hheader : Output.Fits outCapacity
            (Output.write (contextHeader kind entries.length) :
              Routine ContextResult (Output UInt8) Unit) (contextHeader kind entries.length) :=
          Output.Fits.write _
        have hfits := hheader.bind (Output.Fits.each hentry)
        rw [← hlayout] at hfits
        exact (congrArg Output.result (hfits.report (by omega) 0)).trans (Output.result_ok _)
      · rw [ensure_neg hroom]
        rfl

theorem encodeContext_eq_ok_iff {kind : ContextKind} {entries : List ContextEntry}
    {outCapacity : ℕ} {b : List UInt8} :
    encodeContext kind entries outCapacity = .ok b ↔
      CanonicalContext kind (plainEntries entries) ∧
        b = contextLayout kind (plainEntries entries) ∧ b.length ≤ outCapacity := by
  rw [encodeContext_eq]
  simp only [Except.bind_eq_ok_iff, ensure_eq_ok_iff, exists_const, validateEntries_eq_ok_iff,
    Except.pure_eq_ok, Except.ok.injEq]
  constructor
  · rintro ⟨needed, ⟨hcan, rfl⟩, hroom, rfl⟩
    exact ⟨hcan, rfl, by omega⟩
  · rintro ⟨hcan, rfl, hroom⟩
    exact ⟨_, ⟨hcan, rfl⟩, by omega, rfl⟩

end C

/-- The error of C for an error of Rust.  An entry of C is never too long. -/
inductive SameEncodingError : Rust.ContextEncodingError → C.ContextResult → Prop where
  | invalidId : SameEncodingError .invalidId .invalidId
  | nonCanonicalOrder : SameEncodingError .nonCanonicalOrder .nonCanonicalOrder
  | invalidCriticalId : SameEncodingError .invalidCriticalId .invalidCriticalId
  | tooManyEntries : SameEncodingError .tooManyEntries .invalidArgument

/-- The checks on an id have the same outcome for related errors. -/
theorem checkId_same {ε δ : Type} {E : ε → δ → Prop} {a b c : ε} {a' b' c' : δ} (ha : E a a')
    (hb : E b b') (hc : E c c') (kind : ContextKind) (index : ℕ) (previous id : UInt16) :
    SameOutcome E (fun _ _ => True) (checkId kind index previous id a b c)
      (checkId kind index previous id a' b' c') := by
  refine .guard Iff.rfl ha fun _ => .guard Iff.rfl hb fun _ => ?_
  by_cases hcritical : kind = .criticalExtensions ∧ (id &&& 0x8000 = 0 ∨ id &&& 0x7fff = 0)
  · rw [ensure_neg (not_not.mpr hcritical), ensure_neg (not_not.mpr hcritical)]
    exact .error hc
  · rw [ensure_pos hcritical, ensure_pos hcritical]
    exact .ok trivial

/-- Both validations fail alike. -/
theorem validateLoop_same (kind : ContextKind) {index : ℕ} {previous : UInt16} {total : ℕ}
    {entries : List C.ContextEntry} (hfits : total + entries.length * 65540 ≤ C.sizeMax) :
    SameOutcome SameEncodingError (fun _ _ => True)
      (Rust.validateLoop kind index previous (C.plainEntries entries))
      (C.validateLoop kind index previous total entries) := by
  induction entries generalizing index previous total with
  | nil => exact .ok trivial
  | cons e entries ih =>
      have hshort := e.short
      rw [List.length_cons] at hfits
      have hroom : ¬ total > C.sizeMax - 5 - e.value.length := by omega
      rw [C.plainEntries, List.map_cons, Rust.validateLoop, C.validateLoop]
      refine .bind (checkId_same .invalidId .nonCanonicalOrder .invalidCriticalId kind index
        previous e.id) ?_
      intro _ _ _
      rw [ensure_pos hshort, ensure_pos hroom, Except.ok_bind', Except.ok_bind']
      exact ih (by omega)

/-- With room for the result, both encoders return the same. -/
theorem encode_same (kind : ContextKind) (entries : List C.ContextEntry) {outCapacity : ℕ}
    (hroom : (contextLayout kind (C.plainEntries entries)).length ≤ outCapacity) :
    SameOutcome SameEncodingError Eq
      (Rust.encodeCanonicalContext kind (C.plainEntries entries))
      (C.encodeContext kind entries outCapacity) := by
  have hsame : SameOutcome SameEncodingError (fun _ _ => True)
      (Rust.validateEntries kind (C.plainEntries entries)) (C.validateEntries kind entries) := by
    refine .guard ?_ .tooManyEntries fun hcount => validateLoop_same kind ?_
    · rw [C.length_plainEntries, Nat.not_lt]
    · rw [C.length_plainEntries] at hcount
      have hmax : C.sizeMax = 2 ^ 64 - 1 := rfl
      omega
  rw [Rust.encodeCanonicalContext_eq, C.encodeContext_eq]
  refine (hsame.and_right fun _ hneeded => C.validateEntries_eq_ok_iff.mp hneeded).bind ?_
  rintro _ needed ⟨_, -, rfl⟩
  rw [ensure_pos (Nat.not_lt.mpr hroom)]
  exact .ok rfl

end ZkArche
