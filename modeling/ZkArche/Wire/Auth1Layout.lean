import ZkArche.Wire.Auth1Faults

/-!
# Which AUTH_1 payloads are refused, and for what

The Rust decoder reads the fields of an AUTH_1 one after the other and stops at the first that is
not valid or not there.  `FieldsValid` says that the fields a buffer holds in full are valid.  A
payload with a field that is not valid is refused for a field, and any other for its length
alone (`Rust.decode_outcome`).  The C decoder looks at the length and the branch count
(`C.decode_outcome`).
-/

namespace ZkArche

variable {q : ℕ} {G : Type} [AddCommGroup G] [Module (ZMod q) G]

/-! ## The layout -/

/-- A field of an AUTH_1. -/
inductive Auth1Field where
  | bytes (n : ℕ)
  | point
  | scalar

namespace Auth1Field

/-- The bytes of a field. -/
def size : Auth1Field → ℕ
  | .bytes n => n
  | .point => 32
  | .scalar => 32

/-- A point decodes and is not the identity, and a scalar is canonical. -/
def Valid (S : Suite q G) : (f : Auth1Field) → Bytes f.size → Prop
  | .bytes _, _ => True
  | .point, b => ∃ P, S.decPoint b = some P ∧ P ≠ 0
  | .scalar, b => ∃ x : ZMod q, decScalar b = some x

/-- The bytes of a row of fields. -/
def total (fs : List Auth1Field) : ℕ := (fs.map size).sum

/-- The fields before the branch count. -/
def head : List Auth1Field :=
  [.bytes 32, .point, .scalar, .bytes 32, .point, .point, .point, .scalar]

/-- The fields of `n` branches. -/
def branches : ℕ → List Auth1Field
  | 0 => []
  | n + 1 => .point :: .scalar :: .scalar :: branches n

theorem total_branches (n : ℕ) : total (branches n) = 96 * n := by
  induction n with
  | zero => rfl
  | succ n ih =>
      simp only [total] at ih
      simp only [total, branches, List.map_cons, List.sum_cons, size, ih]
      omega

end Auth1Field

/-- The fields that the buffer holds in full are valid. -/
def FieldsValid (S : Suite q G) : List Auth1Field → List UInt8 → Prop
  | [], _ => True
  | f :: fs, buf => ∀ (b : Bytes f.size) (rest : List UInt8), buf = b.val ++ rest →
      f.Valid S b ∧ FieldsValid S fs rest

/-- The branch count of a payload, which stands after 256 bytes. -/
def branchCount (payload : List UInt8) : ℕ := leNat ((payload.drop 256).take 2)

/-- The length that the branch count asks for. -/
def auth1Length (payload : List UInt8) : ℕ := 258 + 96 * branchCount payload

/-- The fields before the branch count are valid, and so are the branches, if all are there. -/
def Auth1FieldsValid (S : Suite q G) (payload : List UInt8) : Prop :=
  FieldsValid S Auth1Field.head payload ∧
    (auth1Length payload ≤ payload.length →
      FieldsValid S (Auth1Field.branches (branchCount payload)) (payload.drop 258))

theorem branchCount_append {pre : List UInt8} (hpre : pre.length = 256) (nb : Bytes 2)
    (rest : List UInt8) : branchCount (pre ++ (nb.val ++ rest)) = leNat nb.val := by
  rw [branchCount, List.drop_left' hpre, List.take_left' nb.len]

theorem drop_head_append {pre : List UInt8} (hpre : pre.length = 256) (nb : Bytes 2)
    (rest : List UInt8) : (pre ++ (nb.val ++ rest)).drop 258 = rest := by
  rw [← List.append_assoc]
  exact List.drop_left' (by simp [hpre])

/-! ## The C decoder -/

namespace C

variable {α : Type} {K : List UInt8 → Except AuthErr α → Prop} {buf : List UInt8} {k : ℕ}

/-- A computation that splits `k` bytes off a buffer, unless it is shorter, and goes on with the
rest as `K` says. -/
def Skips (K : List UInt8 → Except AuthErr α → Prop) (k : ℕ) (buf : List UInt8)
    (x : Except AuthErr α) : Prop :=
  (buf.length < k ∧ x = .error .payloadTooShort) ∨
    ∃ pre rest, buf = pre ++ rest ∧ pre.length = k ∧ K rest x

theorem Skips.of_done {x : Except AuthErr α} (h : K buf x) : Skips K 0 buf x :=
  .inr ⟨[], buf, rfl, rfl, h⟩

theorem Skips.take {n : ℕ} {f : Bytes n × List UInt8 → Except AuthErr α}
    (hf : ∀ b rest, Skips K k rest (f (b, rest))) :
    Skips K (n + k) buf (takeFixed .payloadTooShort n buf >>= f) := by
  by_cases hn : n ≤ buf.length
  · obtain ⟨b, rest, rfl⟩ : ∃ (b : Bytes n) (rest : List UInt8), buf = b.val ++ rest :=
      ⟨⟨buf.take n, List.length_take_of_le hn⟩, buf.drop n, (List.take_append_drop n buf).symm⟩
    rw [takeFixed_append, Except.ok_bind']
    rcases hf b rest with ⟨hlen, hx⟩ | ⟨pre, rest', rfl, hpre, hk⟩
    · exact .inl ⟨by rw [List.length_append, b.len]; omega, hx⟩
    · refine .inr ⟨b.val ++ pre, rest', (List.append_assoc _ _ _).symm, ?_, hk⟩
      rw [List.length_append, b.len, hpre]
  · refine .inl ⟨by omega, ?_⟩
    rw [takeFixed, dif_neg hn]
    rfl

theorem Skips.branches {n : ℕ} {f : List SetBranch × List UInt8 → Except AuthErr α}
    (hf : ∀ bs rest, K rest (f (bs, rest))) :
    Skips K (96 * n) buf (takeBranches n buf >>= f) := by
  induction n generalizing buf f with
  | zero => exact .of_done (hf [] buf)
  | succ n ih =>
      rw [takeBranches, show 96 * (n + 1) = 32 + (32 + (32 + 96 * n)) by omega]
      simp only [bind_assoc]
      refine .take fun a _ => .take fun c _ => .take fun s _ => ?_
      exact ih fun bs rest => hf (⟨a, c, s⟩ :: bs) rest

/-- Behind the branches, the payload ends or is refused for the bytes that follow. -/
def Ends (rest : List UInt8) (x : Except AuthErr α) : Prop :=
  (rest = [] ∧ ∃ m, x = .ok m) ∨ (rest ≠ [] ∧ x = .error .malformedPacket)

/-- Behind the first fields, the C decoder looks at the branch count and at the length. -/
def Counted (buf : List UInt8) (x : Except AuthErr α) : Prop :=
  (buf.length < 2 ∧ x = .error .payloadTooShort) ∨
    ∃ (nb : Bytes 2) (rest : List UInt8), buf = nb.val ++ rest ∧
      ((maxRoles < leNat nb.val ∧ x = .error .malformedPacket) ∨
        (leNat nb.val ≤ maxRoles ∧ rest.length < 96 * leNat nb.val ∧
          x = .error .payloadTooShort) ∨
        (leNat nb.val ≤ maxRoles ∧ 96 * leNat nb.val < rest.length ∧
          x = .error .malformedPacket) ∨
        (leNat nb.val ≤ maxRoles ∧ rest.length = 96 * leNat nb.val ∧ ∃ m, x = .ok m))

theorem branches_end (message : List SetBranch → α) (n : ℕ) (buf : List UInt8) :
    Skips Ends (96 * n) buf (takeBranches n buf >>= fun r => do
      rejectTrailing r.2
      return message r.1) := by
  refine .branches fun bs rest => ?_
  by_cases hrest : rest = []
  · rw [rejectTrailing, ensure_pos hrest]
    exact .inl ⟨hrest, _, rfl⟩
  · rw [rejectTrailing, ensure_neg hrest]
    exact .inr ⟨hrest, rfl⟩

theorem decode_skips (payload : List UInt8) :
    Skips Counted 256 payload (authAuth1Decode payload) := by
  unfold authAuth1Decode
  refine .take (k := 224) fun pid _ => .take (k := 192) fun ac _ => ?_
  refine .take (k := 160) fun sc _ => .take (k := 128) fun nonceC _ => ?_
  refine .take (k := 96) fun ephC _ => .take (k := 64) fun cPrime _ => ?_
  refine .take (k := 32) fun ra _ => .take (k := 0) fun rs buf => .of_done ?_
  dsimp only
  by_cases hlen : 2 ≤ buf.length
  case neg =>
    rw [takeFixed, dif_neg hlen]
    exact .inl ⟨Nat.lt_of_not_le hlen, rfl⟩
  obtain ⟨nb, rest, rfl⟩ : ∃ (nb : Bytes 2) (rest : List UInt8), buf = nb.val ++ rest :=
    ⟨⟨buf.take 2, List.length_take_of_le hlen⟩, buf.drop 2, (List.take_append_drop 2 buf).symm⟩
  rw [takeFixed_append, Except.ok_bind']
  dsimp only
  refine .inr ⟨nb, rest, rfl, ?_⟩
  by_cases hn : leNat nb.val ≤ maxRoles
  case neg =>
    rw [ensure_neg hn]
    exact .inl ⟨Nat.lt_of_not_le hn, rfl⟩
  rw [ensure_pos hn, Except.ok_bind']
  by_cases hrest : leNat nb.val * 96 ≤ rest.length
  case neg =>
    rw [ensure_neg hrest]
    exact .inr (.inl ⟨hn, by omega, rfl⟩)
  rw [ensure_pos hrest, Except.ok_bind']
  let message : List SetBranch → Auth1 :=
    fun bs => ⟨pid, ⟨ac, sc⟩, nonceC, ephC, cPrime, ⟨ra, rs⟩, bs⟩
  rcases branches_end message (leNat nb.val) rest with
    ⟨hlen, -⟩ | ⟨pre, rest', rfl, hpre, ⟨rfl, hx⟩ | ⟨hne, hx⟩⟩
  · omega
  · exact .inr (.inr (.inr ⟨hn, by simp [hpre], hx⟩))
  · have hpos := List.length_pos_iff.mpr hne
    exact .inr (.inr (.inl ⟨hn, by rw [List.length_append]; omega, hx⟩))

/-- The C decoder refuses a payload for its length or its branch count alone. -/
theorem decode_outcome (payload : List UInt8) :
    (payload.length < 258 ∧ authAuth1Decode payload = .error .payloadTooShort) ∨
    (258 ≤ payload.length ∧ maxRoles < branchCount payload ∧
      authAuth1Decode payload = .error .malformedPacket) ∨
    (258 ≤ payload.length ∧ branchCount payload ≤ maxRoles ∧
      payload.length < auth1Length payload ∧
      authAuth1Decode payload = .error .payloadTooShort) ∨
    (branchCount payload ≤ maxRoles ∧ auth1Length payload < payload.length ∧
      authAuth1Decode payload = .error .malformedPacket) ∨
    (branchCount payload ≤ maxRoles ∧ payload.length = auth1Length payload ∧
      ∃ m, authAuth1Decode payload = .ok m) := by
  rcases decode_skips payload with ⟨hlen, hx⟩ | ⟨pre, buf, rfl, hpre, hcounted⟩
  · exact .inl ⟨by omega, hx⟩
  rcases hcounted with ⟨hlen, hx⟩ | ⟨nb, rest, rfl, hrest⟩
  · exact .inl ⟨by rw [List.length_append]; omega, hx⟩
  have hsize : (pre ++ (nb.val ++ rest)).length = 258 + rest.length := by
    rw [List.length_append, List.length_append, hpre, nb.len]
    omega
  rw [auth1Length, branchCount_append hpre nb rest, hsize]
  rcases hrest with ⟨hn, hx⟩ | ⟨hn, hlen, hx⟩ | ⟨hn, hlen, hx⟩ | ⟨hn, hlen, hx⟩
  · exact .inr (.inl ⟨by omega, hn, hx⟩)
  · exact .inr (.inr (.inl ⟨by omega, hn, by omega, hx⟩))
  · exact .inr (.inr (.inr (.inl ⟨hn, by omega, hx⟩)))
  · exact .inr (.inr (.inr (.inr ⟨hn, by omega, hx⟩)))

end C

/-! ## The Rust decoder -/

namespace Rust

variable [DecidableEq G] {S : Suite q G} {α : Type}

/-- A computation that reads the fields `fs` off the front of a buffer and goes on with the rest
as `K` says. -/
inductive Walk (S : Suite q G) (K : List UInt8 → Except ProtoError α → Prop) :
    List Auth1Field → List UInt8 → Except ProtoError α → Prop
  | done {buf x} : K buf x → Walk S K [] buf x
  | short {f fs buf msg} : buf.length < f.size →
      Walk S K (f :: fs) buf (.error (.wire .payloadTooShort msg))
  | fault {f fs rest e} {b : Bytes f.size} : ¬ f.Valid S b → FieldFault e →
      Walk S K (f :: fs) (b.val ++ rest) (.error e)
  | step {f fs rest x} {b : Bytes f.size} : f.Valid S b → Walk S K fs rest x →
      Walk S K (f :: fs) (b.val ++ rest) x

omit [DecidableEq G] in
/-- A walk ends at a field that is not valid, at the end of the buffer, or behind the fields. -/
theorem Walk.outcome {K : List UInt8 → Except ProtoError α → Prop} {fs : List Auth1Field}
    {buf : List UInt8} {x : Except ProtoError α} (h : Walk S K fs buf x) :
    (¬ FieldsValid S fs buf ∧ ∃ e, x = .error e ∧ FieldFault e) ∨
    (FieldsValid S fs buf ∧ buf.length < Auth1Field.total fs ∧
      ∃ msg, x = .error (.wire .payloadTooShort msg)) ∨
    (FieldsValid S fs buf ∧ ∃ pre rest, buf = pre ++ rest ∧
      pre.length = Auth1Field.total fs ∧ K rest x) := by
  induction h with
  | @done buf x hk => exact .inr (.inr ⟨trivial, [], buf, rfl, rfl, hk⟩)
  | @short f fs buf msg hlen =>
      refine .inr (.inl ⟨?_, ?_, msg, rfl⟩)
      · rintro b rest rfl
        rw [List.length_append, b.len] at hlen
        omega
      · simp only [Auth1Field.total, List.map_cons, List.sum_cons]
        omega
  | @fault f fs rest e b hb he => exact .inl ⟨fun h => hb (h b rest rfl).1, e, rfl, he⟩
  | @step f fs rest x b hb _ ih =>
      have hvalid : FieldsValid S (f :: fs) (b.val ++ rest) ↔ FieldsValid S fs rest := by
        constructor
        · exact fun h => (h b rest rfl).2
        · intro h b' rest' heq
          obtain ⟨hval, hrest⟩ := List.append_inj heq (b.len.trans b'.len.symm)
          obtain rfl : b = b' := Bytes.ext hval
          subst hrest
          exact ⟨hb, h⟩
      have htotal : Auth1Field.total (f :: fs) = f.size + Auth1Field.total fs := by
        simp [Auth1Field.total]
      rw [hvalid, htotal, List.length_append, b.len]
      rcases ih with h | ⟨hfs, hlen, hx⟩ | ⟨hfs, pre, rest', rfl, hpre, hk⟩
      · exact .inl h
      · exact .inr (.inl ⟨hfs, by omega, hx⟩)
      · refine .inr (.inr ⟨hfs, b.val ++ pre, rest', (List.append_assoc _ _ _).symm, ?_, hk⟩)
        rw [List.length_append, b.len, hpre]

section Rules

variable {K : List UInt8 → Except ProtoError α → Prop} {fs : List Auth1Field}
  {buf : List UInt8}

omit [DecidableEq G] in
/-- A field is not there, or it is split off. -/
theorem Walk.takeBytes (field : Auth1Field)
    {f : Bytes field.size × List UInt8 → Except ProtoError α}
    (hf : ∀ b rest, Walk S K (field :: fs) (b.val ++ rest) (f (b, rest))) :
    Walk S K (field :: fs) buf (takeBytes field.size buf >>= f) := by
  cases ht : Rust.takeBytes field.size buf with
  | error e =>
      unfold Rust.takeBytes takeFixed at ht
      split at ht
      next => cases ht
      next hlen =>
        cases ht
        exact .short (Nat.lt_of_not_le hlen)
  | ok r =>
      obtain ⟨b, rest⟩ := r
      obtain rfl := takeBytes_eq_ok_iff.mp ht
      exact hf b rest

omit [DecidableEq G] in
theorem Walk.bytes {n : ℕ} {f : Bytes n × List UInt8 → Except ProtoError α}
    (hf : ∀ b rest, Walk S K fs rest (f (b, rest))) :
    Walk S K (.bytes n :: fs) buf (Rust.takeBytes n buf >>= f) :=
  .takeBytes (.bytes n) fun b rest => .step (f := .bytes n) trivial (hf b rest)

theorem Walk.point {what : String} {f : G × List UInt8 → Except ProtoError α}
    (hf : ∀ P rest, Walk S K fs rest (f (P, rest))) :
    Walk S K (.point :: fs) buf (takePoint S buf what >>= f) := by
  rw [takePoint, bind_assoc]
  refine .takeBytes .point fun b rest => ?_
  dsimp only
  cases hd : decompressPoint S b what with
  | error e =>
      refine .fault (f := .point) ?_ (decompressPoint_fails b what e hd)
      rintro ⟨P, hP, hne⟩
      rw [decompressPoint_eq_ok_iff.mpr ⟨(S.decPoint_eq_some_iff b P).mp hP, hne⟩] at hd
      cases hd
  | ok P =>
      obtain ⟨hP, hne⟩ := decompressPoint_eq_ok_iff.mp hd
      exact .step (f := .point) ⟨P, (S.decPoint_eq_some_iff b P).mpr hP, hne⟩ (hf P rest)

omit [DecidableEq G] in
theorem Walk.scalar {what : String} {f : ZMod q × List UInt8 → Except ProtoError α}
    (hf : ∀ x rest, Walk S K fs rest (f (x, rest))) :
    Walk S K (.scalar :: fs) buf (takeScalar q buf what >>= f) := by
  rw [takeScalar, bind_assoc]
  refine .takeBytes .scalar fun b rest => ?_
  dsimp only
  cases hd : decodeScalar q b what with
  | error e =>
      refine .fault (f := .scalar) ?_ (decodeScalar_fails b what e hd)
      rintro ⟨x, hx⟩
      rw [decodeScalar_eq_ok_iff.mpr hx] at hd
      cases hd
  | ok x => exact .step (f := .scalar) ⟨x, decodeScalar_eq_ok_iff.mp hd⟩ (hf x rest)

theorem Walk.branches {n : ℕ} {f : List (SetBranch q G) × List UInt8 → Except ProtoError α}
    (hf : ∀ bs rest, K rest (f (bs, rest))) :
    Walk S K (Auth1Field.branches n) buf (takeBranches S n buf >>= f) := by
  induction n generalizing buf f with
  | zero => exact .done (hf [] buf)
  | succ n ih =>
      rw [takeBranches]
      simp only [bind_assoc]
      refine .point fun a _ => .scalar fun c _ => .scalar fun s _ => ih fun bs rest => ?_
      exact hf (⟨a, c, s⟩ :: bs) rest

end Rules

/-- Behind the branches, the payload ends or is refused for the bytes that follow. -/
def Ends (rest : List UInt8) (x : Except ProtoError α) : Prop :=
  (rest = [] ∧ ∃ a, x = .ok a) ∨
    (rest ≠ [] ∧ ∃ msg, x = .error (.wire .malformedPacket msg))

/-- Behind the first fields, the branch count or a branch is missing, or the branches are read. -/
def Counted (S : Suite q G) (buf : List UInt8) (x : Except ProtoError α) : Prop :=
  (buf.length < 2 ∧ ∃ msg, x = .error (.wire .payloadTooShort msg)) ∨
    ∃ (nb : Bytes 2) (rest : List UInt8), buf = nb.val ++ rest ∧
      ((rest.length < 96 * leNat nb.val ∧ ∃ msg, x = .error (.wire .payloadTooShort msg)) ∨
        (96 * leNat nb.val ≤ rest.length ∧
          Walk S Ends (Auth1Field.branches (leNat nb.val)) rest x))

theorem decode_walk (payload : List UInt8) :
    Walk S (Counted S) Auth1Field.head payload (Auth1.decode (q := q) S payload) := by
  unfold Auth1.decode
  refine .bytes fun _ _ => .point fun _ _ => .scalar fun _ _ => .bytes fun _ _ => ?_
  refine .point fun _ _ => .point fun _ _ => .point fun _ _ => .scalar fun _ buf => .done ?_
  dsimp only
  cases ht : takeFixed (ProtoError.wire .payloadTooShort "branch count missing") 2 buf with
  | error e =>
      unfold takeFixed at ht
      split at ht
      next => cases ht
      next hlen =>
        cases ht
        exact .inl ⟨Nat.lt_of_not_le hlen, _, rfl⟩
  | ok r =>
      obtain ⟨nb, rest⟩ := r
      refine .inr ⟨nb, rest, takeFixed_eq_ok_iff.mp ht, ?_⟩
      rw [Except.ok_bind']
      dsimp only
      by_cases hn : 96 * leNat nb.val ≤ rest.length
      · rw [ensure_pos hn, Except.ok_bind']
        refine .inr ⟨hn, .branches fun bs rest => ?_⟩
        dsimp only
        by_cases hrest : rest = []
        · rw [rejectTrailing, ensure_pos hrest]
          exact .inl ⟨hrest, _, rfl⟩
        · rw [rejectTrailing, ensure_neg hrest]
          exact .inr ⟨hrest, _, rfl⟩
      · rw [ensure_neg hn]
        exact .inl ⟨Nat.lt_of_not_le hn, _, rfl⟩

/-- The Rust decoder refuses a payload for a field, or, when every field it reads is valid, for
its length alone. -/
theorem decode_outcome (S : Suite q G) (payload : List UInt8) :
    (¬ Auth1FieldsValid S payload ∧
      ∃ e, Auth1.decode (q := q) S payload = .error e ∧ FieldFault e) ∨
    (Auth1FieldsValid S payload ∧ payload.length < auth1Length payload ∧
      ∃ msg, Auth1.decode (q := q) S payload = .error (.wire .payloadTooShort msg)) ∨
    (Auth1FieldsValid S payload ∧ auth1Length payload < payload.length ∧
      ∃ msg, Auth1.decode (q := q) S payload = .error (.wire .malformedPacket msg)) ∨
    (Auth1FieldsValid S payload ∧ payload.length = auth1Length payload ∧
      ∃ a1, Auth1.decode (q := q) S payload = .ok a1) := by
  rcases (decode_walk (S := S) payload).outcome with
    ⟨hbad, hx⟩ | ⟨hhead, hlen, hx⟩ | ⟨hhead, pre, buf, rfl, hpre, hcounted⟩
  · exact .inl ⟨fun h => hbad h.1, hx⟩
  · -- the payload ends before the branch count
    have hshort : payload.length < auth1Length payload := by
      have htotal : Auth1Field.total Auth1Field.head = 256 := rfl
      unfold auth1Length
      omega
    exact .inr (.inl ⟨⟨hhead, fun h => absurd h (Nat.not_le_of_lt hshort)⟩, hshort, hx⟩)
  replace hpre : pre.length = 256 := hpre
  rcases hcounted with ⟨hlen, hx⟩ | ⟨nb, rest, rfl, hrest⟩
  · have hshort : (pre ++ buf).length < auth1Length (pre ++ buf) := by
      rw [List.length_append, hpre, auth1Length]
      omega
    exact .inr (.inl ⟨⟨hhead, fun h => absurd h (Nat.not_le_of_lt hshort)⟩, hshort, hx⟩)
  have hcount := branchCount_append hpre nb rest
  have hdrop := drop_head_append hpre nb rest
  have hlength : auth1Length (pre ++ (nb.val ++ rest)) = 258 + 96 * leNat nb.val := by
    rw [auth1Length, hcount]
  have hsize : (pre ++ (nb.val ++ rest)).length = 258 + rest.length := by
    rw [List.length_append, List.length_append, hpre, nb.len]
    omega
  unfold Auth1FieldsValid
  rw [hlength, hsize, hcount, hdrop]
  rcases hrest with ⟨hlen, hx⟩ | ⟨hlen, hwalk⟩
  · exact .inr (.inl ⟨⟨hhead, fun h => by omega⟩, by omega, hx⟩)
  rcases hwalk.outcome with ⟨hbad, hx⟩ | ⟨-, hlen', -⟩ | ⟨hbs, pre', rest', rfl, hpre', hends⟩
  · exact .inl ⟨fun h => hbad (h.2 (by omega)), hx⟩
  · rw [Auth1Field.total_branches] at hlen'
    omega
  rw [Auth1Field.total_branches] at hpre'
  rw [List.length_append, hpre']
  rcases hends with ⟨rfl, hx⟩ | ⟨hne, hx⟩
  · exact .inr (.inr (.inr ⟨⟨hhead, fun _ => hbs⟩, rfl, hx⟩))
  · have hpos := List.length_pos_iff.mpr hne
    exact .inr (.inr (.inl ⟨⟨hhead, fun _ => hbs⟩, by omega, hx⟩))

end Rust

end ZkArche
