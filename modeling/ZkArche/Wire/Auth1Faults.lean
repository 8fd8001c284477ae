import ZkArche.Lib.Faults
import ZkArche.Wire.PayloadsRust

/-!
# How an AUTH_1 payload is refused

The C decoder checks the layout of an AUTH_1.  The Rust decoder reads the same layout and
validates every field on the way.  On a payload that has the layout, all it can find wrong is a
field (`decode_fieldFault`), and when the points decode, only the identity or a scalar that is
not canonical (`decode_valueFault`).
-/

namespace ZkArche

namespace C

/-- What is wrong with a layout. -/
def LayoutFault (e : AuthErr) : Prop := e = .payloadTooShort ∨ e = .malformedPacket

theorem takeBranches_fails (n : ℕ) (buf : List UInt8) :
    FailsWith LayoutFault (takeBranches n buf) := by
  have htake : ∀ buf, FailsWith LayoutFault (take32 buf) := .of_takeFixed (.inl rfl) 32
  induction n generalizing buf with
  | zero => exact .ok _
  | succ n ih =>
      unfold takeBranches
      refine .bind (htake _) fun _ _ => .bind (htake _) fun _ _ => .bind (htake _) fun _ _ => ?_
      exact .bind (ih _) fun _ _ => .ok _

theorem authAuth1Decode_fails (buf : List UInt8) :
    FailsWith LayoutFault (authAuth1Decode buf) := by
  have htake : ∀ buf, FailsWith LayoutFault (take32 buf) := .of_takeFixed (.inl rfl) 32
  unfold authAuth1Decode
  refine .bind (htake _) fun _ _ => .bind (htake _) fun _ _ => .bind (htake _) fun _ _ => ?_
  refine .bind (htake _) fun _ _ => .bind (htake _) fun _ _ => .bind (htake _) fun _ _ => ?_
  refine .bind (htake _) fun _ _ => .bind (htake _) fun _ _ => ?_
  refine .bind (.of_takeFixed (.inl rfl) 2 _) fun _ _ => ?_
  refine .bind (.of_ensure fun _ => .inr rfl) fun _ _ => ?_
  refine .bind (.of_ensure fun _ => .inl rfl) fun _ _ => ?_
  refine .bind (takeBranches_fails _ _) fun _ _ => ?_
  exact .bind (.of_ensure fun _ => .inr rfl) fun _ _ => .ok _

end C

namespace Rust

variable {q : ℕ} {G : Type} [AddCommGroup G] [Module (ZMod q) G] {S : Suite q G}
  [DecidableEq G]

/-! ## Every payload -/

/-- What is wrong with a field: a point that does not decode, the identity, a scalar that is
not canonical. -/
def FieldFault (e : ProtoError) : Prop :=
  ∃ c ∈ [ErrorCode.invalidPoint, .identityPoint, .nonCanonicalScalar], ∃ msg, e = .wire c msg

/-- What is wrong with a payload: its layout or a field. -/
def PayloadFault (e : ProtoError) : Prop :=
  (∃ msg, e = .wire .payloadTooShort msg) ∨ (∃ msg, e = .wire .malformedPacket msg) ∨
    FieldFault e

theorem decompressPoint_fails (b : Bytes 32) (what : String) :
    FailsWith FieldFault (decompressPoint S b what) := by
  unfold decompressPoint
  cases S.decPoint b with
  | none => exact .error ⟨.invalidPoint, by decide, _, rfl⟩
  | some P =>
      refine .bind (.of_ensure fun _ => ⟨.identityPoint, by decide, _, rfl⟩) fun _ _ => ?_
      exact .ok P

omit [AddCommGroup G] [Module (ZMod q) G] [DecidableEq G] in
theorem decodeScalar_fails (b : Bytes 32) (what : String) :
    FailsWith FieldFault (decodeScalar q b what) := by
  unfold decodeScalar
  cases (decScalar b : Option (ZMod q)) with
  | none => exact .error ⟨.nonCanonicalScalar, by decide, _, rfl⟩
  | some x => exact .ok x

theorem takePoint_fails (buf : List UInt8) (what : String) :
    FailsWith PayloadFault (takePoint S buf what) := by
  unfold takePoint
  refine .bind (.of_takeFixed (.inl ⟨_, rfl⟩) 32 _) fun b _ => .bind ?_ fun _ _ => .ok _
  exact fun e he => .inr (.inr (decompressPoint_fails b.1 what e he))

omit [AddCommGroup G] [Module (ZMod q) G] [DecidableEq G] in
theorem takeScalar_fails (buf : List UInt8) (what : String) :
    FailsWith PayloadFault (takeScalar q buf what) := by
  unfold takeScalar
  refine .bind (.of_takeFixed (.inl ⟨_, rfl⟩) 32 _) fun b _ => .bind ?_ fun _ _ => .ok _
  exact fun e he => .inr (.inr (decodeScalar_fails b.1 what e he))

theorem takeBranches_fails (n : ℕ) (buf : List UInt8) :
    FailsWith PayloadFault (takeBranches (q := q) S n buf) := by
  induction n generalizing buf with
  | zero => exact .ok _
  | succ n ih =>
      unfold takeBranches
      refine .bind (takePoint_fails _ _) fun _ _ => .bind (takeScalar_fails _ _) fun _ _ => ?_
      exact .bind (takeScalar_fails _ _) fun _ _ => .bind (ih _) fun _ _ => .ok _

/-- A refused payload is at fault in its layout or in a field. -/
theorem decode_payloadFault (buf : List UInt8) :
    FailsWith PayloadFault (Auth1.decode (q := q) S buf) := by
  have hbytes : ∀ n buf, FailsWith PayloadFault (takeBytes n buf) :=
    fun n => .of_takeFixed (.inl ⟨_, rfl⟩) n
  unfold Auth1.decode
  refine .bind (hbytes _ _) fun _ _ => .bind (takePoint_fails _ _) fun _ _ => ?_
  refine .bind (takeScalar_fails _ _) fun _ _ => .bind (hbytes _ _) fun _ _ => ?_
  refine .bind (takePoint_fails _ _) fun _ _ => .bind (takePoint_fails _ _) fun _ _ => ?_
  refine .bind (takePoint_fails _ _) fun _ _ => .bind (takeScalar_fails _ _) fun _ _ => ?_
  refine .bind (.of_takeFixed (.inl ⟨_, rfl⟩) 2 _) fun _ _ => ?_
  refine .bind (.of_ensure fun _ => .inl ⟨_, rfl⟩) fun _ _ => ?_
  refine .bind (takeBranches_fails _ _) fun _ _ => ?_
  exact .bind (.of_ensure fun _ => .inr (.inl ⟨_, rfl⟩)) fun _ _ => .ok _

/-! ## Payloads with the layout -/

section Layout

variable {Q : ProtoError → Prop} {β : Type} {rest : List UInt8}

theorem takeBytes_rule {n : ℕ} {b : Bytes n} {f : Bytes n × List UInt8 → Except ProtoError β}
    (hf : FailsWith Q (f (b, rest))) : FailsWith Q (takeBytes n (b.val ++ rest) >>= f) := by
  rw [takeBytes, takeFixed_append, Except.ok_bind']
  exact hf

theorem takePoint_rule {b : Bytes 32} {what : String}
    {f : G × List UInt8 → Except ProtoError β}
    (hb : FailsWith Q (decompressPoint S b what)) (hf : ∀ X, FailsWith Q (f (X, rest))) :
    FailsWith Q (takePoint S (b.val ++ rest) what >>= f) := by
  rw [takePoint, takeBytes, takeFixed_append, Except.ok_bind']
  dsimp only
  cases hd : decompressPoint S b what with
  | error e => exact .error (hb e hd)
  | ok X => exact hf X

omit [AddCommGroup G] [Module (ZMod q) G] [DecidableEq G] in
theorem takeScalar_rule {b : Bytes 32} {what : String}
    {f : ZMod q × List UInt8 → Except ProtoError β}
    (hb : FailsWith Q (decodeScalar q b what)) (hf : ∀ x, FailsWith Q (f (x, rest))) :
    FailsWith Q (takeScalar q (b.val ++ rest) what >>= f) := by
  rw [takeScalar, takeBytes, takeFixed_append, Except.ok_bind']
  dsimp only
  cases hd : decodeScalar q b what with
  | error e => exact .error (hb e hd)
  | ok x => exact hf x

/-- The branch loop on a layout: a branch is at fault, or the loop stops after the branches. -/
theorem takeBranches_rule {bs : List C.SetBranch}
    {f : List (SetBranch q G) × List UInt8 → Except ProtoError β}
    (hp : ∀ b ∈ bs, ∀ what, FailsWith Q (decompressPoint S b.a what))
    (hs : ∀ b ∈ bs, ∀ what, FailsWith Q (decodeScalar q b.c what) ∧
      FailsWith Q (decodeScalar q b.s what))
    (hf : ∀ xs, FailsWith Q (f (xs, rest))) :
    FailsWith Q (takeBranches S bs.length (bs.flatMap C.SetBranch.bytes ++ rest) >>= f) := by
  induction bs generalizing f with
  | nil => exact hf []
  | cons b bs ih =>
      have hhead := List.mem_cons_self (a := b) (l := bs)
      rw [List.length_cons, takeBranches, List.flatMap_cons, C.SetBranch.bytes]
      simp only [List.append_assoc, bind_assoc]
      refine takePoint_rule (hp b hhead _) fun a => ?_
      refine takeScalar_rule (hs b hhead _).1 fun c => takeScalar_rule (hs b hhead _).2 fun s => ?_
      refine ih (fun b' hb => hp b' (List.mem_cons_of_mem b hb))
        (fun b' hb => hs b' (List.mem_cons_of_mem b hb)) fun xs => ?_
      exact hf (⟨a, c, s⟩ :: xs)

/-- On a payload with the layout, the Rust decoder fails with what a field fails with. -/
theorem decode_layout_fails {m : C.Auth1} (hcount : m.branches.length < 256 ^ 2)
    (hp : ∀ p ∈ m.carried.keys ++ m.carried.points, ∀ what,
      FailsWith Q (decompressPoint S p what))
    (hs : ∀ s ∈ m.carried.scalars, ∀ what, FailsWith Q (decodeScalar q s what)) :
    FailsWith Q (Auth1.decode (q := q) S m.bytes) := by
  have hlen : leNat (natLE 2 m.branches.length) = m.branches.length := leNat_natLE hcount
  have hnb : takeFixed (ProtoError.wire .payloadTooShort "branch count missing") 2
      (natLE 2 m.branches.length ++ m.branches.flatMap C.SetBranch.bytes)
      = .ok (⟨natLE 2 m.branches.length, natLE_length _ _⟩,
          m.branches.flatMap C.SetBranch.bytes) := takeFixed_eq_ok_iff.mpr rfl
  unfold Auth1.decode C.Auth1.bytes
  refine takeBytes_rule (takePoint_rule (hp _ (by simp [C.Auth1.carried]) _) fun _ => ?_)
  refine takeScalar_rule (hs _ (by simp [C.Auth1.carried]) _) fun _ => takeBytes_rule ?_
  refine takePoint_rule (hp _ (by simp [C.Auth1.carried]) _) fun _ => ?_
  refine takePoint_rule (hp _ (by simp [C.Auth1.carried]) _) fun _ => ?_
  refine takePoint_rule (hp _ (by simp [C.Auth1.carried]) _) fun _ => ?_
  refine takeScalar_rule (hs _ (by simp [C.Auth1.carried]) _) fun _ => ?_
  dsimp only
  rw [hnb, Except.ok_bind']
  dsimp only
  rw [hlen, ensure_pos (by rw [C.branches_bytes_length]), Except.ok_bind']
  rw [← List.append_nil (m.branches.flatMap C.SetBranch.bytes)]
  refine takeBranches_rule (fun b hb => hp b.a ?_)
    (fun b hb what => ⟨hs b.c ?_ what, hs b.s ?_ what⟩) fun xs => ?_
  · exact List.mem_append_right _ (List.mem_append_right _ (List.mem_map_of_mem hb))
  · exact List.mem_append_left _ (List.mem_append_right _ (List.mem_map_of_mem hb))
  · exact List.mem_append_right _ (List.mem_map_of_mem hb)
  · rw [rejectTrailing, ensure_pos rfl]
    exact .ok _

end Layout

/-- What is wrong with a message whose points all decode. -/
def ValueFault (e : ProtoError) : Prop :=
  ∃ c ∈ [ErrorCode.identityPoint, .nonCanonicalScalar], ∃ msg, e = .wire c msg

theorem decompressPoint_valueFault {b : Bytes 32} {P : G} (h : S.decPoint b = some P)
    (what : String) : FailsWith ValueFault (decompressPoint S b what) := by
  unfold decompressPoint
  rw [h]
  refine .bind (.of_ensure fun _ => ⟨.identityPoint, by decide, _, rfl⟩) fun _ _ => ?_
  exact .ok P

omit [AddCommGroup G] [Module (ZMod q) G] [DecidableEq G] in
theorem decodeScalar_valueFault (b : Bytes 32) (what : String) :
    FailsWith ValueFault (decodeScalar q b what) := by
  unfold decodeScalar
  cases (decScalar b : Option (ZMod q)) with
  | none => exact .error ⟨.nonCanonicalScalar, by decide, _, rfl⟩
  | some x => exact .ok x

/-- All that can be wrong with a payload that has the layout is a field. -/
theorem decode_fieldFault {m : C.Auth1} (hcount : m.branches.length < 256 ^ 2) :
    FailsWith FieldFault (Auth1.decode (q := q) S m.bytes) :=
  decode_layout_fails hcount (fun p _ => decompressPoint_fails p) fun s _ => decodeScalar_fails s

/-- All that can be wrong with a payload that has the layout and valid points is the identity or
a scalar. -/
theorem decode_valueFault {m : C.Auth1} (hcount : m.branches.length < 256 ^ 2)
    (hp : ∀ p ∈ m.carried.keys ++ m.carried.points, ∃ P, S.decPoint p = some P) :
    FailsWith ValueFault (Auth1.decode (q := q) S m.bytes) := by
  refine decode_layout_fails hcount (fun p hm => ?_) fun s _ => decodeScalar_valueFault s
  obtain ⟨P, hP⟩ := hp p hm
  exact decompressPoint_valueFault hP

end Rust

end ZkArche
