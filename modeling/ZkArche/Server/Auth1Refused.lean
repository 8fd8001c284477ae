import ZkArche.Server.CandidatesC
import ZkArche.Server.DispatchRust
import ZkArche.Wire.Auth1Layout

/-!
# The AUTH_1 payloads that both servers refuse before the registry

Before it looks at a registry record, the C server decodes the payload, looks for its replay key
and checks the points `eph_c` and `c_prime`, where the identity passes for `c_prime`.  The Rust
server validates every field while it decodes, and then looks for the replay key.
`RefusedAlike` lists the payloads that both refuse for the same reason: the layout, with no field
that Rust refuses first, a replay, with no field that Rust refuses, or a point that both refuse.
On these, and on no others, the codes of the two refusals are the same (`refusedAlike_iff`).
-/

namespace ZkArche

variable {q : ℕ} {G : Type} [AddCommGroup G] [Module (ZMod q) G]

/-! ## The checks before the registry -/

namespace Rust

variable [DecidableEq G]

/-- The checks of an AUTH_1 before the registry. -/
def precheck (S : Suite q G) (replay : MemoryReplayCache) (payload : List UInt8) :
    Except ProtoError (Auth1 q G) := do
  let a1 ← Auth1.decode S payload
  ensure (replay.contains (replayKey S a1.pid a1.nonceC a1.ephC) = false)
    (.wire .replayDetected "AUTH_1 replay")
  return a1

/-- The code of the ERROR packet for an error. -/
def errorCode (e : ProtoError) : ℕ := (wireCodeAndMsg e).1.asU16

omit [AddCommGroup G] [DecidableEq G] in
@[simp] theorem errorCode_wire (c : ErrorCode) (msg : String) :
    errorCode (.wire c msg) = c.asU16 := rfl

variable {S : Suite q G} {replay : MemoryReplayCache} {payload : List UInt8}

theorem precheck_eq_ok_iff {a1 : Auth1 q G} :
    precheck S replay payload = .ok a1 ↔ Auth1.decode S payload = .ok a1 ∧
      replay.contains (replayKey S a1.pid a1.nonceC a1.ephC) = false := by
  simp only [precheck, Except.bind_eq_ok_iff, ensure_eq_ok_iff, exists_const, Except.pure_eq_ok,
    Except.ok.injEq]
  constructor
  · rintro ⟨m, hd, hk, rfl⟩
    exact ⟨hd, hk⟩
  · rintro ⟨hd, hk⟩
    exact ⟨a1, hd, hk, rfl⟩

/-- What the checks before the registry can find. -/
theorem precheck_fails (replay : MemoryReplayCache) (payload : List UInt8) :
    FailsWith (fun e => PayloadFault e ∨ ∃ msg, e = .wire .replayDetected msg)
      (precheck S replay payload) := by
  refine .bind (fun e he => .inl (decode_payloadFault payload e he)) fun _ _ => ?_
  exact .bind (.of_ensure fun _ => .inr ⟨_, rfl⟩) fun _ _ => .ok _

end Rust

/-! ## Points -/

/-- What is wrong with a point. -/
inductive PointFault where
  | identity
  | invalid
deriving DecidableEq

section Points

variable [DecidableEq G] (S : Suite q G)

/-- What is wrong with the encoding of a point. -/
def pointFault (b : Bytes 32) : Option PointFault :=
  match S.decPoint b with
  | none => some .invalid
  | some P => if P = 0 then some .identity else none

/-- The point for which the C server refuses an AUTH_1.  The identity passes for `c_prime`. -/
def C.RefusesPoint (m : C.Auth1) (f : PointFault) : Prop :=
  pointFault S m.ephC = some f ∨
    (pointFault S m.ephC = none ∧ pointFault S m.cPrime = some .invalid ∧ f = .invalid)

/-- The first field that Rust refuses is `a_c`, for `f`, or it comes after `s_c`. -/
def Rust.RefusesFirst (m : C.Auth1) (f : PointFault) : Prop :=
  pointFault S m.clientProof.a = some f ∨
    (pointFault S m.clientProof.a = none ∧ ∃ x : ZMod q, decScalar m.clientProof.s = some x)

/-- The payload has not the length its branch count says.  Too many branches go unnoticed by Rust,
and so count only when bytes follow them. -/
def WrongLayout (payload : List UInt8) : Prop :=
  payload.length < 258 ∨ auth1Length payload < payload.length ∨
    (branchCount payload ≤ maxRoles ∧ payload.length < auth1Length payload)

/-- Both servers refuse the payload before the registry, and for the same reason. -/
def RefusedAlike (cache : C.ReplayCache) (payload : List UInt8) : Prop :=
  (WrongLayout payload ∧ Auth1FieldsValid S payload) ∨
    ∃ m, C.authAuth1Decode payload = .ok m ∧
      if C.authReplayCacheContains cache (C.authReplayKey S m.pid m.nonceC m.ephC) then
        Auth1FieldsValid S payload
      else ∃ f, C.RefusesPoint S m f ∧ Rust.RefusesFirst S m f

end Points

/-! ## What the servers find -/

section

variable [DecidableEq G] {S : Suite q G} {payload : List UInt8} {m : C.Auth1}

/-- The code a fault of a point is refused with. -/
def PointFault.code : PointFault → Rust.ErrorCode
  | .identity => .identityPoint
  | .invalid => .invalidPoint

theorem PointFault.code_inj {f g : PointFault} (h : f.code.asU16 = g.code.asU16) : f = g := by
  cases f <;> cases g <;> first | rfl | exact absurd h (by decide)

theorem pointFault_eq_none_iff {b : Bytes 32} :
    pointFault S b = none ↔ ∃ P, S.decPoint b = some P ∧ P ≠ 0 := by
  unfold pointFault
  cases S.decPoint b with
  | none => simp
  | some P => by_cases hP : P = 0 <;> simp [hP]

theorem pointFault_eq_identity_iff {b : Bytes 32} :
    pointFault S b = some .identity ↔ b = Bytes.zero 32 := by
  have hzero : S.decPoint b = some 0 ↔ b = Bytes.zero 32 := by
    rw [S.decPoint_eq_some_iff, S.encPoint_zero, eq_comm]
  rw [← hzero]
  unfold pointFault
  cases S.decPoint b with
  | none => simp
  | some P => by_cases hP : P = 0 <;> simp [hP]

theorem pointFault_eq_invalid_iff {b : Bytes 32} :
    pointFault S b = some .invalid ↔ S.decPoint b = none := by
  unfold pointFault
  cases S.decPoint b with
  | none => simp
  | some P => by_cases hP : P = 0 <;> simp [hP]

namespace C

theorem authCheckPoint_fault {b : Bytes 32} {f : PointFault} (h : pointFault S b = some f) :
    ∃ e, authCheckPoint S b = .error e ∧ e.code = f.code.asU16 := by
  cases f with
  | identity =>
      obtain rfl := pointFault_eq_identity_iff.mp h
      exact ⟨.identityPoint, rfl, rfl⟩
  | invalid =>
      have hne : b ≠ Bytes.zero 32 := by
        intro hb
        rw [pointFault_eq_identity_iff.mpr hb] at h
        cases h
      refine ⟨.invalidPoint, ?_, rfl⟩
      rw [authCheckPoint, ensure_pos hne, Except.ok_bind', pointFault_eq_invalid_iff.mp h]
      rfl

/-- The identity passes, so a point that may be the identity is refused when it does not decode. -/
theorem checkPointOrIdentity_cases (b : Bytes 32) :
    (pointFault S b = some .invalid ∧ ∃ e, checkPointOrIdentity S b = .error e ∧
      e.code = PointFault.invalid.code.asU16) ∨
    (pointFault S b ≠ some .invalid ∧ checkPointOrIdentity S b = .ok ()) := by
  cases h : pointFault S b with
  | none =>
      have hok := authCheckPoint_eq_ok_iff (u := ()).mpr (pointFault_eq_none_iff.mp h)
      exact .inr ⟨by simp, by rw [checkPointOrIdentity, hok]⟩
  | some f =>
      cases f with
      | identity =>
          obtain rfl := pointFault_eq_identity_iff.mp h
          exact .inr ⟨by simp, rfl⟩
      | invalid =>
          have hne : b ≠ Bytes.zero 32 := by
            intro hb
            rw [pointFault_eq_identity_iff.mpr hb] at h
            cases h
          refine .inl ⟨rfl, .invalidPoint, ?_, rfl⟩
          rw [checkPointOrIdentity, authCheckPoint, ensure_pos hne, Except.ok_bind',
            pointFault_eq_invalid_iff.mp h]
          rfl

theorem RefusesPoint.unique {f g : PointFault} (hf : RefusesPoint S m f)
    (hg : RefusesPoint S m g) : f = g := by
  rcases hf with hf | ⟨he, -, rfl⟩ <;> rcases hg with hg | ⟨he', -, rfl⟩ <;> simp_all

/-- The checks of a fresh AUTH_1: the C server refuses a point, or it goes on. -/
theorem precheck_fresh {cache : ReplayCache} (hd : authAuth1Decode payload = .ok m)
    (hk : authReplayCacheContains cache (authReplayKey S m.pid m.nonceC m.ephC) = false) :
    (∃ f e, RefusesPoint S m f ∧ precheck S cache payload = .error e ∧
      e.code = f.code.asU16) ∨
    ((∀ f, ¬ RefusesPoint S m f) ∧ precheck S cache payload = .ok m) := by
  rw [precheck, hd, Except.ok_bind', ensure_pos hk, Except.ok_bind']
  cases he : pointFault S m.ephC with
  | some f =>
      obtain ⟨e, hcheck, hcode⟩ := authCheckPoint_fault he
      rw [hcheck]
      exact .inl ⟨f, e, .inl he, rfl, hcode⟩
  | none =>
      rw [authCheckPoint_eq_ok_iff (u := ()).mpr (pointFault_eq_none_iff.mp he), Except.ok_bind']
      rcases checkPointOrIdentity_cases (S := S) m.cPrime with ⟨hc, e, hcheck, hcode⟩ | ⟨hc, hcheck⟩
      · rw [hcheck]
        exact .inl ⟨.invalid, e, .inr ⟨he, hc, rfl⟩, rfl, hcode⟩
      · rw [hcheck]
        refine .inr ⟨?_, rfl⟩
        rintro f (h | ⟨-, h, -⟩)
        · rw [he] at h
          cases h
        · exact hc h

end C

namespace Rust

/-- The computation refuses with the code `c`. -/
def Refused {α : Type} (c : ErrorCode) (x : Except ProtoError α) : Prop :=
  ∃ msg, x = .error (.wire c msg)

section Rules

variable {α : Type} {rest : List UInt8} {b : Bytes 32} {what : String} {c : ErrorCode}

omit [AddCommGroup G] [Module (ZMod q) G] [DecidableEq G] in
theorem Refused.takeBytes {n : ℕ} {b : Bytes n} {f : Bytes n × List UInt8 → Except ProtoError α}
    (hf : Refused c (f (b, rest))) : Refused c (takeBytes n (b.val ++ rest) >>= f) := by
  rw [Rust.takeBytes, takeFixed_append, Except.ok_bind']
  exact hf

theorem Refused.of_point {f : G × List UInt8 → Except ProtoError α} {fault : PointFault}
    (h : pointFault S b = some fault) :
    Refused fault.code (takePoint S (b.val ++ rest) what >>= f) := by
  rw [takePoint, Rust.takeBytes, takeFixed_append, Except.ok_bind']
  dsimp only
  cases fault with
  | identity =>
      rw [pointFault_eq_identity_iff.mp h, ← S.encPoint_zero, decompressPoint,
        (S.decPoint_eq_some_iff _ 0).mpr rfl]
      dsimp only
      rw [rejectIdentity, ensure_neg (by simp)]
      exact ⟨_, rfl⟩
  | invalid =>
      rw [decompressPoint, pointFault_eq_invalid_iff.mp h]
      exact ⟨_, rfl⟩

theorem Refused.after_point {f : G × List UInt8 → Except ProtoError α}
    (h : pointFault S b = none) (hf : ∀ P, Refused c (f (P, rest))) :
    Refused c (takePoint S (b.val ++ rest) what >>= f) := by
  obtain ⟨P, hP, hne⟩ := pointFault_eq_none_iff.mp h
  have hd : decompressPoint S b what = .ok P :=
    decompressPoint_eq_ok_iff.mpr ⟨(S.decPoint_eq_some_iff b P).mp hP, hne⟩
  rw [takePoint, Rust.takeBytes, takeFixed_append, Except.ok_bind']
  dsimp only
  rw [hd]
  exact hf P

omit [AddCommGroup G] [Module (ZMod q) G] [DecidableEq G] in
theorem Refused.of_scalar {f : ZMod q × List UInt8 → Except ProtoError α}
    (h : (decScalar b : Option (ZMod q)) = none) :
    Refused .nonCanonicalScalar (takeScalar q (b.val ++ rest) what >>= f) := by
  rw [takeScalar, Rust.takeBytes, takeFixed_append, Except.ok_bind']
  dsimp only
  rw [decodeScalar, h]
  exact ⟨_, rfl⟩

omit [AddCommGroup G] [Module (ZMod q) G] [DecidableEq G] in
theorem Refused.after_scalar {f : ZMod q × List UInt8 → Except ProtoError α} {x : ZMod q}
    (h : decScalar b = some x) (hf : Refused c (f (x, rest))) :
    Refused c (takeScalar q (b.val ++ rest) what >>= f) := by
  rw [takeScalar, Rust.takeBytes, takeFixed_append, Except.ok_bind']
  dsimp only
  rw [decodeScalar_eq_ok_iff.mpr h]
  exact hf

end Rules

/-- A message with a point that the C server refuses is refused by the Rust decoder, with the code
of that point exactly when it comes to it first. -/
theorem decode_refused {f : PointFault} (h : C.RefusesPoint S m f) :
    ∃ c, Refused c (Auth1.decode (q := q) S m.bytes) ∧
      (f.code.asU16 = c.asU16 ↔ RefusesFirst S m f) := by
  unfold Auth1.decode C.Auth1.bytes RefusesFirst
  cases ha : pointFault S m.clientProof.a with
  | some g =>
      refine ⟨g.code, .takeBytes (.of_point ha), ?_⟩
      constructor
      · intro hcode
        rw [PointFault.code_inj hcode]
        exact .inl rfl
      · rintro (hg | ⟨hg, -⟩)
        · rw [Option.some.inj hg]
        · cases hg
  | none =>
      cases hs : (decScalar m.clientProof.s : Option (ZMod q)) with
      | none =>
          refine ⟨.nonCanonicalScalar, .takeBytes (.after_point ha fun _ => .of_scalar hs), ?_⟩
          refine iff_of_false ?_ ?_
          · cases f <;> decide
          · rintro (hg | ⟨-, x, hx⟩)
            · cases hg
            · cases hx
      | some x =>
          refine ⟨f.code, .takeBytes (.after_point ha fun _ => .after_scalar hs ?_),
            iff_of_true rfl (.inr ⟨rfl, x, rfl⟩)⟩
          refine .takeBytes ?_
          rcases h with h | ⟨he, hc, rfl⟩
          · exact .of_point h
          · exact .after_point he fun _ => .of_point hc

end Rust

/-! ## Refused alike -/

variable {cache : C.ReplayCache} {replay : Rust.MemoryReplayCache} {a1 : Rust.Auth1 q G}

/-- The Rust server refuses a payload that its decoder refuses. -/
theorem Rust.precheck_of_decode {e : Rust.ProtoError}
    (h : Rust.Auth1.decode (q := q) S payload = .error e) :
    Rust.precheck (q := q) S replay payload = .error e := by
  rw [Rust.precheck, h]
  rfl

/-- An AUTH_1 that decodes for Rust is refused before the registry as a replay, or not at all. -/
theorem Rust.precheck_decoded (replay : Rust.MemoryReplayCache)
    (h : Rust.Auth1.decode S payload = .ok a1) :
    (replay.contains (Rust.replayKey S a1.pid a1.nonceC a1.ephC) = true ∧
      ∃ msg, Rust.precheck S replay payload = .error (.wire .replayDetected msg)) ∨
    (replay.contains (Rust.replayKey S a1.pid a1.nonceC a1.ephC) = false ∧
      Rust.precheck S replay payload = .ok a1) := by
  rw [Rust.precheck, h, Except.ok_bind']
  cases hk : replay.contains (Rust.replayKey S a1.pid a1.nonceC a1.ephC) with
  | true => exact .inl ⟨rfl, _, rfl⟩
  | false => exact .inr ⟨rfl, rfl⟩

/-- Both servers refuse the payload before the registry, with the same code. -/
def SameRefusal (S : Suite q G) (cache : C.ReplayCache) (replay : Rust.MemoryReplayCache)
    (payload : List UInt8) : Prop :=
  ∃ e e', C.precheck S cache payload = .error e ∧
    Rust.precheck (q := q) S replay payload = .error e' ∧ e.code = Rust.errorCode e'

theorem sameRefusal_iff {e : C.AuthErr} {e' : Rust.ProtoError}
    (hC : C.precheck S cache payload = .error e)
    (hR : Rust.precheck (q := q) S replay payload = .error e') :
    SameRefusal S cache replay payload ↔ e.code = Rust.errorCode e' := by
  unfold SameRefusal
  simp [hC, hR]

/-- A payload that the C decoder refuses for its layout. -/
theorem refusedAlike_layout {e : C.AuthErr} (hd : C.authAuth1Decode payload = .error e)
    (he : (e = .payloadTooShort ∧ (payload.length < 258 ∨
        (branchCount payload ≤ maxRoles ∧ payload.length < auth1Length payload))) ∨
      (e = .malformedPacket ∧ 258 ≤ payload.length ∧ (maxRoles < branchCount payload ∨
        auth1Length payload < payload.length))) :
    RefusedAlike S cache payload ↔ SameRefusal S cache replay payload := by
  have hC : C.precheck S cache payload = .error e := by
    rw [C.precheck, hd]
    rfl
  have halike : RefusedAlike S cache payload ↔
      WrongLayout payload ∧ Auth1FieldsValid S payload := by
    simp [RefusedAlike, hd]
  have hlength : 258 ≤ auth1Length payload := Nat.le_add_right _ _
  rw [halike]
  rcases Rust.decode_outcome S payload with
    ⟨hbad, e', hx, c, hc, msg, rfl⟩ | ⟨hvalid, hlen, msg, hx⟩ | ⟨hvalid, hlen, msg, hx⟩ |
      ⟨hvalid, hlen, a1, hx⟩
  · -- a field is at fault for Rust
    rw [sameRefusal_iff hC (Rust.precheck_of_decode hx), Rust.errorCode_wire]
    refine iff_of_false (fun h => hbad h.2) ?_
    simp only [List.mem_cons, List.not_mem_nil, or_false] at hc
    rcases he with ⟨rfl, -⟩ | ⟨rfl, -⟩ <;> rcases hc with rfl | rfl | rfl <;> decide
  · rw [sameRefusal_iff hC (Rust.precheck_of_decode hx), Rust.errorCode_wire]
    rcases he with ⟨rfl, hshort⟩ | ⟨rfl, hge, hmany⟩
    · exact iff_of_true ⟨hshort.imp_right .inr, hvalid⟩ rfl
    · refine iff_of_false ?_ (by decide)
      rintro ⟨hwrong | hwrong | ⟨hwrong, -⟩, -⟩ <;> omega
  · rw [sameRefusal_iff hC (Rust.precheck_of_decode hx), Rust.errorCode_wire]
    rcases he with ⟨rfl, hshort⟩ | ⟨rfl, -⟩
    · omega
    · exact iff_of_true ⟨.inr (.inl hlen), hvalid⟩ rfl
  · have hright : ¬ WrongLayout payload := by
      rintro (hwrong | hwrong | ⟨-, hwrong⟩) <;> omega
    refine iff_of_false (fun h => hright h.1) ?_
    rcases Rust.precheck_decoded replay hx with ⟨-, msg, hR⟩ | ⟨-, hR⟩
    · rw [sameRefusal_iff hC hR, Rust.errorCode_wire]
      rcases he with ⟨rfl, -⟩ | ⟨rfl, -⟩ <;> decide
    · rintro ⟨e₁, e₂, -, h, -⟩
      rw [hR] at h
      cases h

variable [NeZero q]

/-- A payload that both decoders accept is the same message for both. -/
theorem decoded_eq_wire (hC : C.authAuth1Decode payload = .ok m)
    (hR : Rust.Auth1.decode S payload = .ok a1) : m = a1.wire S := by
  obtain ⟨hm, hcount⟩ := C.Auth1.bytes_of_decode hC
  obtain ⟨rfl, -⟩ := Rust.Auth1.decode_eq_ok_iff.mp hR
  rw [Rust.Auth1.encode_eq] at hm hC
  have hlen := congrArg List.length hm
  rw [C.Auth1.bytes_length, C.Auth1.bytes_length] at hlen
  have hwire := C.Auth1.decode_bytes (m := a1.wire S) (by omega)
  exact Except.ok.inj (hC.symm.trans hwire)

/-- A payload that the C decoder accepts. -/
theorem refusedAlike_decoded
    (hreplay : ∀ key, C.authReplayCacheContains cache key = replay.contains key)
    (hd : C.authAuth1Decode payload = .ok m) (hlen : payload.length = auth1Length payload) :
    RefusedAlike S cache payload ↔ SameRefusal S cache replay payload := by
  have hright : ¬ WrongLayout payload := by
    have hlength : 258 ≤ auth1Length payload := Nat.le_add_right _ _
    rintro (hwrong | hwrong | ⟨-, hwrong⟩) <;> omega
  have halike : RefusedAlike S cache payload ↔
      if C.authReplayCacheContains cache (C.authReplayKey S m.pid m.nonceC m.ephC) then
        Auth1FieldsValid S payload
      else ∃ f, C.RefusesPoint S m f ∧ Rust.RefusesFirst S m f := by
    simp [RefusedAlike, hd, hright]
  rw [halike]
  cases hk : C.authReplayCacheContains cache (C.authReplayKey S m.pid m.nonceC m.ephC) with
  | true =>
      have hC : C.precheck S cache payload = .error .replayDetected := by
        rw [C.precheck, hd, Except.ok_bind', ensure_neg (by simp [hk])]
        rfl
      rw [if_pos rfl]
      rcases Rust.decode_outcome S payload with
        ⟨hbad, e', hx, c, hc, msg, rfl⟩ | ⟨-, hlen', -⟩ | ⟨-, hlen', -⟩ | ⟨hvalid, -, a1, hx⟩
      · rw [sameRefusal_iff hC (Rust.precheck_of_decode hx), Rust.errorCode_wire]
        refine iff_of_false hbad ?_
        simp only [List.mem_cons, List.not_mem_nil, or_false] at hc
        rcases hc with rfl | rfl | rfl <;> decide
      · omega
      · omega
      · have hm := decoded_eq_wire hd hx
        rcases Rust.precheck_decoded replay hx with ⟨-, msg, hR⟩ | ⟨hnew, -⟩
        · rw [sameRefusal_iff hC hR, Rust.errorCode_wire]
          exact iff_of_true hvalid rfl
        · rw [hm, hreplay] at hk
          exact absurd (hk.symm.trans hnew) (by decide)
  | false =>
      rw [if_neg (by decide)]
      rcases C.precheck_fresh (S := S) hd hk with ⟨f, e, hf, hC, hcode⟩ | ⟨hnone, hC⟩
      · obtain ⟨c, ⟨msg, hx⟩, hiff⟩ := Rust.decode_refused (q := q) hf
        rw [(C.Auth1.bytes_of_decode hd).1] at hx
        rw [sameRefusal_iff hC (Rust.precheck_of_decode hx), Rust.errorCode_wire, hcode, hiff]
        constructor
        · rintro ⟨g, hg, hfirst⟩
          rwa [C.RefusesPoint.unique hf hg]
        · exact fun hfirst => ⟨f, hf, hfirst⟩
      · refine iff_of_false ?_ ?_
        · rintro ⟨f, hf, -⟩
          exact hnone f hf
        · rintro ⟨e₁, e₂, h, -⟩
          rw [hC] at h
          cases h

/-- Both servers refuse a payload before the registry with the same code exactly when they refuse
it alike. -/
theorem refusedAlike_iff
    (hreplay : ∀ key, C.authReplayCacheContains cache key = replay.contains key) :
    RefusedAlike S cache payload ↔ SameRefusal S cache replay payload := by
  rcases C.decode_outcome payload with ⟨hlen, hd⟩ | ⟨hge, hn, hd⟩ | ⟨-, hn, hlen, hd⟩ |
    ⟨hn, hlen, hd⟩ | ⟨hn, hlen, m, hd⟩
  · exact refusedAlike_layout hd (.inl ⟨rfl, .inl hlen⟩)
  · exact refusedAlike_layout hd (.inr ⟨rfl, hge, .inl hn⟩)
  · exact refusedAlike_layout hd (.inl ⟨rfl, .inr ⟨hn, hlen⟩⟩)
  · have hlength : 258 ≤ auth1Length payload := Nat.le_add_right _ _
    exact refusedAlike_layout hd (.inr ⟨rfl, by omega, .inr hlen⟩)
  · exact refusedAlike_decoded hreplay hd hlen

end

end ZkArche
