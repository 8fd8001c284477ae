import ZkArche.Proto.ValidationC
import ZkArche.Wire.CodecC
import ZkArche.Wire.PayloadsRust

/-!
# The two payload codecs

The Rust decoders accept what the C decoders accept and validate on top of it.  So whatever Rust
accepts, C accepts with the same fields, up to the limit of eight branches that only C has.  What
C accepts with proper points and canonical scalars, Rust accepts.  Both encoders give the bytes
back.

`Rust.Message` is a message of any type, beside `C.Message`, and `wire` is the C message it stands
for.  A Rust decoder accepts exactly the layout of a proper message
(`Rust.Message.decode_eq_ok_iff`).
-/

namespace ZkArche

variable {q : ℕ} {G : Type} [AddCommGroup G] [Module (ZMod q) G]

/-! ## Messages of the Rust crate -/

namespace Rust

/-- A message. -/
inductive Message (q : ℕ) (G : Type) where
  | setup1 (m : Setup1 G)
  | setup2 (m : Setup2 q G)
  | setup3 (m : Setup3 q G)
  | setupAck
  | auth1 (m : Auth1 q G)
  | auth2 (m : Auth2 q G)
  | auth3 (m : Auth3)
  | authAck

namespace Message

/-- The C message it stands for. -/
def wire (S : Suite q G) : Message q G → C.Message
  | .setup1 m => .setup1 (m.wire S)
  | .setup2 m => .setup2 (m.wire S)
  | .setup3 m => .setup3 (m.wire S)
  | .setupAck => .setupAck
  | .auth1 m => .auth1 (m.wire S)
  | .auth2 m => .auth2 (m.wire S)
  | .auth3 m => .auth3 ⟨m.tagC⟩
  | .authAck => .authAck

/-- Its encoder.  Only that of SETUP_1 may panic. -/
def encode (S : Suite q G) : Message q G → Except Stop (List UInt8)
  | .setup1 m => m.encode S
  | .setup2 m => .ok (m.encode S)
  | .setup3 m => .ok (m.encode S)
  | .setupAck => .ok encodeAck
  | .auth1 m => .ok (m.encode S)
  | .auth2 m => .ok (m.encode S)
  | .auth3 m => .ok m.encode
  | .authAck => .ok encodeAck

/-- The decoder of a type. -/
def decode (S : Suite q G) [DecidableEq G] :
    MsgType → List UInt8 → Except ProtoError (Message q G)
  | .setup1, b => (Setup1.decode S b).map .setup1
  | .setup2, b => (Setup2.decode S b).map .setup2
  | .setup3, b => (Setup3.decode S b).map .setup3
  | .setupAck, b => (decodeAck b).map fun _ => .setupAck
  | .auth1, b => (Auth1.decode S b).map .auth1
  | .auth2, b => (Auth2.decode S b).map .auth2
  | .auth3, b => (Auth3.decode b).map .auth3
  | .authAck, b => (decodeAck b).map fun _ => .authAck

/-- The number of role branches. -/
def branchCount : Message q G → ℕ
  | .auth1 m => m.branches.length
  | _ => 0

/-- What the decoders ensure. -/
def Proper : Message q G → Prop
  | .setup1 m => m.Proper
  | .setup2 m => m.Proper
  | .setup3 m => m.clientProof.a ≠ 0
  | .auth1 m => m.Proper
  | .auth2 m => m.Proper
  | _ => True

/-- The encoder of a proper message writes its layout. -/
theorem encode_eq {S : Suite q G} {m : Message q G} (h : m.Proper) :
    m.encode S = .ok (m.wire S).bytes := by
  cases m with
  | setup1 m => exact Setup1.encode_eq S h.short
  | auth1 m => exact congrArg Except.ok (m.encode_eq S)
  | _ => rfl

/-- A decoder accepts exactly the layouts of the proper messages of its type. -/
theorem decode_eq_ok_iff [DecidableEq G] [NeZero q] {S : Suite q G} {ty : MsgType}
    {b : List UInt8} {m : Message q G} :
    decode S ty b = .ok m ↔ (m.wire S).type = ty ∧ b = (m.wire S).bytes ∧ m.Proper := by
  constructor
  · intro h
    cases ty with
    | setup1 =>
        obtain ⟨m, hm, rfl⟩ := Except.map_eq_ok_iff.mp h
        exact ⟨rfl, Setup1.decode_eq_ok_iff.mp hm⟩
    | setup2 =>
        obtain ⟨m, hm, rfl⟩ := Except.map_eq_ok_iff.mp h
        exact ⟨rfl, Setup2.decode_eq_ok_iff.mp hm⟩
    | setup3 =>
        obtain ⟨m, hm, rfl⟩ := Except.map_eq_ok_iff.mp h
        exact ⟨rfl, Setup3.decode_eq_ok_iff.mp hm⟩
    | setupAck =>
        obtain ⟨u, hm, rfl⟩ := Except.map_eq_ok_iff.mp h
        exact ⟨rfl, ensure_eq_ok_iff.mp hm, trivial⟩
    | auth1 =>
        obtain ⟨m, hm, rfl⟩ := Except.map_eq_ok_iff.mp h
        obtain ⟨hb, hp⟩ := Auth1.decode_eq_ok_iff.mp hm
        exact ⟨rfl, hb.trans (m.encode_eq S), hp⟩
    | auth2 =>
        obtain ⟨m, hm, rfl⟩ := Except.map_eq_ok_iff.mp h
        exact ⟨rfl, Auth2.decode_eq_ok_iff.mp hm⟩
    | auth3 =>
        obtain ⟨m, hm, rfl⟩ := Except.map_eq_ok_iff.mp h
        exact ⟨rfl, Auth3.decode_eq_ok_iff.mp hm, trivial⟩
    | authAck =>
        obtain ⟨u, hm, rfl⟩ := Except.map_eq_ok_iff.mp h
        exact ⟨rfl, ensure_eq_ok_iff.mp hm, trivial⟩
  · rintro ⟨rfl, rfl, hp⟩
    cases m with
    | setup1 m => exact Except.map_eq_ok_iff.mpr ⟨m, Setup1.decode_eq_ok_iff.mpr ⟨rfl, hp⟩, rfl⟩
    | setup2 m => exact Except.map_eq_ok_iff.mpr ⟨m, Setup2.decode_eq_ok_iff.mpr ⟨rfl, hp⟩, rfl⟩
    | setup3 m => exact Except.map_eq_ok_iff.mpr ⟨m, Setup3.decode_eq_ok_iff.mpr ⟨rfl, hp⟩, rfl⟩
    | setupAck => rfl
    | auth1 m =>
        exact Except.map_eq_ok_iff.mpr
          ⟨m, Auth1.decode_eq_ok_iff.mpr ⟨(m.encode_eq S).symm, hp⟩, rfl⟩
    | auth2 m => exact Except.map_eq_ok_iff.mpr ⟨m, Auth2.decode_eq_ok_iff.mpr ⟨rfl, hp⟩, rfl⟩
    | auth3 m => exact Except.map_eq_ok_iff.mpr ⟨m, Auth3.decode_eq_ok_iff.mpr rfl, rfl⟩
    | authAck => rfl

end Message

end Rust

/-! ## Strict messages of the C library -/

namespace C

/-- The fields of a message, by kind. -/
def Message.carried : Message → Carried
  | .setup1 m => m.carried
  | .setup2 m => m.carried
  | .setup3 m => m.carried
  | .auth1 m => m.carried
  | .auth2 m => m.carried
  | _ => ⟨[], [], []⟩

variable {S : Suite q G}

theorem ProperPoint.lift {p : Bytes 32} (h : ProperPoint S p) : ∃ P, S.encPoint P = p ∧ P ≠ 0 := by
  obtain ⟨P, hP, hne⟩ := h
  exact ⟨P, (S.decPoint_eq_some_iff _ _).mp hP, hne⟩

variable [NeZero q]

/-- A proof with a proper point and a canonical scalar. -/
theorem SchnorrProof.lift {p : SchnorrProof} (ha : ProperPoint S p.a)
    (hs : ∃ x : ZMod q, decScalar p.s = some x) :
    ∃ pr : Rust.SchnorrProof q G, encProof S pr = p ∧ pr.a ≠ 0 := by
  obtain ⟨A, hA, hne⟩ := ha.lift
  obtain ⟨x, hx⟩ := hs
  refine ⟨⟨A, x⟩, ?_, hne⟩
  rw [encProof, hA, (decScalar_eq_some_iff S.order_le).mp hx]

/-- Branches with proper points and canonical scalars. -/
theorem SetBranch.lift (bs : List SetBranch) (ha : ∀ b ∈ bs, ProperPoint S b.a)
    (hc : ∀ b ∈ bs, ∃ x : ZMod q, decScalar b.c = some x)
    (hs : ∀ b ∈ bs, ∃ x : ZMod q, decScalar b.s = some x) :
    ∃ brs : List (Rust.SetBranch q G), brs.map (encBranch S) = bs ∧ ∀ b ∈ brs, b.a ≠ 0 := by
  induction bs with
  | nil => exact ⟨[], rfl, List.forall_mem_nil _⟩
  | cons b bs ih =>
      rw [List.forall_mem_cons] at ha hc hs
      obtain ⟨brs, hbrs, hne⟩ := ih ha.2 hc.2 hs.2
      obtain ⟨A, hA, hAne⟩ := ha.1.lift
      obtain ⟨c, hc⟩ := hc.1
      obtain ⟨s, hs⟩ := hs.1
      refine ⟨⟨A, c, s⟩ :: brs, ?_, List.forall_mem_cons.mpr ⟨hAne, hne⟩⟩
      rw [List.map_cons, hbrs, encBranch, hA, (decScalar_eq_some_iff S.order_le).mp hc,
        (decScalar_eq_some_iff S.order_le).mp hs]

omit [NeZero q] in
theorem Setup1.lift {m : Setup1} (hb : m.pairingToken.length ≤ maxPairingToken)
    (hs : m.carried.Strict S) : ∃ r : Rust.Setup1 G, r.Proper ∧ r.wire S = m := by
  obtain ⟨D, hD, hDne⟩ := (hs.points m.devicePub (by simp [carried])).lift
  obtain ⟨K, hK, hKne⟩ := (hs.points m.roleCommitment (by simp [carried])).lift
  -- an empty token is read as none
  have htoken : ∃ t : Option (List UInt8), t.getD [] = m.pairingToken ∧ t ≠ some [] := by
    by_cases hnil : m.pairingToken = []
    · exact ⟨none, hnil.symm, by simp⟩
    · exact ⟨some m.pairingToken, rfl, by simpa using hnil⟩
  obtain ⟨t, ht, htne⟩ := htoken
  refine ⟨⟨t, m.deviceId, D, m.clientNonce, K⟩, ⟨hDne, hKne, ?_, htne⟩, ?_⟩
  · rw [ht]
    exact hb
  · rw [Rust.Setup1.wire, ht, hD, hK]

theorem Setup2.lift {m : Setup2} (hs : m.carried.Strict S) :
    ∃ r : Rust.Setup2 q G, r.Proper ∧ r.wire S = m := by
  obtain ⟨P, hP, hPne⟩ := (hs.points m.serverPub (by simp [carried])).lift
  obtain ⟨pr, hpr, hne⟩ := SchnorrProof.lift (p := m.serverProof)
    (hs.points _ (by simp [carried])) (hs.scalars _ (by simp [carried]))
  refine ⟨⟨m.serverNonce, m.setupChallenge, P, pr⟩, ⟨hPne, hne⟩, ?_⟩
  rw [Rust.Setup2.wire, hP, hpr]

theorem Setup3.lift {m : Setup3} (hs : m.carried.Strict S) :
    ∃ r : Rust.Setup3 q G, r.clientProof.a ≠ 0 ∧ r.wire S = m := by
  obtain ⟨pr, hpr, hne⟩ := SchnorrProof.lift (p := m.clientProof)
    (hs.points _ (by simp [carried])) (hs.scalars _ (by simp [carried]))
  refine ⟨⟨pr⟩, hne, ?_⟩
  rw [Rust.Setup3.wire, hpr]

theorem Auth1.lift {m : Auth1} (hb : m.branches.length ≤ maxRoles) (hs : m.carried.Strict S) :
    ∃ r : Rust.Auth1 q G, r.Proper ∧ r.wire S = m := by
  obtain ⟨pr, hpr, hne⟩ := SchnorrProof.lift (p := m.clientProof)
    (hs.points _ (by simp [carried])) (hs.scalars _ (by simp [carried]))
  obtain ⟨rr, hrr, hrne⟩ := SchnorrProof.lift (p := m.rerandProof)
    (hs.points _ (by simp [carried])) (hs.scalars _ (by simp [carried]))
  obtain ⟨E, hE, hEne⟩ := (hs.points m.ephC (by simp [carried])).lift
  obtain ⟨K, hK, hKne⟩ := (hs.points m.cPrime (by simp [carried])).lift
  obtain ⟨brs, hbrs, hbne⟩ := SetBranch.lift m.branches
    (fun b hb => hs.points _ (by
      simp only [carried, List.mem_append, List.mem_map]
      exact .inr (.inr ⟨b, hb, rfl⟩)))
    (fun b hb => hs.scalars _ (by
      simp only [carried, List.mem_append, List.mem_map]
      exact .inl (.inr ⟨b, hb, rfl⟩)))
    (fun b hb => hs.scalars _ (by
      simp only [carried, List.mem_append, List.mem_map]
      exact .inr ⟨b, hb, rfl⟩))
  have hcount : brs.length < 256 ^ 2 := by
    rw [← hbrs, List.length_map] at hb
    exact Nat.lt_of_le_of_lt hb (by decide)
  refine ⟨⟨m.pid, pr, m.nonceC, E, K, rr, brs⟩, ⟨hne, hEne, hKne, hrne, hbne, hcount⟩, ?_⟩
  rw [Rust.Auth1.wire, hpr, hrr, hE, hK, hbrs]

theorem Auth2.lift {m : Auth2} (hs : m.carried.Strict S) :
    ∃ r : Rust.Auth2 q G, r.Proper ∧ r.wire S = m := by
  obtain ⟨P, hP, hPne⟩ := (hs.points m.serverPub (by simp [carried])).lift
  obtain ⟨E, hE, hEne⟩ := (hs.points m.ephS (by simp [carried])).lift
  obtain ⟨pr, hpr, hne⟩ := SchnorrProof.lift (p := m.serverProof)
    (hs.points _ (by simp [carried])) (hs.scalars _ (by simp [carried]))
  refine ⟨⟨P, pr, m.nonceS, E, m.tagS⟩, ⟨hPne, hne, hEne⟩, ?_⟩
  rw [Rust.Auth2.wire, hP, hE, hpr]

/-- A message within the bounds whose fields are strict stands for a proper Rust message. -/
theorem Message.lift {m : Message} (hb : m.Bounded) (hs : m.carried.Strict S) :
    ∃ r : Rust.Message q G, r.Proper ∧ r.wire S = m := by
  cases m with
  | setup1 m =>
      obtain ⟨r, hr, rfl⟩ := Setup1.lift hb hs
      exact ⟨.setup1 r, hr, rfl⟩
  | setup2 m =>
      obtain ⟨r, hr, rfl⟩ := Setup2.lift hs
      exact ⟨.setup2 r, hr, rfl⟩
  | setup3 m =>
      obtain ⟨r, hr, rfl⟩ := Setup3.lift hs
      exact ⟨.setup3 r, hr, rfl⟩
  | setupAck => exact ⟨.setupAck, trivial, rfl⟩
  | auth1 m =>
      obtain ⟨r, hr, rfl⟩ := Auth1.lift hb hs
      exact ⟨.auth1 r, hr, rfl⟩
  | auth2 m =>
      obtain ⟨r, hr, rfl⟩ := Auth2.lift hs
      exact ⟨.auth2 r, hr, rfl⟩
  | auth3 m => exact ⟨.auth3 ⟨m.tagC⟩, trivial, rfl⟩
  | authAck => exact ⟨.authAck, trivial, rfl⟩

end C

/-! ## Both -/

/-- What the codecs of the two languages say of a byte string. -/
structure PayloadsAgree (S : Suite q G) [DecidableEq G] (ty : MsgType) (b : List UInt8) :
    Prop where
  /-- What Rust accepts, C accepts with the same fields, and both encode it as it was. -/
  forward : ∀ m, Rust.Message.decode S ty b = .ok m → m.branchCount ≤ maxRoles →
    C.Message.decode ty b = .ok (m.wire S) ∧ m.encode S = .ok b ∧
      ∀ bufLen, b.length ≤ bufLen → (m.wire S).encode bufLen = .ok b
  /-- What C accepts with proper points and canonical scalars, Rust accepts. -/
  backward : ∀ m, C.Message.decode ty b = .ok m → m.carried.Strict S →
    ∃ r, Rust.Message.decode S ty b = .ok r ∧ r.wire S = m

/-- The codecs agree on every byte string, for every type. -/
theorem payload_codecs_agree [DecidableEq G] [NeZero q] (S : Suite q G) (ty : MsgType)
    (b : List UInt8) : PayloadsAgree S ty b where
  forward := by
    intro m hm hcount
    obtain ⟨rfl, rfl, hp⟩ := Rust.Message.decode_eq_ok_iff.mp hm
    have hb : (m.wire S).Bounded := by
      cases m with
      | setup1 m => exact hp.short
      | auth1 m =>
          have h8 : m.branches.length ≤ maxRoles := hcount
          show (m.branches.map (C.encBranch S)).length ≤ maxRoles
          rwa [List.length_map]
      | _ => trivial
    exact ⟨C.Message.decode_bytes hb, Rust.Message.encode_eq hp,
      fun _ hl => C.Message.encode_of_room hb hl⟩
  backward := by
    intro m hm hs
    obtain ⟨rfl, hb, rfl⟩ := C.Message.bytes_of_decode hm
    obtain ⟨r, hr, rfl⟩ := C.Message.lift hb hs
    exact ⟨r, Rust.Message.decode_eq_ok_iff.mpr ⟨rfl, rfl, hr⟩, rfl⟩

theorem payload_codecs_agree_setup3 : PayloadsAgree smallSuite .setup3
    ((smallSuite.encPoint demoServerKey).val ++ (encScalar demoDeviceKey).val) :=
  payload_codecs_agree smallSuite .setup3 _

end ZkArche
