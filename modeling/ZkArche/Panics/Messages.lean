import ZkArche.Panics.Server

/-!
# The ERROR packets of the Rust server

`build_error` panics when the text of an error does not fit a packet.  The texts of the decoders and
the handlers are short.  Only those of storage errors are not known, since they contain what the
operating system says.

When the storage errors fit, every error of `dispatch_packet` does (`respond_fits`), and the
response is always built (`dispatchPacket_returns`).
-/

namespace ZkArche.Rust

/-- The text of the error fits an ERROR packet. -/
def Fits (e : ProtoError) : Prop := (ascii (wireCodeAndMsg e).2).length + 2 ≤ maxPayload

/-- No panic, and a text that fits. -/
def Sendable (e : Stop) : Prop := ∃ p, e = .err p ∧ Fits p

/-- A text of at most 100 bytes. -/
def Short (s : String) : Prop := (ascii s).length ≤ 100

instance (s : String) : Decidable (Short s) := inferInstanceAs (Decidable (_ ≤ _))

theorem fits_wire {msg : String} (h : Short msg) (code : ErrorCode) : Fits (.wire code msg) := by
  have hmax : maxPayload = 2024 := rfl
  have hlen : (ascii msg).length ≤ 100 := h
  show (ascii msg).length + 2 ≤ maxPayload
  omega

/-- A short name after a short text. -/
theorem fits_append {a b : String} (ha : Short a) (hb : Short b) (code : ErrorCode) :
    Fits (.wire code (a ++ b)) := by
  have hmax : maxPayload = 2024 := rfl
  have hlena : (ascii a).length ≤ 100 := ha
  have hlenb : (ascii b).length ≤ 100 := hb
  show (ascii (a ++ b)).length + 2 ≤ maxPayload
  rw [ascii_append, List.length_append]
  omega

theorem orStop_sendable {α : Type} {x : Except ProtoError α} (h : FailsWith Fits x) :
    FailsWith Sendable (orStop x) := by
  cases x with
  | ok a => exact .ok a
  | error e => exact .error ⟨e, rfl, h e rfl⟩

theorem sendable_wire {msg : String} (h : Short msg) (code : ErrorCode) :
    Sendable (.wire code msg) := ⟨_, rfl, fits_wire h code⟩

/-! ## Decoders -/

section

variable {q : ℕ} {G : Type} [AddCommGroup G] [Module (ZMod q) G] (S : Suite q G)

theorem takeBytes_fits (n : ℕ) (buf : List UInt8) : FailsWith Fits (takeBytes n buf) :=
  .of_takeFixed (fits_wire (by decide) _) n buf

theorem rejectTrailing_fits {what : String} (h : Short what) (rest : List UInt8) :
    FailsWith Fits (rejectTrailing rest what) :=
  .of_ensure fun _ => fits_append h (by decide) _

theorem decodeScalar_fits {what : String} (h : Short what) (b : Bytes 32) :
    FailsWith Fits (decodeScalar q b what) := by
  unfold decodeScalar
  cases (decScalar b : Option (ZMod q)) with
  | none => exact .error (fits_append (by decide) h _)
  | some x => exact .ok x

theorem takeScalar_fits {what : String} (h : Short what) (buf : List UInt8) :
    FailsWith Fits (takeScalar q buf what) := by
  unfold takeScalar
  exact .bind (takeBytes_fits _ _) fun _ _ => .bind (decodeScalar_fits h _) fun _ _ => .ok _

section

variable [DecidableEq G]

theorem takePoint_fits {what : String} (h : Short what) (buf : List UInt8) :
    FailsWith Fits (takePoint S buf what) := by
  unfold takePoint decompressPoint
  refine .bind (takeBytes_fits _ _) fun b _ => .bind ?_ fun _ _ => .ok _
  cases S.decPoint b.1 with
  | none => exact .error (fits_append (by decide) h _)
  | some P => exact .bind (.of_ensure fun _ => fits_append h (by decide) _) fun _ _ => .ok P

omit [AddCommGroup G] [Module (ZMod q) G] [DecidableEq G] in
theorem takeToken_fits (buf : List UInt8) : FailsWith Fits (takeToken buf) := by
  cases buf with
  | nil => exact .error (fits_wire (by decide) _)
  | cons b buf =>
      simp only [takeToken]
      split
      next => exact .error (fits_wire (by decide) _)
      next =>
        split
        next => exact .ok _
        next =>
          split
          next => exact .error (fits_wire (by decide) _)
          next => exact .ok _

theorem Setup1.decode_fits (buf : List UInt8) : FailsWith Fits (Setup1.decode S buf) := by
  unfold Setup1.decode
  refine .bind (takeToken_fits _) fun _ _ => .bind (takeBytes_fits _ _) fun _ _ => ?_
  refine .bind (takePoint_fits S (by decide) _) fun _ _ => .bind (takeBytes_fits _ _) fun _ _ => ?_
  refine .bind (takePoint_fits S (by decide) _) fun _ _ => ?_
  exact .bind (rejectTrailing_fits (by decide) _) fun _ _ => .ok _

theorem Setup3.decode_fits (buf : List UInt8) :
    FailsWith Fits (Setup3.decode (q := q) S buf) := by
  unfold Setup3.decode
  refine .bind (takePoint_fits S (by decide) _) fun _ _ => ?_
  refine .bind (takeScalar_fits (by decide) _) fun _ _ => ?_
  exact .bind (rejectTrailing_fits (by decide) _) fun _ _ => .ok _

theorem takeBranches_fits (n : ℕ) (buf : List UInt8) :
    FailsWith Fits (takeBranches (q := q) S n buf) := by
  induction n generalizing buf with
  | zero => exact .ok _
  | succ n ih =>
      unfold takeBranches
      refine .bind (takePoint_fits S (by decide) _) fun _ _ => ?_
      refine .bind (takeScalar_fits (by decide) _) fun _ _ => ?_
      exact .bind (takeScalar_fits (by decide) _) fun _ _ => .bind (ih _) fun _ _ => .ok _

theorem Auth1.decode_fits (buf : List UInt8) :
    FailsWith Fits (Auth1.decode (q := q) S buf) := by
  have hpoint : ∀ {what : String} (buf : List UInt8), Short what →
      FailsWith Fits (takePoint S buf what) := fun buf h => takePoint_fits S h buf
  have hscalar : ∀ {what : String} (buf : List UInt8), Short what →
      FailsWith Fits (takeScalar q buf what) := fun buf h => takeScalar_fits h buf
  unfold Auth1.decode
  refine .bind (takeBytes_fits _ _) fun _ _ => .bind (hpoint _ (by decide)) fun _ _ => ?_
  refine .bind (hscalar _ (by decide)) fun _ _ => .bind (takeBytes_fits _ _) fun _ _ => ?_
  refine .bind (hpoint _ (by decide)) fun _ _ => .bind (hpoint _ (by decide)) fun _ _ => ?_
  refine .bind (hpoint _ (by decide)) fun _ _ => .bind (hscalar _ (by decide)) fun _ _ => ?_
  refine .bind (.of_takeFixed (fits_wire (by decide) _) 2 _) fun _ _ => ?_
  refine .bind (.of_ensure fun _ => fits_wire (by decide) _) fun _ _ => ?_
  refine .bind (takeBranches_fits S _ _) fun _ _ => ?_
  exact .bind (rejectTrailing_fits (by decide) _) fun _ _ => .ok _

end

theorem Auth3.decode_fits (buf : List UInt8) : FailsWith Fits (Auth3.decode buf) := by
  unfold Auth3.decode
  exact .bind (takeBytes_fits _ _) fun _ _ => .bind (rejectTrailing_fits (by decide) _) fun _ _ =>
    .ok _

end

/-! ## Handlers -/

section

variable {q : ℕ} {G : Type} [AddCommGroup G] [Module (ZMod q) G] (S : Suite q G)

/-- A small packet is always built. -/
theorem buildPacket_sendable {ty : UInt8} {sid : SessionId} {seq : UInt32} {payload : List UInt8}
    (h : payload.length ≤ maxPayload) : FailsWith Sendable (buildPacket ty sid seq payload) := by
  rw [buildPacket_eq_ok_iff.mpr ⟨h, rfl⟩]
  exact .ok _

variable [DecidableEq G]

theorem handleSetup1_sendable {serverSk : Except ProtoError (ZMod q)}
    (hsk : FailsWith Fits serverSk) (sid : SessionId) (seq : UInt32) (payload : List UInt8)
    (required : Option (List UInt8)) (draws : Setup2Draws) :
    FailsWith Sendable (handleSetup1 S serverSk sid seq payload required draws) := by
  unfold handleSetup1
  refine .bind (orStop_sendable (Setup1.decode_fits S _)) fun s1 _ => ?_
  refine .bind (.of_ensure fun _ => sendable_wire (by decide) _) fun _ _ => ?_
  refine .bind (orStop_sendable hsk) fun sk _ => ?_
  refine .bind (buildPacket_sendable ?_) fun pkt _ => .ok _
  simp [Setup2.encode, maxPayload, maxDatagram, headerLen]

theorem handleSetup3_sendable (pending : PendingSetup G) (serverPub : G) (sid : SessionId)
    (seq : UInt32) (payload : List UInt8) {flush : Except ProtoError Unit}
    (hflush : FailsWith Fits flush) :
    FailsWith Sendable (handleSetup3 S pending serverPub sid seq payload flush).2 := by
  have hcheck : FailsWith Sendable (setup3Check S pending serverPub payload) := by
    unfold setup3Check
    refine .bind (orStop_sendable (Setup3.decode_fits S _)) fun s3 _ => ?_
    exact .of_ensure fun _ => sendable_wire (by decide) _
  unfold handleSetup3
  cases hc : setup3Check S pending serverPub payload with
  | error e => exact .error (hcheck e hc)
  | ok u => exact .bind (orStop_sendable hflush) fun _ _ => buildPacket_sendable (by decide)

theorem handleAuth1_sendable {serverSk : Except ProtoError (ZMod q)}
    (hsk : FailsWith Fits serverSk) (records : List (Bytes 32 × DeviceRecord G))
    (replay : MemoryReplayCache) (allowedRoles : List UInt64) (sid : SessionId) (seq : UInt32)
    (payload : List UInt8) (draws : Auth2Draws) : FailsWith Sendable
      (handleAuth1 S serverSk records replay allowedRoles sid seq payload draws).2 := by
  have haccept : FailsWith Sendable
      (auth1Accept S serverSk records replay allowedRoles sid seq payload draws) := by
    unfold auth1Accept
    refine .bind (orStop_sendable (Auth1.decode_fits S _)) fun a1 _ => ?_
    refine .bind (.of_ensure fun _ => sendable_wire (by decide) _) fun _ _ => ?_
    refine .bind (orStop_sendable hsk) fun sk _ => ?_
    cases findDevice S records (sk • S.base) a1 with
    | none => exact .error (sendable_wire (by decide) _)
    | some found =>
        refine .bind (.of_ensure fun _ => sendable_wire (by decide) _) fun _ _ => ?_
        refine .bind (.of_ensure fun _ => sendable_wire (by decide) _) fun _ _ => ?_
        refine .bind (.of_ensure fun _ => sendable_wire (by decide) _) fun _ _ => ?_
        rw [auth1Pending_eq]
        exact .ok _
  unfold handleAuth1
  cases ha : auth1Accept S serverSk records replay allowedRoles sid seq payload draws with
  | error e => exact .error (haccept e ha)
  | ok r => exact .ok _

theorem handleAuth3_sendable (pending : PendingAuth) (sid : SessionId) (seq : UInt32)
    (payload : List UInt8) : FailsWith Sendable (handleAuth3 pending sid seq payload) := by
  unfold handleAuth3
  refine .bind (orStop_sendable (Auth3.decode_fits _)) fun a3 _ => ?_
  refine .bind (.of_ensure fun _ => sendable_wire (by decide) _) fun _ _ => ?_
  exact buildPacket_sendable (by decide)

/-! ## Packets -/

/-- Two hexadecimal digits are two bytes. -/
theorem short_hexByte (b : UInt8) : Short (hexByte b) := by
  have hdigits : ∀ i < 16, ∀ j < 16, Short (String.ofList
      ["0123456789abcdef".toList.getD i '0', "0123456789abcdef".toList.getD j '0']) := by decide
  exact hdigits _ (by have := b.toNat_lt; omega) _ (Nat.mod_lt _ (by decide))

variable {Addr : Type}

/-- The errors of the stores fit. -/
structure Packet.StorageFits (pk : Packet Addr q G) : Prop where
  serverSk : FailsWith Fits pk.serverSk
  flush : FailsWith Fits pk.flush

section

variable (st : ServerState Addr G) (hdr : Header) (payload : List UInt8) {pk : Packet Addr q G}

theorem dispatchSetup1_sendable (h : pk.StorageFits) :
    FailsWith Sendable (dispatchSetup1 S st hdr payload pk).2 := by
  have hsend := handleSetup1_sendable S h.serverSk hdr.sessionId hdr.seq payload
    st.requirePairingToken pk.setup
  unfold dispatchSetup1
  split
  next e he => exact .error (hsend e he)
  next => exact .ok _

theorem dispatchSetup3_sendable (h : pk.StorageFits) :
    FailsWith Sendable (dispatchSetup3 S st hdr payload pk).2 := by
  unfold dispatchSetup3
  split
  next => exact .error (sendable_wire (by decide) _)
  next pending _ =>
    have hsend := handleSetup3_sendable S pending st.serverPub hdr.sessionId hdr.seq payload h.flush
    simp only []
    split
    next => exact .ok _
    next e he => exact .error (hsend e he)

theorem dispatchAuth1_sendable (h : pk.StorageFits) :
    FailsWith Sendable (dispatchAuth1 S st hdr payload pk).2 := by
  have hsend := handleAuth1_sendable S h.serverSk (pk.iterate st.registry.records) st.replay
    defaultAllowedRoles hdr.sessionId hdr.seq payload pk.auth
  unfold dispatchAuth1
  simp only []
  split
  next e he => exact .error (hsend e he)
  next => exact .ok _

omit [AddCommGroup G] [Module (ZMod q) G] [DecidableEq G] in
theorem dispatchAuth3_sendable : FailsWith Sendable (dispatchAuth3 st hdr payload).2 := by
  unfold dispatchAuth3
  split
  next => exact .error (sendable_wire (by decide) _)
  next pending _ =>
    have hsend := handleAuth3_sendable pending hdr.sessionId hdr.seq payload
    split
    next => exact .ok _
    next e he => exact .error (hsend e he)

/-- Every error of `dispatch_packet` fits a packet. -/
theorem respond_fits (h : pk.StorageFits) :
    FailsWith Sendable (respond S st hdr payload pk).2 := by
  unfold respond
  split
  next => exact dispatchSetup1_sendable S st hdr payload h
  split
  next => exact dispatchSetup3_sendable S st hdr payload h
  split
  next => exact dispatchAuth1_sendable S st hdr payload h
  split
  next => exact dispatchAuth3_sendable st hdr payload
  next => exact .error ⟨_, rfl, fits_append (by decide) (short_hexByte _) _⟩

end

/-- The response to an answer whose error fits is built. -/
theorem responseOf_ok (hdr : Header) {r : Except Stop (List UInt8)} (h : FailsWith Sendable r) :
    ∃ pkt, responseOf hdr r = .ok pkt := by
  cases r with
  | ok pkt => exact ⟨pkt, rfl⟩
  | error e =>
      obtain ⟨p, rfl, hfit⟩ := h e rfl
      exact ⟨_, buildError_eq_ok_iff.mpr ⟨hfit, rfl⟩⟩

/-- `dispatch_packet` builds its response, from any state. -/
theorem dispatchPacket_returns [DecidableEq Addr] (st : ServerState Addr G)
    {pk : Packet Addr q G} (h : pk.StorageFits) (stop : Stop) :
    (dispatchPacket S st pk).2 ≠ .panicked stop := by
  unfold dispatchPacket
  intro h'
  cases hparse : parsePacket pk.bytes with
  | error e =>
      rw [hparse] at h'
      cases h'
  | ok r =>
      simp only [hparse] at h'
      cases hc : cachedFor st r.1 pk.peer with
      | some pkt =>
          simp only [hc] at h'
          cases h'
      | none =>
          obtain ⟨pkt, hpkt⟩ := responseOf_ok r.1 (respond_fits S st r.1 r.2 h)
          simp only [hc, conclude, hpkt] at h'
          cases h'

end

end ZkArche.Rust
