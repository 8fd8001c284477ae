import ZkArche.Server.EnrollmentAtomicity

/-!
# Versions and flags

Both header decoders refuse versions below 0x02, and nobody else looks at the version or at
the flags of a packet.  So a packet with a higher version, or with reserved flags, is the
packet of version 0x02 without flags that has the same type, session, sequence number and
payload (`version_and_flags`).
-/

namespace ZkArche

/-- The packet with a header of version 0x02 and no flags. -/
def plain (hdr : Header) (payload : List UInt8) : List UInt8 :=
  frame hdr.pktType hdr.sessionId hdr.seq payload

namespace C

variable {q : ℕ} {G : Type} [AddCommGroup G] [Module (ZMod q) G] {S : Suite q G}

/-- A version below 0x02 is refused. -/
theorem authHeaderDecode_old {input : List UInt8} (h : input.getD 0 0 < minSupportedVersion) :
    ∃ e, authHeaderDecode input = .error e := by
  unfold authHeaderDecode
  split
  next => exact ⟨_, rfl⟩
  next =>
    exact ⟨.unsupportedVersion, if_pos h⟩

/-- The C server ignores the version and the flags. -/
theorem dispatch_plain (cap : ℕ) (cfg : ServerConfig) (st : ServerState) {job : Job}
    {hdr : Header} {payload : List UInt8} (hd : authHeaderDecode job.input = .ok (hdr, payload)) :
    (dispatch S cap cfg job).run st
      = (dispatch S cap cfg { job with input := plain hdr payload }).run st := by
  have hd' : authHeaderDecode { job with input := plain hdr payload }.input
      = .ok (Header.fresh hdr.pktType hdr.sessionId hdr.seq, payload) := authHeaderDecode_frame ..
  rw [dispatch_run st hd, dispatch_run st hd']
  rfl

end C

namespace Rust

variable {Addr : Type} [DecidableEq Addr] {q : ℕ} {G : Type} [AddCommGroup G]
  [Module (ZMod q) G] [DecidableEq G] {S : Suite q G}

/-- The Rust server ignores the version and the flags. -/
theorem dispatchPacket_plain (st : ServerState Addr G) {pk : Packet Addr q G} {hdr : Header}
    {payload : List UInt8} (hp : parsePacket pk.bytes = .ok (hdr, payload)) :
    dispatchPacket S st pk = dispatchPacket S st { pk with bytes := plain hdr payload } := by
  have hp' : parsePacket { pk with bytes := plain hdr payload }.bytes
      = .ok (Header.fresh hdr.pktType hdr.sessionId hdr.seq, payload) := parsePacket_frame ..
  simp only [dispatchPacket, hp, hp']
  rfl

end Rust

section

variable {q : ℕ} {G : Type} [AddCommGroup G] [Module (ZMod q) G] [DecidableEq G]

/-- A packet of a version below 0x02 gets no response and changes nothing, whatever the state.
A packet that either server does not refuse so is handled as the packet of version 0x02
without flags: same response, same state. -/
theorem version_and_flags (S : Suite q G) :
    (∀ (cap : ℕ) (cfg : C.ServerConfig) (st : C.ServerState) (job : C.Job),
      (job.input.getD 0 0 < minSupportedVersion →
        (C.dispatch S cap cfg job).run st = (st, [])) ∧
      ∀ hdr payload, C.authHeaderDecode job.input = .ok (hdr, payload) →
        (C.dispatch S cap cfg job).run st
          = (C.dispatch S cap cfg { job with input := plain hdr payload }).run st) ∧
    ∀ (Addr : Type) [DecidableEq Addr] (st : Rust.ServerState Addr G) (pk : Rust.Packet Addr q G),
      (pk.bytes.getD 0 0 < minSupportedVersion →
        Rust.dispatchPacket S st pk = (st, .dropped)) ∧
      ∀ hdr payload, Rust.parsePacket pk.bytes = .ok (hdr, payload) →
        Rust.dispatchPacket S st pk
          = Rust.dispatchPacket S st { pk with bytes := plain hdr payload } := by
  refine ⟨fun cap cfg st job => ⟨fun hold => ?_, fun hdr payload hd => ?_⟩,
    fun Addr _ st pk => ⟨fun hold => ?_, fun hdr payload hp => ?_⟩⟩
  · obtain ⟨e, he⟩ := C.authHeaderDecode_old hold
    exact C.dispatch_run_dropped st he
  · exact C.dispatch_plain cap cfg st hd
  · obtain ⟨e, he⟩ := C.authHeaderDecode_old hold
    cases hp : Rust.parsePacket pk.bytes with
    | error e' => simp only [Rust.dispatchPacket, hp]
    | ok v =>
        rw [Rust.parsePacket_eq_ok_iff.mp hp] at he
        cases he
  · exact Rust.dispatchPacket_plain st hp

end

/-! ## A packet of version 0x03 -/

/-- The SETUP_1 of the device with version 0x03 and a reserved flag. -/
def demoVersion3 : List UInt8 :=
  Header.bytes ⟨0x03, pktSetup1, 0x8000, byteString 15 7, 1⟩ ++
    C.Setup1.bytes ⟨[], byteString 31 1, byteString 31 3, byteString 31 9, byteString 31 4⟩

/-- Both servers answer it with a SETUP_2 and open a session. -/
theorem version_gating_fails :
    (pktTypeOf ((C.dispatch smallSuite 4 C.demoConfig (C.demoJob demoVersion3)).run
        ⟨[], C.authSessionTableInit 2, C.authReplayCacheInit⟩).2 = pktSetup2 ∧
      ((C.dispatch smallSuite 4 C.demoConfig (C.demoJob demoVersion3)).run
        ⟨[], C.authSessionTableInit 2, C.authReplayCacheInit⟩).1.sessions[0]? ≠ some .free) ∧
    ((Rust.serverStep smallSuite demoServer (demoPacket demoVersion3 (.ok ()))).2.reply.bind
        Rust.Reply.sent).map pktTypeOf = some pktSetup2 ∧
    ((Rust.serverStep smallSuite demoServer (demoPacket demoVersion3 (.ok ()))).1.setupSessions.lookup
      (byteString 15 7)).isSome = true := by
  decide +kernel

end ZkArche
