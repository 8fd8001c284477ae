import ZkArche.Proto.ServerRust

/-!
# What the handlers of the Rust server return

One lemma per handler says what an accepted message is and what the handler makes of it.
Callers use these and never unfold a handler.  No handler panics: the packets it builds are
small.

`handle_auth_1` touches the replay cache only when it accepts (`handleAuth1_cases`).
-/

namespace ZkArche.Rust

variable {q : ℕ} {G : Type} [AddCommGroup G] [Module (ZMod q) G] {S : Suite q G}
  [DecidableEq G]

/-! ## SETUP -/

/-- The record kept for an accepted SETUP_1. -/
def setupPending (S : Suite q G) (sk : ZMod q) (sid : SessionId) (seq : UInt32) (s1 : Setup1 G)
    (draws : Setup2Draws) : PendingSetup G :=
  let challenge := draws.challenge.cut 0 16 half_fits
  let proof := proveSetupServer S draws.proof sk
    ⟨s1.deviceId, s1.devicePub, sk • S.base, s1.clientNonce, draws.nonce, challenge⟩
  ⟨sid, s1.deviceId, s1.devicePub, s1.clientNonce, draws.nonce, challenge, s1.roleCommitment,
    frame pktSetup2 sid seq (Setup2.encode S ⟨draws.nonce, challenge, sk • S.base, proof⟩)⟩

/-- An accepted SETUP_1. -/
theorem handleSetup1_eq_ok_iff {serverSk : Except ProtoError (ZMod q)} {sid : SessionId}
    {seq : UInt32} {payload : List UInt8} {required : Option (List UInt8)} {draws : Setup2Draws}
    {p : PendingSetup G} :
    handleSetup1 S serverSk sid seq payload required draws = .ok p ↔
      ∃ s1 sk, Setup1.decode S payload = .ok s1 ∧ tokenOk required s1 = true ∧
        serverSk = .ok sk ∧ p = setupPending S sk sid seq s1 draws := by
  have hlen : ∀ m : Setup2 q G, (m.encode S).length ≤ maxPayload := by
    intro m
    simp [Setup2.encode, maxPayload, maxDatagram, headerLen]
  simp only [handleSetup1, Except.bind_eq_ok_iff, ensure_eq_ok_iff, orStop_eq_ok_iff,
    buildPacket_eq_ok_iff, hlen, true_and, Except.pure_eq_ok, Except.ok.injEq]
  constructor
  · rintro ⟨s1, hd, -, ht, sk, hsk, pkt, rfl, rfl⟩
    exact ⟨s1, sk, hd, ht, hsk, rfl⟩
  · rintro ⟨s1, sk, hd, ht, hsk, rfl⟩
    exact ⟨s1, hd, (), ht, sk, hsk, _, rfl, rfl⟩

/-- A SETUP_3 that proves possession of the pending key. -/
theorem setup3Check_eq_ok_iff {p : PendingSetup G} {serverPub : G} {payload : List UInt8} :
    setup3Check S p serverPub payload = .ok () ↔
      ∃ s3 : Setup3 q G, Setup3.decode S payload = .ok s3 ∧
        verifySetupClient S (p.binding serverPub) s3.clientProof = true := by
  simp only [setup3Check, Except.bind_eq_ok_iff, orStop_eq_ok_iff, ensure_eq_ok_iff]

theorem buildAck_eq (ty : UInt8) (sid : SessionId) (seq : UInt32) :
    buildPacket ty sid seq encodeAck = .ok (frame ty sid seq [ackByte]) :=
  buildPacket_eq_ok_iff.mpr ⟨by decide, rfl⟩

/-- A SETUP_3 is refused and saves nothing, or it saves the pending record and is
acknowledged when the file is written. -/
theorem handleSetup3_cases (p : PendingSetup G) (serverPub : G) (sid : SessionId) (seq : UInt32)
    (payload : List UInt8) (flush : Except ProtoError Unit) :
    (∃ e, handleSetup3 S p serverPub sid seq payload flush = (none, .error e)) ∨
    (setup3Check S p serverPub payload = .ok () ∧
      ((∃ e, flush = .error e ∧ handleSetup3 S p serverPub sid seq payload flush
          = (some (p.deviceId, p.record), .error (.err e))) ∨
        (flush = .ok () ∧ handleSetup3 S p serverPub sid seq payload flush
          = (some (p.deviceId, p.record), .ok (frame pktSetupAck sid seq [ackByte]))))) := by
  unfold handleSetup3
  cases hc : setup3Check S p serverPub payload with
  | error e => exact .inl ⟨e, rfl⟩
  | ok u =>
      refine .inr ⟨rfl, ?_⟩
      cases flush with
      | error e => exact .inl ⟨e, rfl, rfl⟩
      | ok u =>
          refine .inr ⟨rfl, ?_⟩
          simp only [orStop, Except.ok_bind', buildAck_eq]

/-! ## AUTH -/

/-- The confirmation the server derives for an AUTH_1. -/
def serverConfirmation (S : Suite q G) (sk : ZMod q) (a1 : Auth1 q G) (draws : Auth2Draws) :
    Confirmation :=
  let ephS := (scalarOf draws.eph : ZMod q) • S.base
  let proof := proveAuthServer S draws.proof sk draws.nonce ephS
  ⟨KcTranscriptParts.encode S ⟨a1.pid, a1.clientProof.a, a1.clientProof.s, a1.nonceC, a1.ephC,
    sk • S.base, proof.a, proof.s, draws.nonce, ephS⟩,
    S.encPoint ((scalarOf draws.eph : ZMod q) • a1.ephC)⟩

/-- The record kept for an accepted AUTH_1. -/
def pendingOf (S : Suite q G) (sid : SessionId) (seq : UInt32) (deviceId : Bytes 32)
    (c : Confirmation) : PendingAuth :=
  ⟨sid, c.parts.pid, deviceId, c.tag S .c2s, frame pktAuth2 sid seq (C.Auth2.bytes
    ⟨c.parts.serverPub, ⟨c.parts.aS, c.parts.sS⟩, c.parts.nonceS, c.parts.ephS, c.tag S .s2c⟩)⟩

omit [DecidableEq G] in
theorem auth1Pending_eq (sk : ZMod q) (deviceId : Bytes 32) (sid : SessionId) (seq : UInt32)
    (a1 : Auth1 q G) (draws : Auth2Draws) :
    auth1Pending S sk deviceId sid seq a1 draws
      = .ok (pendingOf S sid seq deviceId (serverConfirmation S sk a1 draws)) := by
  have hlen : ∀ m : Auth2 q G, (m.encode S).length ≤ maxPayload := by
    intro m
    simp [Auth2.encode, maxPayload, maxDatagram, headerLen]
  simp only [auth1Pending]
  rw [buildPacket_eq_ok_iff.mpr ⟨hlen _, rfl⟩]
  rfl

/-- A registered device is verified by an AUTH_1. -/
structure Auth1Verifies (S : Suite q G) (records : List (Bytes 32 × DeviceRecord G))
    (serverPub : G) (allowedRoles : List UInt64) (a1 : Auth1 q G) (deviceId : Bytes 32)
    (rec : DeviceRecord G) : Prop where
  found : findDevice S records serverPub a1 = some (deviceId, rec)
  client : verifyAuthClient S rec.pubkey a1.pid a1.nonceC a1.ephC a1.clientProof = true
  rerand : verifyRerandomization S rec.roleCommitment a1.cPrime a1.pid a1.nonceC a1.ephC
    a1.rerandProof = true
  role : verifyRoleSetMembership S ⟨allowedRoles, a1.cPrime, a1.pid, a1.nonceC, a1.ephC⟩
    a1.branches = true

/-- An accepted AUTH_1. -/
theorem auth1Accept_eq_ok_iff {serverSk : Except ProtoError (ZMod q)}
    {records : List (Bytes 32 × DeviceRecord G)} {replay : MemoryReplayCache}
    {allowedRoles : List UInt64} {sid : SessionId} {seq : UInt32} {payload : List UInt8}
    {draws : Auth2Draws} {r : ReplayKey × PendingAuth} :
    auth1Accept S serverSk records replay allowedRoles sid seq payload draws = .ok r ↔
      ∃ a1 sk deviceId rec, Auth1.decode S payload = .ok a1 ∧
        replay.contains (replayKey S a1.pid a1.nonceC a1.ephC) = false ∧ serverSk = .ok sk ∧
        Auth1Verifies S records (sk • S.base) allowedRoles a1 deviceId rec ∧
        r = (replayKey S a1.pid a1.nonceC a1.ephC,
          pendingOf S sid seq deviceId (serverConfirmation S sk a1 draws)) := by
  simp only [auth1Accept, Except.bind_eq_ok_iff, orStop_eq_ok_iff, ensure_eq_ok_iff]
  constructor
  · rintro ⟨a1, hd, -, hk, sk, hsk, h⟩
    split at h
    next => cases h
    next deviceId rec hf =>
      simp only [Except.bind_eq_ok_iff, ensure_eq_ok_iff, auth1Pending_eq, Except.ok.injEq,
        Except.pure_eq_ok] at h
      obtain ⟨-, h1, -, h2, -, h3, p, rfl, rfl⟩ := h
      exact ⟨a1, sk, deviceId, rec, hd, hk, hsk, ⟨hf, h1, h2, h3⟩, rfl⟩
  · rintro ⟨a1, sk, deviceId, rec, hd, hk, hsk, ⟨hf, h1, h2, h3⟩, rfl⟩
    refine ⟨a1, hd, (), hk, sk, hsk, ?_⟩
    simp only [hf, Except.bind_eq_ok_iff, ensure_eq_ok_iff, auth1Pending_eq, Except.ok.injEq,
      Except.pure_eq_ok]
    exact ⟨(), h1, (), h2, (), h3, _, rfl, rfl⟩

/-- The replay key of an AUTH_1 payload. -/
def payloadKey (S : Suite q G) (payload : List UInt8) : Option ReplayKey :=
  match Auth1.decode S payload with
  | .ok a1 => some (replayKey S a1.pid a1.nonceC a1.ephC)
  | .error _ => none

/-- An AUTH_1 is refused and leaves the cache alone, or it is accepted with a key that the
cache did not hold, which is inserted. -/
theorem handleAuth1_cases (serverSk : Except ProtoError (ZMod q))
    (records : List (Bytes 32 × DeviceRecord G)) (replay : MemoryReplayCache)
    (allowedRoles : List UInt64) (sid : SessionId) (seq : UInt32) (payload : List UInt8)
    (draws : Auth2Draws) :
    (∃ e, handleAuth1 S serverSk records replay allowedRoles sid seq payload draws
      = (replay, .error e)) ∨
    ∃ key p, payloadKey S payload = some key ∧ replay.contains key = false ∧
      auth1Accept S serverSk records replay allowedRoles sid seq payload draws = .ok (key, p) ∧
      handleAuth1 S serverSk records replay allowedRoles sid seq payload draws
        = ((replay.insert key).1, .ok p) := by
  unfold handleAuth1
  cases ha : auth1Accept S serverSk records replay allowedRoles sid seq payload draws with
  | error e => exact .inl ⟨e, rfl⟩
  | ok r =>
      obtain ⟨a1, sk, deviceId, rec, hd, hk, -, -, rfl⟩ := auth1Accept_eq_ok_iff.mp ha
      refine .inr ⟨_, _, ?_, hk, rfl, rfl⟩
      simp only [payloadKey, hd]

/-- An accepted AUTH_3. -/
theorem handleAuth3_eq_ok_iff {p : PendingAuth} {sid : SessionId} {seq : UInt32}
    {payload pkt : List UInt8} :
    handleAuth3 p sid seq payload = .ok pkt ↔
      payload = p.expectedTagC.val ∧ pkt = frame pktAuthAck sid seq [ackByte] := by
  simp only [handleAuth3, Except.bind_eq_ok_iff, orStop_eq_ok_iff, ensure_eq_ok_iff,
    buildAck_eq, Except.ok.injEq, Auth3.decode_eq_ok_iff]
  constructor
  · rintro ⟨a3, rfl, -, ht, rfl⟩
    exact ⟨by rw [← ht]; rfl, rfl⟩
  · rintro ⟨rfl, rfl⟩
    exact ⟨⟨p.expectedTagC⟩, rfl, (), rfl, rfl⟩

end ZkArche.Rust
