import ZkArche.Proto.ServerC

/-!
# What the handlers of the C server return

One lemma per handler says what an accepted message is and what the handler makes of it.
Callers use these and never unfold a handler.

The guard in front of AUTH_1 touches the replay cache only when it accepts
(`authServerHandleAuth1Guarded_cases`).
-/

namespace ZkArche.C

variable {q : ℕ} {G : Type} [AddCommGroup G] [Module (ZMod q) G] {S : Suite q G}

/-! ## SETUP -/

/-- An accepted SETUP_1 and the record kept for it. -/
theorem authServerHandleSetup1_ok {cfg : ServerConfig} {sid : SessionId} {seq : UInt32}
    {payload pkt : List UInt8} {draws : Setup2Draws} {outCap : ℕ} {p : PendingSetup}
    (h : authServerHandleSetup1 S cfg sid seq payload draws outCap = .ok (p, pkt)) :
    ∃ s1 proof, authSetup1Decode payload = .ok s1 ∧ tokenOk cfg s1.pairingToken = true ∧
      p = ⟨sid, s1.deviceId, s1.devicePub, s1.roleCommitment, s1.clientNonce, draws.nonce,
        draws.challenge, cfg.serverPub⟩ ∧
      pkt = frame pktSetup2 sid seq
        (Setup2.bytes ⟨draws.nonce, draws.challenge, cfg.serverPub, proof⟩) := by
  simp only [authServerHandleSetup1, authSetup2Encode, Except.bind_eq_ok_iff, ensure_eq_ok_iff,
    emit_eq_ok_iff, authPacketBuild_eq_ok_iff, Except.pure_eq_ok, Except.ok.injEq,
    Prod.mk.injEq] at h
  obtain ⟨s1, hd, -, ht, -, -, -, -, proof, -, _, ⟨-, rfl⟩, _, ⟨-, -, rfl⟩, rfl, rfl⟩ := h
  exact ⟨s1, proof, hd, ht, rfl, rfl⟩

theorem buildAck_eq_ok_iff {ty : UInt8} {sid : SessionId} {seq : UInt32} {outCap : ℕ}
    {pkt : List UInt8} :
    buildAck ty sid seq outCap = .ok pkt ↔
      headerLen + 1 ≤ outCap ∧ pkt = frame ty sid seq [ackByte] := by
  have hmax : (1 : ℕ) ≤ maxPayload := by decide
  simp [buildAck, authAckEncode, emit, authPacketBuild_eq_ok_iff, hmax]

/-- An accepted SETUP_3. -/
theorem authServerHandleSetup3_eq_ok_iff {p : PendingSetup} {sid : SessionId} {seq : UInt32}
    {payload pkt : List UInt8} {outCap : ℕ} :
    authServerHandleSetup3 S p sid seq payload outCap = .ok pkt ↔
      sid = p.sessionId ∧ (∃ s3, authSetup3Decode payload = .ok s3 ∧
        p.proves S s3.clientProof = true) ∧
      headerLen + 1 ≤ outCap ∧ pkt = frame pktSetupAck sid seq [ackByte] := by
  simp only [authServerHandleSetup3, Except.bind_eq_ok_iff, ensure_eq_ok_iff, buildAck_eq_ok_iff]
  constructor
  · rintro ⟨-, hsid, s3, hd, -, hp, hlen, hpkt⟩
    exact ⟨hsid, ⟨s3, hd, hp⟩, hlen, hpkt⟩
  · rintro ⟨hsid, ⟨s3, hd, hp⟩, hlen, hpkt⟩
    exact ⟨(), hsid, s3, hd, (), hp, hlen, hpkt⟩

/-! ## AUTH -/

/-- The confirmation a server derives for an AUTH_1. -/
def serverConfirmation (cfg : ServerConfig) (a1 : Auth1) (proof : SchnorrProof)
    (nonceS ephS shared : Bytes 32) : Confirmation :=
  ⟨⟨a1.pid, a1.clientProof.a, a1.clientProof.s, a1.nonceC, a1.ephC, cfg.serverPub, proof.a,
    proof.s, nonceS, ephS⟩, shared⟩

/-- The pending record of a confirmation. -/
def pendingOf (S : Suite q G) (sid : SessionId) (devicePub : Bytes 32) (c : Confirmation) :
    PendingAuth :=
  ⟨sid, devicePub, c.parts.pid, c.parts.nonceC, c.parts.nonceS, c.parts.ephC, c.parts.ephS,
    c.sessionKey S, c.th S, c.key S .s2c, c.key S .c2s⟩

/-- The AUTH_2 of a confirmation. -/
def auth2Of (S : Suite q G) (c : Confirmation) : Auth2 :=
  ⟨c.parts.serverPub, ⟨c.parts.aS, c.parts.sS⟩, c.parts.nonceS, c.parts.ephS, c.tag S .s2c⟩

/-- What the answer to an AUTH_1 consists of. -/
theorem auth1Respond_eq_ok_iff {cfg : ServerConfig} {sid : SessionId} {seq : UInt32}
    {devicePub : Bytes 32} {a1 : Auth1} {draws : Auth2Draws} {outCap : ℕ} {p : PendingAuth}
    {pkt : List UInt8} :
    auth1Respond S cfg sid seq devicePub a1 draws outCap = .ok (p, pkt) ↔
      headerLen + 192 ≤ outCap ∧
      ∃ ephS proof shared, authScalarmultBase S (authScalarFromWide q draws.eph) = .ok ephS ∧
        authProveAuthServer S draws.proof cfg.serverSk draws.nonce ephS = .ok proof ∧
        authScalarmult S (authScalarFromWide q draws.eph) a1.ephC = .ok shared ∧
        p = pendingOf S sid devicePub (serverConfirmation cfg a1 proof draws.nonce ephS shared) ∧
        pkt = frame pktAuth2 sid seq
          (auth2Of S (serverConfirmation cfg a1 proof draws.nonce ephS shared)).bytes := by
  have hmax : (192 : ℕ) ≤ maxPayload := by decide
  constructor
  · intro h
    simp only [auth1Respond, authAuth2Encode, Except.bind_eq_ok_iff, emit_eq_ok_iff,
      authPacketBuild_eq_ok_iff, authDeriveSessionKey_eq_ok_iff, Except.pure_eq_ok,
      Except.ok.injEq, Prod.mk.injEq] at h
    obtain ⟨ephS, he, proof, hp, key, ⟨shared, hs, rfl⟩, th, hth, payload, ⟨-, rfl⟩, pkt',
      ⟨-, hlen, rfl⟩, rfl, rfl⟩ := h
    rw [authKcTranscriptHash_eq S _ _ _ _ _ _ _ _ shared] at hth
    cases hth
    rw [Auth2.bytes_length] at hlen
    exact ⟨hlen, ephS, proof, shared, he, hp, hs, rfl, rfl⟩
  · rintro ⟨hlen, ephS, proof, shared, he, hp, hs, rfl, rfl⟩
    simp only [auth1Respond, authAuth2Encode, he, hp, Except.ok_bind', authDeriveSessionKey, hs,
      Except.pure_eq_ok, authKcTranscriptHash_eq S _ _ _ _ _ _ _ _ shared]
    rw [emit_eq_ok_iff.mpr ⟨by rw [Auth2.bytes_length]; exact hmax, rfl⟩, Except.ok_bind',
      authPacketBuild_eq_ok_iff.mpr
        ⟨by rw [Auth2.bytes_length]; exact hmax, by rw [Auth2.bytes_length]; exact hlen, rfl⟩]
    rfl

/-- A candidate device is verified by an AUTH_1. -/
structure Auth1Verifies (S : Suite q G) (cfg : ServerConfig) (devicePub storedC : Bytes 32)
    (a1 : Auth1) : Prop where
  ephC : authCheckPoint S a1.ephC = .ok ()
  cPrime : checkPointOrIdentity S a1.cPrime = .ok ()
  client : authVerifyAuthClient S a1.clientProof devicePub a1.pid a1.nonceC a1.ephC = true
  pid : authComputePid S devicePub a1.nonceC a1.ephC cfg.serverPub = a1.pid
  rerand : authVerifyRerandomization S a1.rerandProof storedC a1.cPrime a1.pid a1.nonceC a1.ephC
    = true
  role : authVerifyRoleSetMembership S a1.branches cfg.allowedRoles a1.cPrime a1.pid a1.nonceC
    a1.ephC = true

/-- An accepted AUTH_1. -/
theorem authServerHandleAuth1_eq_ok_iff {cfg : ServerConfig} {sid : SessionId} {seq : UInt32}
    {payload : List UInt8} {lookup : Except AuthErr (Bytes 32 × Bytes 32)} {draws : Auth2Draws}
    {outCap : ℕ} {r : PendingAuth × List UInt8} :
    authServerHandleAuth1 S cfg sid seq payload lookup draws outCap = .ok r ↔
      ∃ a1 devicePub storedC, authAuth1Decode payload = .ok a1 ∧
        lookup = .ok (devicePub, storedC) ∧ Auth1Verifies S cfg devicePub storedC a1 ∧
        auth1Respond S cfg sid seq devicePub a1 draws outCap = .ok r := by
  simp only [authServerHandleAuth1, Except.bind_eq_ok_iff, ensure_eq_ok_iff, Prod.exists]
  constructor
  · rintro ⟨a1, hd, ⟨⟩, he, ⟨⟩, hc, pub, rc, hl, -, h1, -, h2, -, h3, -, h4, hr⟩
    exact ⟨a1, pub, rc, hd, hl, ⟨he, hc, h1, h2, h3, h4⟩, hr⟩
  · rintro ⟨a1, pub, rc, hd, hl, hv, hr⟩
    exact ⟨a1, hd, (), hv.ephC, (), hv.cPrime, pub, rc, hl, (), hv.client, (), hv.pid, (),
      hv.rerand, (), hv.role, hr⟩

/-- An accepted AUTH_3. -/
theorem authServerHandleAuth3_eq_ok_iff {p : PendingAuth} {sid : SessionId} {seq : UInt32}
    {payload pkt : List UInt8} {outCap : ℕ} :
    authServerHandleAuth3 S p sid seq payload outCap = .ok pkt ↔
      sid = p.sessionId ∧ payload = (p.tagC S).val ∧ headerLen + 1 ≤ outCap ∧
        pkt = frame pktAuthAck sid seq [ackByte] := by
  simp only [authServerHandleAuth3, Except.bind_eq_ok_iff, ensure_eq_ok_iff, buildAck_eq_ok_iff]
  constructor
  · rintro ⟨-, hsid, a3, hd, -, ht, hlen, hpkt⟩
    refine ⟨hsid, ?_, hlen, hpkt⟩
    rw [ht, ← Auth3.bytes_of_decode hd]
    rfl
  · rintro ⟨hsid, rfl, hlen, hpkt⟩
    exact ⟨(), hsid, ⟨p.tagC S⟩, Auth3.decode_bytes ⟨p.tagC S⟩, (), rfl, hlen, hpkt⟩

/-! ## The replay guard -/

/-- The replay key of an AUTH_1 payload. -/
def payloadKey (S : Suite q G) (payload : List UInt8) : Option ReplayKey :=
  match authAuth1Decode payload with
  | .ok a1 => some (authReplayKey S a1.pid a1.nonceC a1.ephC)
  | .error _ => none

/-- The guard refuses and leaves the cache alone, or accepts a key it did not hold and
inserts it. -/
theorem authServerHandleAuth1Guarded_cases (cap : ℕ) (cache : ReplayCache) (cfg : ServerConfig)
    (sid : SessionId) (seq : UInt32) (payload : List UInt8)
    (lookup : Except AuthErr (Bytes 32 × Bytes 32)) (draws : Auth2Draws) (outCap : ℕ) :
    (∃ e, authServerHandleAuth1Guarded S cap cache cfg sid seq payload lookup draws outCap
      = (cache, .error e)) ∨
    ∃ key r, payloadKey S payload = some key ∧ authReplayCacheContains cache key = false ∧
      authServerHandleAuth1 S cfg sid seq payload lookup draws outCap = .ok r ∧
      authServerHandleAuth1Guarded S cap cache cfg sid seq payload lookup draws outCap
        = ((authReplayCacheInsert cap cache key).1, .ok r) := by
  unfold authServerHandleAuth1Guarded payloadKey
  cases hd : authAuth1Decode payload with
  | error e => exact .inl ⟨e, rfl⟩
  | ok a1 =>
      dsimp only
      cases hk : authReplayCacheContains cache (authReplayKey S a1.pid a1.nonceC a1.ephC) with
      | true => exact .inl ⟨.replayDetected, by simp⟩
      | false =>
          cases hr : authServerHandleAuth1 S cfg sid seq payload lookup draws outCap with
          | error e => exact .inl ⟨e, by simp⟩
          | ok r =>
              refine .inr ⟨_, r, rfl, hk, rfl, ?_⟩
              -- the key is new, so the insertion reports success
              have hnew := ReplayCache.insert_snd cap hk
              simp only [if_neg (show ¬ false = true by decide)]
              generalize hins : authReplayCacheInsert cap cache
                (authReplayKey S a1.pid a1.nonceC a1.ephC) = ins at hnew ⊢
              obtain ⟨cache', b⟩ := ins
              dsimp only at hnew
              subst hnew
              rfl

end ZkArche.C
