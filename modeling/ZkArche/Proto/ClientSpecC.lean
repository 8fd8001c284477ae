import ZkArche.Proto.ClientC

/-!
# What the calls of the C client do

One lemma per function says everything a call can do to the context.  The two handlers
that write before they can fail get an explicit list of their outcomes
(`authClientHandleSetup2_cases`, `authClientHandleAuth2_cases`).

The second half says what calls leave alone.  Completion is written by `auth_ctx_init` and
`auth_handle_auth_ack` only, the session identifier by `auth_ctx_init` only, and the
confirmation state by `auth_handle_auth2` only.
-/

namespace ZkArche.C

variable {q : ℕ} {G : Type} [AddCommGroup G] [Module (ZMod q) G] (S : Suite q G)

/-- A packet is expected exactly when its header has the type. -/
theorem expectPacket_eq_ok_iff {pktType : UInt8} (ht : pktType ≠ pktError) {input : List UInt8}
    {hdr : Header} {payload : List UInt8} :
    expectPacket pktType input = .ok (hdr, payload) ↔
      authHeaderDecode input = .ok (hdr, payload) ∧ hdr.pktType = pktType := by
  simp only [expectPacket, Except.bind_eq_ok_iff, Prod.exists]
  constructor
  · rintro ⟨hdr', payload', hd, h⟩
    split at h
    next => cases h
    next =>
      split at h
      next => cases h
      next hty =>
        cases h
        exact ⟨hd, not_not.mp hty⟩
  · rintro ⟨hd, hty⟩
    refine ⟨hdr, payload, hd, ?_⟩
    rw [if_neg (by rw [hty]; exact ht), if_neg (not_not.mpr hty)]
    rfl

/-! ## SETUP_2 -/

/-- The context with the server key pinned. -/
def ClientCtx.pin (ctx : ClientCtx) (serverPub : Bytes 32) : ClientCtx :=
  { ctx with serverPubPinned := serverPub, hasPinnedServer := true }

/-- The server proof of a SETUP_2 verifies for this client. -/
def ClientCtx.provesSetup (ctx : ClientCtx) (s2 : Setup2) : Bool :=
  authVerifySetupServer S s2.serverProof s2.serverPub ctx.deviceId ctx.devicePub
    ctx.clientNonce s2.serverNonce s2.setupChallenge

/-- The outcomes of `auth_client_handle_setup2` that leave the context alone, and the one
that pins a key whose proof fails.  What is left is success. -/
theorem authClientHandleSetup2_cases (ctx : ClientCtx) (input : List UInt8) (tofu : Bool) :
    (∃ e, authClientHandleSetup2 S ctx input tofu = (ctx, .error e) ∧
      ¬ (ctx.hasPinnedServer = false ∧ tofu = true ∧
        ∃ s2, setup2Checks S ctx input = .ok s2 ∧ ctx.provesSetup S s2 = false)) ∨
    (∃ s2, setup2Checks S ctx input = .ok s2 ∧ ctx.hasPinnedServer = false ∧ tofu = true ∧
      ctx.provesSetup S s2 = false ∧
      authClientHandleSetup2 S ctx input tofu = (ctx.pin s2.serverPub, .error .proofVerify)) ∨
    ∃ s2, setup2Checks S ctx input = .ok s2 ∧ ctx.provesSetup S s2 = true ∧
      (authClientHandleSetup2 S ctx input tofu).2 = .ok () := by
  unfold authClientHandleSetup2
  cases hc : setup2Checks S ctx input with
  | error e =>
      refine .inl ⟨e, rfl, ?_⟩
      rintro ⟨-, -, s2, h, -⟩
      cases h
  | ok s2 =>
      have hproof : ∀ b, authVerifySetupServer S s2.serverProof s2.serverPub ctx.deviceId
          ctx.devicePub ctx.clientNonce s2.serverNonce s2.setupChallenge = b →
          ctx.provesSetup S s2 = b := fun b h => h
      cases hpin : ctx.hasPinnedServer with
      | true =>
          simp only [if_true]
          by_cases hkey : ctx.serverPubPinned = s2.serverPub
          · cases hv : ctx.provesSetup S s2 with
            | true =>
                refine .inr (.inr ⟨s2, rfl, hv, ?_⟩)
                rw [if_neg (not_not.mpr hkey), setup2Verify]
                rw [ClientCtx.provesSetup] at hv
                rw [if_pos hv]
            | false =>
                refine .inl ⟨.proofVerify, ?_, by simp⟩
                rw [if_neg (not_not.mpr hkey), setup2Verify]
                rw [ClientCtx.provesSetup] at hv
                simp [hv]
          · refine .inl ⟨.peerKeyMismatch, ?_, by simp⟩
            rw [if_pos hkey]
      | false =>
          cases tofu with
          | false => exact .inl ⟨.peerKeyMismatch, by simp, by simp⟩
          | true =>
              cases hv : ctx.provesSetup S s2 with
              | true =>
                  refine .inr (.inr ⟨s2, rfl, hv, ?_⟩)
                  rw [ClientCtx.provesSetup] at hv
                  simp [setup2Verify, hv]
              | false =>
                  refine .inr (.inl ⟨s2, rfl, rfl, rfl, hv, ?_⟩)
                  rw [ClientCtx.provesSetup] at hv
                  simp [setup2Verify, hv, ClientCtx.pin]

/-! ## AUTH_2 -/

/-- The pseudonym of the session the context is in. -/
def ClientCtx.pid (ctx : ClientCtx) : Bytes 32 :=
  authComputePid S ctx.devicePub ctx.clientNonce ctx.ephC ctx.serverPubPinned

/-- The confirmation a client derives from its context and an AUTH_2. -/
def ClientCtx.confirmation (ctx : ClientCtx) (a2 : Auth2) (shared : Bytes 32) : Confirmation :=
  ⟨⟨ctx.pid S, ctx.pendingClientProof.a, ctx.pendingClientProof.s, ctx.clientNonce, ctx.ephC,
    a2.serverPub, a2.serverProof.a, a2.serverProof.s, a2.nonceS, a2.ephS⟩, shared⟩

/-- The context with the keys of a confirmation written into it. -/
def ClientCtx.confirm (ctx : ClientCtx) (c : Confirmation) : ClientCtx :=
  { ctx with
    sessionKey := c.sessionKey S
    kcTh := c.th S
    kcKS2c := c.key S .s2c
    kcKC2s := c.key S .c2s }

/-- The outcomes of `auth_client_handle_auth2`: a check fails, the shared point is refused,
or the derived keys are written and the tag decides. -/
theorem authClientHandleAuth2_cases (ctx : ClientCtx) (input : List UInt8) :
    (∃ e, authClientHandleAuth2 S ctx input = (ctx, .error e) ∧
      ∀ a2 shared, auth2Checks S ctx input = .ok a2 →
        authScalarmult S ctx.ephSecret a2.ephS ≠ .ok shared) ∨
    ∃ a2 shared, auth2Checks S ctx input = .ok a2 ∧
      authScalarmult S ctx.ephSecret a2.ephS = .ok shared ∧
      authClientHandleAuth2 S ctx input
        = (ctx.confirm S (ctx.confirmation S a2 shared),
            if (ctx.confirmation S a2 shared).tag S .s2c = a2.tagS then .ok ()
            else .error .keyConfirm) := by
  unfold authClientHandleAuth2
  cases hc : auth2Checks S ctx input with
  | error e =>
      refine .inl ⟨e, rfl, ?_⟩
      intro a2 shared h
      cases h
  | ok a2 =>
      cases hm : authScalarmult S ctx.ephSecret a2.ephS with
      | error e =>
          refine .inl ⟨e, ?_, ?_⟩
          · simp [authDeriveSessionKey, hm]
          · intro a2' shared h
            cases h
            rw [hm]
            exact fun h => by cases h
      | ok shared =>
          refine .inr ⟨a2, shared, rfl, hm, ?_⟩
          simp only [authDeriveSessionKey, hm, Except.ok_bind', Except.pure_eq_ok,
            authKcTranscriptHash_eq S _ _ _ _ _ _ _ _ shared]
          show (if (ctx.confirmation S a2 shared).tag S .s2c = a2.tagS
              then (ctx.confirm S (ctx.confirmation S a2 shared), Except.ok ())
              else (ctx.confirm S (ctx.confirmation S a2 shared), .error AuthErr.keyConfirm)) = _
          split <;> rfl

/-! ## AUTH_1 and AUTH_3 -/

theorem sendPacket_eq_ok {ctx ctx' : ClientCtx} {ty : UInt8}
    {payload : Except AuthErr (List UInt8)} {cap : ℕ} {pkt : List UInt8}
    (h : sendPacket ctx ty payload cap = (ctx', .ok pkt)) :
    ∃ p, payload = .ok p ∧ ctx' = { ctx with seq := ctx.seq + 1 } ∧
      pkt = frame ty ctx.sessionId (ctx.seq + 1) p := by
  cases payload with
  | error e => cases h
  | ok p =>
      simp only [sendPacket, Prod.mk.injEq, authPacketBuild_eq_ok_iff] at h
      obtain ⟨rfl, -, -, rfl⟩ := h
      exact ⟨p, rfl, rfl, rfl⟩

/-- An AUTH_1 that is sent is what the context remembers of it. -/
theorem authClientBuildAuth1_eq_ok {ctx ctx' : ClientCtx} {roles : List UInt64}
    {draws : Auth1Draws} {cap : ℕ} {pkt : List UInt8}
    (h : authClientBuildAuth1 S ctx roles draws cap = (ctx', .ok pkt)) :
    ∃ a1 : Auth1, pkt = frame pktAuth1 ctx'.sessionId ctx'.seq a1.bytes ∧
      a1.branches.length ≤ maxRoles ∧ a1.pid = ctx'.pid S ∧
      a1.clientProof = ctx'.pendingClientProof ∧ a1.nonceC = ctx'.clientNonce ∧
      a1.ephC = ctx'.ephC ∧ ctx'.hasPinnedServer = true := by
  unfold authClientBuildAuth1 at h
  split at h
  next => cases h
  next hpin =>
    split at h
    next => cases h
    split at h
    next => cases h
    dsimp only at h
    split at h
    next => cases h
    split at h
    next => cases h
    split at h
    next => cases h
    split at h
    next => cases h
    next a1 ha1 =>
      obtain ⟨p, hp, rfl, rfl⟩ := sendPacket_eq_ok h
      simp only [auth1Message, Except.bind_eq_ok_iff, Except.pure_eq_ok, Except.ok.injEq] at ha1
      obtain ⟨rerand, -, branches, -, rfl⟩ := ha1
      simp only [authAuth1Encode, Except.bind_eq_ok_iff, emit_eq_ok_iff, ensure_eq_ok_iff] at hp
      obtain ⟨-, hlen, -, rfl⟩ := hp
      exact ⟨_, rfl, hlen, rfl, rfl, rfl, rfl, not_not.mp hpin⟩

/-- The tag a client answers with. -/
def ClientCtx.tagC (ctx : ClientCtx) : Bytes 32 :=
  authHmacTag S ctx.kcKC2s (ascii "client finished") ctx.kcTh

/-! ## What calls leave alone -/

/-- The part of the context that decides completion. -/
def ClientCtx.phase (ctx : ClientCtx) : SessionId × Bool := (ctx.sessionId, ctx.authComplete)

/-- What a client holds of the AUTH_1 it sent, and of the identities on both sides. -/
def ClientCtx.sent (ctx : ClientCtx) :
    Bytes 32 × Bytes 32 × Bytes 32 × Bytes 32 × SchnorrProof :=
  (ctx.devicePub, ctx.clientNonce, ctx.ephSecret, ctx.ephC, ctx.pendingClientProof)

theorem sendPacket_fst (ctx : ClientCtx) (ty : UInt8) (payload : Except AuthErr (List UInt8))
    (cap : ℕ) : ∃ seq, (sendPacket ctx ty payload cap).1 = { ctx with seq := seq } := by
  cases payload with
  | error e => exact ⟨ctx.seq, rfl⟩
  | ok payload => exact ⟨ctx.seq + 1, rfl⟩

/-- Everything `auth_client_build_setup1` may write. -/
theorem authClientBuildSetup1_fst (ctx : ClientCtx) (token : List UInt8) (draws : Setup1Draws)
    (cap : ℕ) : ∃ nonce code blind c has seq,
      (authClientBuildSetup1 S ctx token draws cap).1 = { ctx with
        clientNonce := nonce
        roleCode := code
        roleBlind := blind
        roleCommitment := c
        hasRole := has
        seq := seq } := by
  unfold authClientBuildSetup1
  split
  next => exact ⟨ctx.clientNonce, ctx.roleCode, ctx.roleBlind, ctx.roleCommitment, ctx.hasRole,
    ctx.seq, rfl⟩
  next =>
    have hrole : ∃ code blind c has,
        (sampleRole S { ctx with clientNonce := draws.nonce } draws.blind).1 = { ctx with
          clientNonce := draws.nonce
          roleCode := code
          roleBlind := blind
          roleCommitment := c
          hasRole := has } := by
      unfold sampleRole
      split
      next => exact ⟨ctx.roleCode, ctx.roleBlind, ctx.roleCommitment, ctx.hasRole, rfl⟩
      next =>
        dsimp only
        split
        next => exact ⟨_, _, ctx.roleCommitment, ctx.hasRole, rfl⟩
        next c _ => exact ⟨_, _, c, true, rfl⟩
    obtain ⟨code, blind, c, has, hrole⟩ := hrole
    split
    next ctx' e h =>
      rw [h] at hrole
      exact ⟨draws.nonce, code, blind, c, has, ctx.seq, hrole⟩
    next ctx' h =>
      rw [h] at hrole
      dsimp only at hrole
      subst hrole
      obtain ⟨seq, hs⟩ := sendPacket_fst { ctx with
        clientNonce := draws.nonce
        roleCode := code
        roleBlind := blind
        roleCommitment := c
        hasRole := has } pktSetup1 (authSetup1Encode ⟨token, ctx.deviceId, ctx.devicePub,
          draws.nonce, c⟩ maxPayload) cap
      exact ⟨draws.nonce, code, blind, c, has, seq, hs⟩

/-- Everything `auth_client_build_auth1` may write. -/
theorem authClientBuildAuth1_fst (ctx : ClientCtx) (roles : List UInt64) (draws : Auth1Draws)
    (cap : ℕ) : ∃ nonce secret eph proof seq,
      (authClientBuildAuth1 S ctx roles draws cap).1 = { ctx with
        clientNonce := nonce
        ephSecret := secret
        ephC := eph
        pendingClientProof := proof
        seq := seq } := by
  unfold authClientBuildAuth1
  split
  next => exact ⟨ctx.clientNonce, ctx.ephSecret, ctx.ephC, ctx.pendingClientProof, ctx.seq, rfl⟩
  split
  next => exact ⟨ctx.clientNonce, ctx.ephSecret, ctx.ephC, ctx.pendingClientProof, ctx.seq, rfl⟩
  split
  next => exact ⟨ctx.clientNonce, ctx.ephSecret, ctx.ephC, ctx.pendingClientProof, ctx.seq, rfl⟩
  dsimp only
  split
  next => exact ⟨draws.nonce, _, Bytes.zero 32, ctx.pendingClientProof, ctx.seq, rfl⟩
  next ephC _ =>
    split
    next => exact ⟨draws.nonce, _, ephC, ctx.pendingClientProof, ctx.seq, rfl⟩
    next =>
      split
      next => exact ⟨draws.nonce, _, ephC, ctx.pendingClientProof, ctx.seq, rfl⟩
      next proof _ =>
        split
        next => exact ⟨draws.nonce, _, ephC, proof, ctx.seq, rfl⟩
        next a1 _ =>
          obtain ⟨seq, hs⟩ := sendPacket_fst { ctx with
            clientNonce := draws.nonce
            ephSecret := authScalarFromWide q draws.eph
            ephC := ephC
            pendingClientProof := proof } pktAuth1 (authAuth1Encode a1 maxPayload) cap
          exact ⟨draws.nonce, _, ephC, proof, seq, hs⟩

/-- Everything `auth_client_handle_setup2` may write. -/
theorem authClientHandleSetup2_fst (ctx : ClientCtx) (input : List UInt8) (tofu : Bool) :
    ∃ pinned has pub nonce chal,
      (authClientHandleSetup2 S ctx input tofu).1 = { ctx with
        serverPubPinned := pinned
        hasPinnedServer := has
        pendingServerPub := pub
        pendingServerNonce := nonce
        pendingSetupChallenge := chal } := by
  have hverify : ∀ (ctx' : ClientCtx) (s2 : Setup2), ∃ pub nonce chal,
      (setup2Verify S ctx' s2).1 = { ctx' with
        pendingServerPub := pub
        pendingServerNonce := nonce
        pendingSetupChallenge := chal } := by
    intro ctx' s2
    unfold setup2Verify
    split
    next => exact ⟨_, _, _, rfl⟩
    next => exact ⟨ctx'.pendingServerPub, ctx'.pendingServerNonce, ctx'.pendingSetupChallenge,
      rfl⟩
  have hsame : ∃ pinned has pub nonce chal, ctx = { ctx with
      serverPubPinned := pinned
      hasPinnedServer := has
      pendingServerPub := pub
      pendingServerNonce := nonce
      pendingSetupChallenge := chal } :=
    ⟨ctx.serverPubPinned, ctx.hasPinnedServer, ctx.pendingServerPub, ctx.pendingServerNonce,
      ctx.pendingSetupChallenge, rfl⟩
  unfold authClientHandleSetup2
  split
  next => exact hsame
  next s2 _ =>
    split
    next =>
      split
      next => exact hsame
      next =>
        obtain ⟨pub, nonce, chal, h⟩ := hverify ctx s2
        exact ⟨ctx.serverPubPinned, ctx.hasPinnedServer, pub, nonce, chal, h⟩
    next =>
      split
      next => exact hsame
      next =>
        obtain ⟨pub, nonce, chal, h⟩ := hverify
          { ctx with serverPubPinned := s2.serverPub, hasPinnedServer := true } s2
        exact ⟨s2.serverPub, true, pub, nonce, chal, h⟩

theorem authClientBuildSetup3_fst (ctx : ClientCtx) (wide : Bytes 64) (cap : ℕ) :
    ∃ seq, (authClientBuildSetup3 S ctx wide cap).1 = { ctx with seq := seq } := by
  unfold authClientBuildSetup3
  dsimp only
  split
  next => exact ⟨ctx.seq, rfl⟩
  next => exact sendPacket_fst _ _ _ _

theorem authClientHandleSetupAck_fst (ctx : ClientCtx) (input : List UInt8) :
    (authClientHandleSetupAck ctx input).1 = ctx := by
  unfold authClientHandleSetupAck
  split <;> rfl

/-- `auth_client_handle_auth_ack` completes on a well-formed AUTH_ACK, and does nothing else. -/
theorem authClientHandleAuthAck_cases (ctx : ClientCtx) (input : List UInt8) :
    (∃ e, authClientHandleAuthAck ctx input = (ctx, .error e)) ∨
    ∃ hdr, authHeaderDecode input = .ok (hdr, [ackByte]) ∧ hdr.pktType = pktAuthAck ∧
      authClientHandleAuthAck ctx input = ({ ctx with authComplete := true }, .ok ()) := by
  unfold authClientHandleAuthAck
  cases he : expectPacket pktAuthAck input with
  | error e => exact .inl ⟨e, rfl⟩
  | ok p =>
      obtain ⟨hdr, payload⟩ := p
      obtain ⟨hd, hty⟩ := (expectPacket_eq_ok_iff (by decide)).mp he
      cases ha : authAckDecode payload with
      | error e => exact .inl ⟨e, by simp only [ha]⟩
      | ok u =>
          have hp : payload = [ackByte] := ensure_eq_ok_iff.mp ha
          subst hp
          exact .inr ⟨hdr, hd, hty, rfl⟩

/-- A call that does not begin a new exchange. -/
def ClientOp.continues : ClientOp → Bool
  | .ctxInit _ => false
  | .buildSetup1 .. => false
  | .buildAuth1 .. => false
  | _ => true

/-- A pinned client stays pinned to the same key, and remembers the same AUTH_1. -/
structure ClientCtx.Kept (ctx ctx' : ClientCtx) : Prop where
  pinned : ctx'.hasPinnedServer = true
  serverPub : ctx'.serverPubPinned = ctx.serverPubPinned
  sent : ctx'.sent = ctx.sent

theorem authClientHandleSetup2_kept {ctx : ClientCtx} (hpin : ctx.hasPinnedServer = true)
    (input : List UInt8) (tofu : Bool) : ctx.Kept (authClientHandleSetup2 S ctx input tofu).1 := by
  unfold authClientHandleSetup2
  split
  next => exact ⟨hpin, rfl, rfl⟩
  next s2 _ =>
    rw [if_pos hpin]
    split
    next => exact ⟨hpin, rfl, rfl⟩
    next =>
      unfold setup2Verify
      split
      next => exact ⟨hpin, rfl, rfl⟩
      next => exact ⟨hpin, rfl, rfl⟩

theorem authClientHandleAuth2_kept {ctx : ClientCtx} (hpin : ctx.hasPinnedServer = true)
    (input : List UInt8) : ctx.Kept (authClientHandleAuth2 S ctx input).1 := by
  obtain ⟨e, h, -⟩ | ⟨a2, shared, -, -, h⟩ := authClientHandleAuth2_cases S ctx input
  · rw [h]
    exact ⟨hpin, rfl, rfl⟩
  · rw [h]
    exact ⟨hpin, rfl, rfl⟩

theorem clientStep_kept {ctx : ClientCtx} (hpin : ctx.hasPinnedServer = true) {op : ClientOp}
    (hop : op.continues = true) : ctx.Kept (clientStep S ctx op).1 := by
  cases op with
  | ctxInit sid => cases hop
  | buildSetup1 token draws cap => cases hop
  | buildAuth1 roles draws cap => cases hop
  | handleSetup2 input tofu => exact authClientHandleSetup2_kept S hpin input tofu
  | buildSetup3 wide cap =>
      obtain ⟨seq, h⟩ := authClientBuildSetup3_fst S ctx wide cap
      rw [clientStep, h]
      exact ⟨hpin, rfl, rfl⟩
  | handleSetupAck input =>
      rw [clientStep, noPacket, authClientHandleSetupAck_fst]
      exact ⟨hpin, rfl, rfl⟩
  | handleAuth2 input => exact authClientHandleAuth2_kept S hpin input
  | buildAuth3 cap =>
      obtain ⟨seq, h⟩ := sendPacket_fst ctx pktAuth3
        (authAuth3Encode ⟨ctx.tagC S⟩ maxPayload) cap
      show ctx.Kept (sendPacket ctx pktAuth3 (authAuth3Encode ⟨ctx.tagC S⟩ maxPayload) cap).1
      rw [h]
      exact ⟨hpin, rfl, rfl⟩
  | handleAuthAck input =>
      obtain ⟨e, h⟩ | ⟨hdr, -, -, h⟩ := authClientHandleAuthAck_cases ctx input
      · rw [clientStep, noPacket, h]
        exact ⟨hpin, rfl, rfl⟩
      · rw [clientStep, noPacket, h]
        exact ⟨hpin, rfl, rfl⟩

/-- A pinned client keeps its AUTH_1 until it begins a new exchange. -/
theorem clientRun_kept {ctx : ClientCtx} (hpin : ctx.hasPinnedServer = true)
    {ops : List ClientOp} (hops : ∀ op ∈ ops, op.continues = true) :
    ctx.Kept (clientRun S ctx ops) := by
  induction ops generalizing ctx with
  | nil => exact ⟨hpin, rfl, rfl⟩
  | cons op ops ih =>
      have h1 := clientStep_kept S hpin (hops op List.mem_cons_self)
      have h2 := ih h1.pinned fun op' h => hops op' (List.mem_cons_of_mem op h)
      exact ⟨h2.pinned, h2.serverPub.trans h1.serverPub, h2.sent.trans h1.sent⟩

/-! ## SETUP_1 and SETUP_3 -/

/-- A SETUP_1 that is sent, and what the context remembers of it. -/
theorem authClientBuildSetup1_eq_ok {ctx ctx' : ClientCtx} {token : List UInt8}
    {draws : Setup1Draws} {cap : ℕ} {pkt : List UInt8}
    (h : authClientBuildSetup1 S ctx token draws cap = (ctx', .ok pkt)) :
    token.length ≤ maxPairingToken ∧
      pkt = frame pktSetup1 ctx'.sessionId ctx'.seq (Setup1.bytes
        ⟨token, ctx'.deviceId, ctx'.devicePub, ctx'.clientNonce, ctx'.roleCommitment⟩) ∧
      ctx'.deviceSk = ctx.deviceSk ∧ ctx'.devicePub = ctx.devicePub := by
  obtain ⟨nonce, code, blind, c, has, seq, hctx⟩ := authClientBuildSetup1_fst S ctx token draws cap
  rw [h] at hctx
  have hsk := congrArg ClientCtx.deviceSk hctx
  have hpub := congrArg ClientCtx.devicePub hctx
  refine ⟨?_, ?_, hsk, hpub⟩
  · by_contra hlen
    rw [authClientBuildSetup1, if_pos (Nat.lt_of_not_le hlen)] at h
    cases h
  · unfold authClientBuildSetup1 at h
    split at h
    next => cases h
    next =>
      split at h
      next => cases h
      next ctx'' _ =>
        obtain ⟨p, hp, rfl, rfl⟩ := sendPacket_eq_ok h
        simp only [authSetup1Encode, Except.bind_eq_ok_iff, emit_eq_ok_iff] at hp
        obtain ⟨-, -, -, rfl⟩ := hp
        rfl

/-- An accepted SETUP_2 is what the context holds of the server. -/
theorem authClientHandleSetup2_eq_ok {ctx ctx' : ClientCtx} {input : List UInt8} {tofu : Bool}
    (h : authClientHandleSetup2 S ctx input tofu = (ctx', .ok ())) :
    ∃ s2 hdr payload, authHeaderDecode input = .ok (hdr, payload) ∧ hdr.pktType = pktSetup2 ∧
      authSetup2Decode payload = .ok s2 ∧ ctx'.sessionId = ctx.sessionId ∧
      ctx'.deviceSk = ctx.deviceSk ∧ ctx'.deviceId = ctx.deviceId ∧
      ctx'.devicePub = ctx.devicePub ∧ ctx'.clientNonce = ctx.clientNonce ∧
      ctx'.pendingServerPub = s2.serverPub ∧ ctx'.pendingServerNonce = s2.serverNonce ∧
      ctx'.pendingSetupChallenge = s2.setupChallenge := by
  have hverify : ∀ {c : ClientCtx} {s2 : Setup2}, setup2Verify S c s2 = (ctx', .ok ()) →
      ctx' = { c with
        pendingServerPub := s2.serverPub
        pendingServerNonce := s2.serverNonce
        pendingSetupChallenge := s2.setupChallenge } := by
    intro c s2 hv
    unfold setup2Verify at hv
    split at hv
    next =>
      cases hv
      rfl
    next => cases hv
  unfold authClientHandleSetup2 at h
  split at h
  next => cases h
  next s2 hc =>
    simp only [setup2Checks, Except.bind_eq_ok_iff, Prod.exists, ensure_eq_ok_iff,
      expectPacket_eq_ok_iff (show pktSetup2 ≠ pktError by decide), Except.pure_eq_ok,
      Except.ok.injEq] at hc
    obtain ⟨hdr, payload, ⟨hd, ht⟩, -, -, _, hs2, -, -, rfl⟩ := hc
    refine ⟨_, hdr, payload, hd, ht, hs2, ?_⟩
    split at h
    next =>
      split at h
      next => cases h
      next =>
        rw [hverify h]
        exact ⟨rfl, rfl, rfl, rfl, rfl, rfl, rfl, rfl⟩
    next =>
      split at h
      next => cases h
      next =>
        rw [hverify h]
        exact ⟨rfl, rfl, rfl, rfl, rfl, rfl, rfl, rfl⟩

/-- A SETUP_3 that is sent carries the proof for what the context holds. -/
theorem authClientBuildSetup3_eq_ok {ctx ctx' : ClientCtx} {wide : Bytes 64} {cap : ℕ}
    {pkt : List UInt8} (h : authClientBuildSetup3 S ctx wide cap = (ctx', .ok pkt)) :
    ∃ proof, authProveSetupClient S wide ctx.deviceSk ctx.deviceId ctx.devicePub
        ctx.pendingServerPub ctx.clientNonce ctx.pendingServerNonce ctx.pendingSetupChallenge
        = .ok proof ∧
      pkt = frame pktSetup3 ctx.sessionId (ctx.seq + 1) (Setup3.bytes ⟨proof⟩) := by
  unfold authClientBuildSetup3 at h
  dsimp only at h
  split at h
  next => cases h
  next proof hproof =>
    obtain ⟨p, hp, -, rfl⟩ := sendPacket_eq_ok h
    obtain ⟨-, rfl⟩ := emit_eq_ok_iff.mp hp
    exact ⟨proof, hproof, rfl⟩

end ZkArche.C
