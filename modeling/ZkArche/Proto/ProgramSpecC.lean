import ZkArche.Proto.ProgramC

/-!
# What the C client program does

Both commands are two exchanges.  The log of one that succeeds is exactly its four packets, with a
second copy of a request over UDP when the first one was not answered in time (`TwoExchanges`).

* `doSetup_ends`: the file is as before, or the credentials of a completed enrollment are in it.
* `doAuth_ends`: the files are as before, and a command that succeeds has a key that the pinned
  server confirmed.
-/

namespace ZkArche.C

open Disk

/-! ## Steps -/

section

variable {α : Type} {w : ProgramState}

theorem atStep_ends {step : String} {x : Program AuthErr α}
    {Q : Except (Interrupt AuthErr) α → ProgramState → Prop} (h : Routine.Ends x w Q) :
    Routine.Ends (atStep step x) w fun r w' => ∃ r₀, Q r₀ w' ∧ ∀ a, r = .ok a → r₀ = .ok a := by
  refine ⟨(x.exec w).1, h, fun a hr => ?_⟩
  have hmap : (x.exec w).1.mapError (failedAt step) = .ok a := hr
  revert hmap
  cases (x.exec w).1 with
  | error e => exact nofun
  | ok b => exact fun hmap => congrArg Except.ok (Except.ok.inj hmap)

theorem check_ends (step : String) (r : Except AuthErr α) (w : ProgramState) :
    Routine.Ends (check step r) w fun r' w' => w = w' ∧ ∀ a, r' = .ok a → r = .ok a := by
  refine ⟨rfl, fun a h => ?_⟩
  cases r with
  | error e => cases h
  | ok b =>
      cases h
      rfl

theorem call_ends (step : String) (r : ClientResult α) (w : ProgramState) :
    Routine.Ends (call step r) w fun r' w' => w = w' ∧
      ∀ ctx a, r' = .ok (ctx, a) → r = (ctx, .ok a) := by
  refine (check_ends step _ w).mono ?_
  rintro r' w' ⟨hw, hr⟩
  refine ⟨hw, fun ctx a hok => ?_⟩
  obtain ⟨a', ha, heq⟩ := Except.map_eq_ok_iff.mp (hr _ hok)
  obtain ⟨rfl, rfl⟩ := Prod.mk.inj heq
  exact Prod.ext rfl ha

theorem onDisk_ends {x : OnDisk α} {Q : Except (Interrupt AuthErr) α → Disk String → Prop}
    (h : Routine.Ends x w.disk Q) :
    Routine.Ends (onDisk x) w fun r w' => Q r w'.disk ∧ w'.log = w.log := ⟨h, rfl⟩

theorem complain_ends (msg : String) (w : ProgramState) :
    Routine.Ends (complain (α := α) msg) w fun r w' => w = w' ∧ ∀ a, r ≠ .ok a := ⟨rfl, nofun⟩

end

/-! ## The exchange -/

/-- A request of which at most `n` copies were sent, and its answer. -/
def Exchanged (n : ℕ) (request answer : List UInt8) (log log' : List Traffic) : Prop :=
  ∃ k, k < n ∧ log' = .received answer :: (List.replicate (k + 1) (.sent request) ++ log)

theorem transportSend_ends (packet : List UInt8) (w : ProgramState) :
    Routine.Ends (transportSend packet) w fun r w' => w'.disk = w.disk ∧
      ∀ u, r = .ok u → w'.log = .sent packet :: w.log := by
  unfold transportSend Routine.Ends
  rw [Routine.exec_op]
  split
  next => exact ⟨rfl, nofun⟩
  next => exact ⟨rfl, fun _ _ => rfl⟩

theorem transportRecv_ends (w : ProgramState) :
    Routine.Ends transportRecv w fun r w' => w'.disk = w.disk ∧
      (∀ e, r = .ok (.error e) → w'.log = w.log) ∧
      ∀ input, r = .ok (.ok input) → w'.log = .received input :: w.log := by
  unfold transportRecv Routine.Ends
  rw [Routine.exec_op]
  split
  next => exact ⟨rfl, nofun, nofun⟩
  next => exact ⟨rfl, fun _ _ => rfl, nofun⟩
  next =>
    refine ⟨rfl, nofun, ?_⟩
    rintro _ ⟨⟩
    rfl

theorem sendThenRecv_ends (out : List UInt8) (n : ℕ) (w : ProgramState) :
    Routine.Ends (sendThenRecv out n) w fun r w' => w'.disk = w.disk ∧
      ∀ input, r = .ok input → Exchanged n out input w.log w'.log := by
  induction n generalizing w with
  | zero => exact ⟨rfl, nofun⟩
  | succ n ih =>
      refine (transportSend_ends out w).bind ?_ fun _ _ h => ⟨h.1, nofun⟩
      rintro u w₁ ⟨hdisk, hlog⟩
      cases u with
      | error e => exact ⟨hdisk, nofun⟩
      | ok _ =>
          have hsent := hlog _ rfl
          refine (transportRecv_ends w₁).bind ?_ fun _ _ h => ⟨h.1.trans hdisk, nofun⟩
          rintro (e | input) w₂ ⟨hdisk₂, herr, hok⟩
          · dsimp only
            split
            · refine (ih w₂).mono fun r w₃ h => ⟨h.1.trans (hdisk₂.trans hdisk), fun input hr => ?_⟩
              obtain ⟨k, hk, hlog₃⟩ := h.2 input hr
              have hcopies : List.replicate (k + 1 + 1) (Traffic.sent out) ++ w.log
                  = List.replicate (k + 1) (Traffic.sent out) ++ .sent out :: w.log := by
                rw [List.replicate_succ', List.append_assoc]
                rfl
              refine ⟨k + 1, by omega, ?_⟩
              rw [hlog₃, herr e rfl, hsent, hcopies]
            · exact ⟨hdisk₂.trans hdisk, nofun⟩
          · refine ⟨hdisk₂.trans hdisk, ?_⟩
            rintro _ ⟨⟩
            refine ⟨0, Nat.succ_pos n, ?_⟩
            show w₂.log = _
            rw [hok input rfl, hsent]
            rfl

/-- Two exchanges, one after the other. -/
def TwoExchanges (n : ℕ) (request₁ answer₁ request₂ answer₂ : List UInt8) (log : List Traffic) :
    Prop :=
  ∃ between, Exchanged n request₁ answer₁ [] between ∧ Exchanged n request₂ answer₂ between log

/-! ## The calls of the library that return -/

variable {q : ℕ} {G : Type} [AddCommGroup G] [Module (ZMod q) G] {S : Suite q G}

/-- A context with a role keeps it.  Without one there is a commitment to a new one. -/
theorem sampleRole_eq_ok {ctx ctx' : ClientCtx} {blind : Bytes 64}
    (h : sampleRole S ctx blind = (ctx', .ok ())) :
    ∃ code b c, ctx' = { ctx with
        roleCode := code
        roleBlind := b
        roleCommitment := c
        hasRole := true } ∧
      (ctx.hasRole = true → code = ctx.roleCode ∧ b = ctx.roleBlind ∧ c = ctx.roleCommitment) ∧
      (ctx.hasRole = false → code = (if ctx.roleCode = 0 then 1 else ctx.roleCode) ∧
        b = authScalarFromWide q blind ∧ authMakeRoleCommitment S code b = .ok c) := by
  unfold sampleRole at h
  cases hrole : ctx.hasRole with
  | true =>
      rw [if_pos hrole] at h
      cases h
      exact ⟨_, _, _, by rw [← hrole], fun _ => ⟨rfl, rfl, rfl⟩, nofun⟩
  | false =>
      rw [hrole, if_neg Bool.false_ne_true] at h
      dsimp only at h
      split at h
      next => cases h
      next c hc =>
        cases h
        exact ⟨_, _, c, rfl, nofun, fun _ => ⟨rfl, rfl, hc⟩⟩

/-- The whole effect of a SETUP_1 that is built. -/
theorem authClientBuildSetup1_returns {ctx ctx' : ClientCtx} {token : List UInt8}
    {draws : Setup1Draws} {cap : ℕ} {pkt : List UInt8}
    (h : authClientBuildSetup1 S ctx token draws cap = (ctx', .ok pkt)) :
    ∃ code b c, ctx' = { ctx with
        clientNonce := draws.nonce
        roleCode := code
        roleBlind := b
        roleCommitment := c
        hasRole := true
        seq := ctx.seq + 1 } ∧
      (ctx.hasRole = true → code = ctx.roleCode ∧ b = ctx.roleBlind ∧ c = ctx.roleCommitment) ∧
      (ctx.hasRole = false → code = (if ctx.roleCode = 0 then 1 else ctx.roleCode) ∧
        b = authScalarFromWide q draws.blind ∧ authMakeRoleCommitment S code b = .ok c) ∧
      pkt = frame pktSetup1 ctx.sessionId (ctx.seq + 1)
        (Setup1.bytes ⟨token, ctx.deviceId, ctx.devicePub, draws.nonce, c⟩) := by
  have hpkt := (authClientBuildSetup1_eq_ok S h).2.1
  unfold authClientBuildSetup1 at h
  split at h
  next => cases h
  next =>
    split at h
    next => cases h
    next ctx₁ hsample =>
      obtain ⟨code, b, c, rfl, hkept, hnew⟩ := sampleRole_eq_ok hsample
      obtain ⟨p, -, rfl, -⟩ := sendPacket_eq_ok h
      exact ⟨code, b, c, rfl, hkept, hnew, hpkt⟩

/-- The whole effect of a SETUP_2 that is accepted. -/
theorem authClientHandleSetup2_returns {ctx ctx' : ClientCtx} {input : List UInt8} {tofu : Bool}
    (h : authClientHandleSetup2 S ctx input tofu = (ctx', .ok ())) :
    ∃ s2, setup2Checks S ctx input = .ok s2 ∧ ctx.provesSetup S s2 = true ∧
      (ctx.hasPinnedServer = true → ctx.serverPubPinned = s2.serverPub) ∧
      (ctx.hasPinnedServer = false → tofu = true) ∧
      ctx' = { ctx with
        serverPubPinned := s2.serverPub
        hasPinnedServer := true
        pendingServerPub := s2.serverPub
        pendingServerNonce := s2.serverNonce
        pendingSetupChallenge := s2.setupChallenge } := by
  unfold authClientHandleSetup2 at h
  split at h
  next => cases h
  next s2 hc =>
    refine ⟨s2, hc, ?_⟩
    have hverify : ∀ {c : ClientCtx}, setup2Verify S c s2 = (ctx', .ok ()) →
        c.provesSetup S s2 = true ∧ ctx' = { c with
          pendingServerPub := s2.serverPub
          pendingServerNonce := s2.serverNonce
          pendingSetupChallenge := s2.setupChallenge } := by
      intro c hv
      unfold setup2Verify at hv
      split at hv
      next hproof =>
        cases hv
        exact ⟨hproof, rfl⟩
      next => cases hv
    cases hpin : ctx.hasPinnedServer with
    | true =>
        rw [if_pos hpin] at h
        split at h
        next => cases h
        next hkey =>
          obtain ⟨hproof, rfl⟩ := hverify h
          exact ⟨hproof, fun _ => not_not.mp hkey, nofun, by rw [← not_not.mp hkey, ← hpin]⟩
    | false =>
        rw [hpin, if_neg Bool.false_ne_true] at h
        split at h
        next => cases h
        next htofu =>
          obtain ⟨hproof, rfl⟩ := hverify h
          exact ⟨hproof, nofun, fun _ => not_not.mp htofu, rfl⟩

/-- The whole effect of an AUTH_1 that is built. -/
theorem authClientBuildAuth1_returns {ctx ctx' : ClientCtx} {roles : List UInt64}
    {draws : Auth1Draws} {cap : ℕ} {pkt : List UInt8}
    (h : authClientBuildAuth1 S ctx roles draws cap = (ctx', .ok pkt)) :
    ∃ ephC proof, ∃ a1 : Auth1, ctx' = { ctx with
        clientNonce := draws.nonce
        ephSecret := authScalarFromWide q draws.eph
        ephC := ephC
        pendingClientProof := proof
        seq := ctx.seq + 1 } ∧
      authScalarmultBase S (authScalarFromWide q draws.eph) = .ok ephC ∧
      a1.pid = authComputePid S ctx.devicePub draws.nonce ephC ctx.serverPubPinned ∧
      a1.clientProof = proof ∧ a1.nonceC = draws.nonce ∧ a1.ephC = ephC ∧
      pkt = frame pktAuth1 ctx.sessionId (ctx.seq + 1) a1.bytes := by
  obtain ⟨a1, hpkt, -, hpid, hproof, hnonce, heph, -⟩ := authClientBuildAuth1_eq_ok S h
  unfold authClientBuildAuth1 at h
  split at h
  next => cases h
  split at h
  next => cases h
  split at h
  next => cases h
  dsimp only at h
  split at h
  next => cases h
  next ephC hephC =>
    split at h
    next => cases h
    split at h
    next => cases h
    next proof _ =>
      split at h
      next => cases h
      next =>
        obtain ⟨p, -, rfl, -⟩ := sendPacket_eq_ok h
        exact ⟨ephC, proof, a1, rfl, hephC, hpid, hproof, hnonce, heph, hpkt⟩

/-- The whole effect of an AUTH_2 that is accepted. -/
theorem authClientHandleAuth2_returns {ctx ctx' : ClientCtx} {input : List UInt8}
    (h : authClientHandleAuth2 S ctx input = (ctx', .ok ())) :
    ∃ a2 shared, auth2Checks S ctx input = .ok a2 ∧
      authScalarmult S ctx.ephSecret a2.ephS = .ok shared ∧
      (ctx.confirmation S a2 shared).tag S .s2c = a2.tagS ∧
      ctx' = ctx.confirm S (ctx.confirmation S a2 shared) := by
  obtain ⟨e, hr, -⟩ | ⟨a2, shared, hchecks, hshared, hr⟩ := authClientHandleAuth2_cases S ctx input
  · rw [hr] at h
    cases h
  · rw [hr] at h
    obtain ⟨rfl, htag⟩ := Prod.mk.inj h
    refine ⟨a2, shared, hchecks, hshared, ?_, rfl⟩
    by_contra hne
    rw [if_neg hne] at htag
    cases htag

theorem authClientHandleSetupAck_returns {ctx ctx' : ClientCtx} {input : List UInt8}
    (h : authClientHandleSetupAck ctx input = (ctx', .ok ())) :
    ctx' = ctx ∧ ∃ hdr, authHeaderDecode input = .ok (hdr, [ackByte]) ∧ hdr.pktType = pktSetupAck := by
  unfold authClientHandleSetupAck at h
  split at h
  next => cases h
  next hdr payload he =>
    obtain ⟨rfl, hack⟩ := Prod.mk.inj h
    obtain ⟨hd, hty⟩ := (expectPacket_eq_ok_iff (by decide)).mp he
    obtain rfl : payload = [ackByte] := ensure_eq_ok_iff.mp hack
    exact ⟨rfl, hdr, hd, hty⟩

theorem authClientHandleAuthAck_returns {ctx ctx' : ClientCtx} {input : List UInt8}
    (h : authClientHandleAuthAck ctx input = (ctx', .ok ())) :
    ctx' = { ctx with authComplete := true } ∧
      ∃ hdr, authHeaderDecode input = .ok (hdr, [ackByte]) ∧ hdr.pktType = pktAuthAck := by
  obtain ⟨e, hr⟩ | ⟨hdr, hd, hty, hr⟩ := authClientHandleAuthAck_cases ctx input
  · rw [hr] at h
    cases h
  · rw [hr] at h
    exact ⟨(Prod.mk.inj h).1.symm, hdr, hd, hty⟩

/-! ## Credentials -/

/-- The credentials in a file. -/
def Loads (o : Option File) (c : AuthCredentials) : Prop :=
  ∃ f, o = some f ∧ authCredsLoad (.reads (.whole f.data)) = .ok c

/-- How a file is read does not matter. -/
theorem authCredsLoad_fileReads {r : ReadCalls} {path : String} {d : Disk String}
    {c : AuthCredentials} (h : authCredsLoad (fileReads r path d) = .ok c) : Loads (d path) c := by
  unfold fileReads at h
  split at h
  next => cases h
  next =>
    split at h
    next => cases h
    next f hf =>
      refine ⟨f, hf, ?_⟩
      rw [authCredsLoad_reads] at h ⊢
      simp only [r.cut_contents, Chunks.contents_whole] at h ⊢
      exact h

/-- Only a missing file is reported as missing. -/
theorem missing_of_fileReads {r : ReadCalls} {path : String} {d : Disk String}
    (h : authCredsLoad (fileReads r path d) = .error .credentialMissing) : d path = none := by
  unfold fileReads at h
  split at h
  next => cases h
  next =>
    split at h
    next hnone => exact hnone
    next f hf =>
      rw [authCredsLoad_reads] at h
      split at h
      next => cases h
      next => cases h

/-- The credentials have a pinned server and a role. -/
structure AuthCredentials.Complete (c : AuthCredentials) : Prop where
  pinned : c.hasPinnedServer = true
  role : c.hasRole = true

/-- Complete credentials are read back as they were written. -/
theorem AuthCredentials.Complete.loads {c : AuthCredentials} (hc : c.Complete) {o : Option File}
    (h : HasData (credentialsBytes c) o) : Loads o c := by
  obtain ⟨f, rfl, hf⟩ := h
  refine ⟨f, rfl, ?_⟩
  have hcleared : c.cleared = c := AuthCredentials.ext rfl rfl (if_pos hc.pinned) rfl
    (if_pos hc.role) (if_pos hc.role) (if_pos hc.role)
  rw [authCredsLoad_saved c (s := .whole f.data) (by rw [Chunks.contents_whole, hf]), hcleared]

theorem Loads.unique {o : Option File} {c c' : AuthCredentials} (h : Loads o c) (h' : Loads o c') :
    c = c' := by
  obtain ⟨f, rfl, hf⟩ := h
  obtain ⟨_, ⟨⟩, hf'⟩ := h'
  exact Except.ok.inj (hf.symm.trans hf')

/-- The later credentials keep the root, the server if one is pinned, and the role if there is
one. -/
structure AuthCredentials.Continues (c c' : AuthCredentials) : Prop where
  root : c'.deviceRoot = c.deviceRoot
  server : c.hasPinnedServer = true →
    c'.hasPinnedServer = true ∧ c'.serverPubPinned = c.serverPubPinned
  role : c.hasRole = true → c'.hasRole = true ∧ c'.roleCommitment = c.roleCommitment ∧
    c'.roleBlind = c.roleBlind ∧ c'.roleCode = c.roleCode

theorem AuthCredentials.Continues.refl (c : AuthCredentials) : c.Continues c :=
  ⟨rfl, fun h => ⟨h, rfl⟩, fun h => ⟨h, rfl, rfl, rfl⟩⟩

theorem AuthCredentials.Continues.trans {c c' c'' : AuthCredentials} (h : c.Continues c')
    (h' : c'.Continues c'') : c.Continues c'' where
  root := h'.root.trans h.root
  server hpin := by
    obtain ⟨hpin', hpub⟩ := h.server hpin
    obtain ⟨hpin'', hpub'⟩ := h'.server hpin'
    exact ⟨hpin'', hpub'.trans hpub⟩
  role hrole := by
    obtain ⟨hrole', hcommitment, hblind, hcode⟩ := h.role hrole
    obtain ⟨hrole'', hcommitment', hblind', hcode'⟩ := h'.role hrole'
    exact ⟨hrole'', hcommitment'.trans hcommitment, hblind'.trans hblind, hcode'.trans hcode⟩

/-- Complete credentials stay the same. -/
theorem AuthCredentials.Complete.eq_of_continues {c c' : AuthCredentials} (hc : c.Complete)
    (hc' : c'.Complete) (h : c.Continues c') : c' = c := by
  obtain ⟨-, hcommitment, hblind, hcode⟩ := h.role hc.role
  exact AuthCredentials.ext h.root (hc'.pinned.trans hc.pinned.symm) (h.server hc.pinned).2
    (hc'.role.trans hc.role.symm) hcommitment hblind hcode

/-! ## The commands -/

/-- A packet of this type and session, with what it carries. -/
def Carries (packet : List UInt8) (pktType : UInt8) (sid : SessionId) (payload : List UInt8) :
    Prop :=
  ∃ hdr, authHeaderDecode packet = .ok (hdr, payload) ∧ hdr.pktType = pktType ∧ hdr.sessionId = sid

/-- An acknowledgement.  No client function compares its session. -/
def Acknowledges (packet : List UInt8) (pktType : UInt8) : Prop :=
  ∃ hdr, authHeaderDecode packet = .ok (hdr, [ackByte]) ∧ hdr.pktType = pktType

/-- An AUTH_2 that passes is from the pinned server. -/
theorem auth2Checks_carries {ctx : ClientCtx} {input : List UInt8} {a2 : Auth2}
    (h : auth2Checks S ctx input = .ok a2) :
    ∃ payload, Carries input pktAuth2 ctx.sessionId payload ∧ authAuth2Decode payload = .ok a2 ∧
      a2.serverPub = ctx.serverPubPinned ∧
      authVerifyAuthServer S a2.serverProof ctx.serverPubPinned a2.nonceS a2.ephS = true := by
  simp only [auth2Checks, Except.bind_eq_ok_iff, Prod.exists, ensure_eq_ok_iff,
    expectPacket_eq_ok_iff (show pktAuth2 ≠ pktError by decide), Except.pure_eq_ok,
    Except.ok.injEq] at h
  obtain ⟨hdr, payload, ⟨hd, hty⟩, -, hsid, a2', hdec, -, -, -, -, -, hkey, -, hserver, rfl⟩ := h
  rw [hkey] at hserver
  exact ⟨payload, ⟨hdr, hd, hty, hsid⟩, hdec, hkey, hserver⟩

/-- A SETUP_2 that passes is one for the session. -/
theorem setup2Checks_carries {ctx : ClientCtx} {input : List UInt8} {s2 : Setup2}
    (h : setup2Checks S ctx input = .ok s2) :
    ∃ payload, Carries input pktSetup2 ctx.sessionId payload ∧
      authSetup2Decode payload = .ok s2 := by
  simp only [setup2Checks, Except.bind_eq_ok_iff, Prod.exists, ensure_eq_ok_iff,
    expectPacket_eq_ok_iff (show pktSetup2 ≠ pktError by decide), Except.pure_eq_ok,
    Except.ok.injEq] at h
  obtain ⟨hdr, payload, ⟨hd, hty⟩, -, hsid, s2', hdec, -, -, rfl⟩ := h
  exact ⟨payload, ⟨hdr, hd, hty, hsid⟩, hdec⟩

/-- A completed enrollment, which starts from `c₀` and ends with `c`. -/
structure CompletesSetup (S : Suite q G) (a : Args) (m : Meets) (c₀ c : AuthCredentials)
    (log : List Traffic) : Prop where
  continues : c₀.Continues c
  complete : c.Complete
  trust : c₀.hasPinnedServer = false → a.allowTofu = true
  /-- A new role opens the commitment. -/
  role : c₀.hasRole = false → c.roleCode = (if a.role = 0 then 1 else a.role) ∧
    c.roleBlind = authScalarFromWide q m.setup1.blind ∧
    authMakeRoleCommitment S c.roleCode c.roleBlind = .ok c.roleCommitment
  /-- The server proved possession of the key to this device, and acknowledged its proof. -/
  talked : ∃ devicePub payload s2 proof b2 b4,
    authScalarmultBase S (authDeriveDeviceScalar S c.deviceRoot) = .ok devicePub ∧
    Carries b2 pktSetup2 m.sessionId payload ∧ authSetup2Decode payload = .ok s2 ∧
    s2.serverPub = c.serverPubPinned ∧
    authVerifySetupServer S s2.serverProof s2.serverPub (authDeriveDeviceId S c.deviceRoot)
      devicePub m.setup1.nonce s2.serverNonce s2.setupChallenge = true ∧
    authProveSetupClient S m.setup3 (authDeriveDeviceScalar S c.deviceRoot)
      (authDeriveDeviceId S c.deviceRoot) devicePub s2.serverPub m.setup1.nonce s2.serverNonce
      s2.setupChallenge = .ok proof ∧
    Acknowledges b4 pktSetupAck ∧
    TwoExchanges a.transport.attempts
      (frame pktSetup1 m.sessionId 1 (Setup1.bytes ⟨a.tokenBytes, authDeriveDeviceId S c.deviceRoot,
        devicePub, m.setup1.nonce, c.roleCommitment⟩)) b2
      (frame pktSetup3 m.sessionId 2 (Setup3.bytes ⟨proof⟩)) b4 log

/-- The credentials that an enrollment starts from. -/
def StartsFrom (o : Option File) (root : Bytes 32) (c₀ : AuthCredentials) : Prop :=
  (o = none ∧ c₀ = authCredsInitFresh root) ∨ Loads o c₀

theorem loadCreds_ends (c : ReadCalls) (path : String) (w : ProgramState) :
    Routine.Ends (loadCreds c path) w fun r w' => w = w' ∧
      ∀ res, r = .ok res → authCredsLoad (fileReads c path w.disk) = res :=
  ⟨rfl, fun _ h => Except.ok.inj h⟩

theorem loadOrFresh_ends (a : Args) (m : Meets) (w : ProgramState) :
    Routine.Ends (loadOrFresh a m) w fun r w' => w = w' ∧
      ∀ c, r = .ok c → StartsFrom (w.disk a.credPath) m.newRoot c := by
  refine (loadCreds_ends m.reads a.credPath w).bind ?_ fun _ _ h => ⟨h.1, nofun⟩
  rintro (e | c) _ ⟨rfl, hres⟩
  · dsimp only
    split
    next he =>
      subst he
      refine ⟨rfl, ?_⟩
      rintro _ ⟨⟩
      exact .inl ⟨missing_of_fileReads (hres _ rfl), rfl⟩
    next => exact ⟨rfl, nofun⟩
  · refine ⟨rfl, ?_⟩
    rintro _ ⟨⟩
    exact .inr (authCredsLoad_fileReads (hres _ rfl))

theorem derivePub_ends (root : Bytes 32) (w : ProgramState) :
    Routine.Ends (derivePub S root) w fun r w' => w = w' ∧
      ∀ devicePub, r = .ok devicePub →
        authScalarmultBase S (authDeriveDeviceScalar S root) = .ok devicePub := by
  unfold derivePub
  split
  next => exact ⟨rfl, nofun⟩
  next devicePub h =>
    refine ⟨rfl, ?_⟩
    rintro _ ⟨⟩
    exact h

/-- What `do_setup` does to its world.  The file of the credentials is as before, or those of a
completed enrollment are in it.  It is the latter when the command succeeds. -/
structure SetUp (S : Suite q G) (a : Args) (m : Meets) (w : ProgramState)
    (r : Except (Interrupt Complaint) Printed) (w' : ProgramState) : Prop where
  others : ∀ s, s ≠ a.credPath → s ≠ tmpPath a.credPath → w'.disk s = w.disk s
  file : (w'.disk a.credPath = w.disk a.credPath ∧ ∀ line, r ≠ .ok line) ∨
    ∃ c₀ c, StartsFrom (w.disk a.credPath) m.newRoot c₀ ∧ CompletesSetup S a m c₀ c w'.log ∧
      HasData (credentialsBytes c) (w'.disk a.credPath)
  line : ∀ line, r = .ok line → line = .enrolled a.transport

/-- A command that fails before it writes. -/
theorem SetUp.of_error {a : Args} {m : Meets} {w w' : ProgramState} {e : Interrupt Complaint}
    (h : w'.disk = w.disk) : SetUp S a m w (.error e) w' :=
  ⟨fun _ _ _ => by rw [h], .inl ⟨by rw [h], nofun⟩, nofun⟩

theorem saveCreds_ends (c : WriteCalls) (path : String) (creds : AuthCredentials)
    (w : ProgramState) :
    Routine.Ends (onDisk (saveCreds c path creds)) w fun r w' => w'.log = w.log ∧
      (∀ s, s ≠ path → s ≠ tmpPath path → w'.disk s = w.disk s) ∧
      ((w'.disk path = w.disk path ∧ ∀ u, r ≠ .ok u) ∨
        HasData (credentialsBytes creds) (w'.disk path)) := by
  refine (onDisk_ends (atomicWriteFile_replaces c path (credentialsBytes creds) w.disk)).mono ?_
  rintro r w' ⟨⟨rfl, hfile, hothers⟩, hlog⟩
  refine ⟨hlog, hothers, ?_⟩
  have hclear : (c.fate path (credentialsBytes creds)).Clear := Fate.clear_ofRename ..
  cases hreplaced : (c.fate path (credentialsBytes creds)).replaced with
  | true =>
      rw [hreplaced, if_pos rfl] at hfile
      exact .inr hfile
  | false =>
      rw [hreplaced, if_neg Bool.false_ne_true] at hfile
      refine .inl ⟨hfile, fun u hr => ?_⟩
      exact Bool.false_ne_true (hreplaced.symm.trans (hclear.ok hr))

/-- The exchange of the program, as one of its steps. -/
theorem roundtrip_ends (step : String) (out : List UInt8) (n : ℕ) (w : ProgramState) :
    Routine.Ends (atStep step (sendThenRecv out n)) w fun r w' => w'.disk = w.disk ∧
      ∀ input, r = .ok input → Exchanged n out input w.log w'.log := by
  refine (atStep_ends (sendThenRecv_ends out n w)).mono ?_
  rintro r w' ⟨r₀, ⟨hdisk, hex⟩, hr⟩
  exact ⟨hdisk, fun input h => hex input (hr input h)⟩

/-- The end of a completed enrollment, in which its credentials are saved. -/
theorem saveCreds_setUp {a : Args} {m : Meets} {w₀ w : ProgramState} {c₀ c : AuthCredentials}
    (hdisk : w.disk = w₀.disk) (hstart : StartsFrom (w₀.disk a.credPath) m.newRoot c₀)
    (hsetup : CompletesSetup S a m c₀ c w.log) :
    Routine.Ends (do
      atStep "save creds" (onDisk (saveCreds m.writes a.credPath c))
      return .enrolled a.transport) w (SetUp S a m w₀) := by
  refine (atStep_ends (saveCreds_ends m.writes a.credPath c w)).bind ?_ ?_
  · rintro ⟨⟩ w' ⟨r₀, ⟨hlog, hothers, hfile⟩, hr⟩
    refine ⟨fun s h h' => (hothers s h h').trans (by rw [hdisk]), .inr ⟨c₀, c, hstart,
      hlog ▸ hsetup, hfile.resolve_left fun h => h.2 () (hr () rfl)⟩, ?_⟩
    rintro _ ⟨⟩
    rfl
  · rintro e w' ⟨r₀, ⟨hlog, hothers, hfile⟩, -⟩
    refine ⟨fun s h h' => (hothers s h h').trans (by rw [hdisk]), ?_, fun _ h => by cases h⟩
    obtain ⟨hsame, -⟩ | hdata := hfile
    · exact .inl ⟨hsame.trans (by rw [hdisk]), fun _ h => by cases h⟩
    · exact .inr ⟨c₀, c, hstart, hlog ▸ hsetup, hdata⟩

theorem doSetup_ends (a : Args) (m : Meets) (w : ProgramState) (hlog : w.log = []) :
    Routine.Ends (doSetup S a m) w (SetUp S a m w) := by
  refine (loadOrFresh_ends a m w).bind ?_ fun _ _ h => .of_error (by rw [h.1])
  rintro c₀ _ ⟨rfl, hstart⟩
  refine (derivePub_ends c₀.deviceRoot w).bind ?_ fun _ _ h => .of_error (by rw [h.1])
  rintro devicePub _ ⟨rfl, hpub⟩
  -- SETUP_1 and the answer to it
  refine (call_ends _ _ w).bind ?_ fun _ _ h => .of_error (by rw [h.1])
  rintro ⟨ctx₁, out₁⟩ _ ⟨rfl, h₁⟩
  obtain ⟨code, blind, commitment, rfl, hkept, hnew, rfl⟩ :=
    authClientBuildSetup1_returns (h₁ _ _ rfl)
  refine (roundtrip_ends _ _ _ w).bind ?_ fun _ _ h => .of_error h.1
  rintro b2 w₁ ⟨hdisk₁, hex₁⟩
  have hex₁ := hex₁ b2 rfl
  refine (call_ends _ _ w₁).bind ?_ fun _ _ h => .of_error (h.1 ▸ hdisk₁)
  rintro ⟨ctx₂, ⟨⟩⟩ _ ⟨rfl, h₂⟩
  obtain ⟨s2, hchecks, hproves, hpinned, htrust, rfl⟩ :=
    authClientHandleSetup2_returns (h₂ _ _ rfl)
  obtain ⟨payload, hcarries, hs2⟩ := setup2Checks_carries hchecks
  -- SETUP_3 and the acknowledgement
  refine (call_ends _ _ w₁).bind ?_ fun _ _ h => .of_error (h.1 ▸ hdisk₁)
  rintro ⟨ctx₃, out₃⟩ _ ⟨rfl, h₃⟩
  obtain ⟨proof, hproof, rfl⟩ := authClientBuildSetup3_eq_ok S (h₃ _ _ rfl)
  obtain ⟨seq, hctx₃⟩ := authClientBuildSetup3_fst S _ m.setup3 maxDatagram
  rw [h₃ _ _ rfl] at hctx₃
  obtain rfl := hctx₃
  refine (roundtrip_ends _ _ _ w₁).bind ?_ fun _ _ h => .of_error (h.1.trans hdisk₁)
  rintro b4 w₂ ⟨hdisk₂, hex₂⟩
  have hex₂ := hex₂ b4 rfl
  refine (call_ends _ _ w₂).bind ?_ fun _ _ h => .of_error (h.1 ▸ hdisk₂.trans hdisk₁)
  rintro ⟨ctx₄, ⟨⟩⟩ _ ⟨rfl, h₄⟩
  obtain ⟨rfl, hack⟩ := authClientHandleSetupAck_returns (h₄ _ _ rfl)
  have hkept' : c₀.hasRole = true → commitment = c₀.roleCommitment ∧ blind = c₀.roleBlind ∧
      code = c₀.roleCode := by
    intro h
    obtain ⟨hcode, hblind, hcommitment⟩ := hkept h
    exact ⟨hcommitment, hblind, hcode.trans (if_pos h)⟩
  have hnew' : c₀.hasRole = false → code = (if a.role = 0 then 1 else a.role) ∧
      blind = authScalarFromWide q m.setup1.blind ∧
      authMakeRoleCommitment S code blind = .ok commitment := by
    intro h
    obtain ⟨hcode, hrest⟩ := hnew h
    have hrole : (setupContext S a m c₀ devicePub).roleCode = a.role :=
      if_neg (by rw [h]; exact Bool.false_ne_true)
    exact ⟨hcode.trans (by rw [hrole]), hrest⟩
  have henrolls : CompletesSetup S a m c₀
      ⟨c₀.deviceRoot, true, s2.serverPub, true, commitment, blind, code⟩ w₂.log :=
    { continues := ⟨rfl, fun h => ⟨rfl, (hpinned h).symm⟩, fun h => ⟨rfl, hkept' h⟩⟩
      complete := ⟨rfl, rfl⟩
      trust := htrust
      role := hnew'
      talked := ⟨devicePub, payload, s2, proof, b2, b4, hpub devicePub rfl, hcarries, hs2, rfl,
        hproves, hproof, hack, w₁.log, hlog ▸ hex₁, hex₂⟩ }
  exact saveCreds_setUp (hdisk₂.trans hdisk₁) (hstart c₀ rfl) henrolls

/-- A completed authentication with the credentials `c`, which confirms `x`. -/
structure Authenticates (S : Suite q G) (a : Args) (m : Meets) (c : AuthCredentials)
    (x : Confirmation) (log : List Traffic) : Prop where
  complete : c.Complete
  /-- The pinned server answered, and its tag and that of the client are those of `x`. -/
  talked : ∃ devicePub payload, ∃ a1 : Auth1, ∃ a2 : Auth2, ∃ shared b2 b4,
    authScalarmultBase S (authDeriveDeviceScalar S c.deviceRoot) = .ok devicePub ∧
    authScalarmultBase S (authScalarFromWide q m.auth1.eph) = .ok a1.ephC ∧
    a1.pid = authComputePid S devicePub a1.nonceC a1.ephC c.serverPubPinned ∧
    a1.nonceC = m.auth1.nonce ∧
    Carries b2 pktAuth2 m.sessionId payload ∧ authAuth2Decode payload = .ok a2 ∧
    a2.serverPub = c.serverPubPinned ∧
    authVerifyAuthServer S a2.serverProof c.serverPubPinned a2.nonceS a2.ephS = true ∧
    authScalarmult S (authScalarFromWide q m.auth1.eph) a2.ephS = .ok shared ∧
    x = ⟨⟨a1.pid, a1.clientProof.a, a1.clientProof.s, a1.nonceC, a1.ephC, a2.serverPub,
      a2.serverProof.a, a2.serverProof.s, a2.nonceS, a2.ephS⟩, shared⟩ ∧
    x.tag S .s2c = a2.tagS ∧
    Acknowledges b4 pktAuthAck ∧
    TwoExchanges a.transport.attempts (frame pktAuth1 m.sessionId 1 a1.bytes) b2
      (frame pktAuth3 m.sessionId 2 (x.tag S .c2s).val) b4 log

/-- What `do_auth` does to its world. -/
structure SignedIn (S : Suite q G) (a : Args) (m : Meets) (w : ProgramState)
    (r : Except (Interrupt Complaint) Printed) (w' : ProgramState) : Prop where
  disk : w'.disk = w.disk
  confirmed : ∀ line, r = .ok line → ∃ c x, Loads (w.disk a.credPath) c ∧
    Authenticates S a m c x w'.log ∧
    line = .authenticated a.transport ((x.sessionKey S).val.take 8)

theorem doAuth_ends (a : Args) (m : Meets) (w : ProgramState) (hlog : w.log = []) :
    Routine.Ends (doAuth S a m) w (SignedIn S a m w) := by
  refine (loadCreds_ends m.reads a.credPath w).bind ?_ fun _ _ h => ⟨by rw [h.1], nofun⟩
  rintro res _ ⟨rfl, hres⟩
  refine (check_ends _ res w).bind ?_ fun _ _ h => ⟨by rw [h.1], nofun⟩
  rintro c _ ⟨rfl, hc⟩
  have hc := authCredsLoad_fileReads ((hres res rfl).trans (hc c rfl))
  by_cases hincomplete : ¬ c.hasPinnedServer ∨ ¬ c.hasRole
  · rw [if_pos hincomplete]
    exact ⟨rfl, nofun⟩
  rw [if_neg hincomplete]
  have hcomplete : c.Complete := by
    rw [not_or, not_not, not_not] at hincomplete
    exact ⟨hincomplete.1, hincomplete.2⟩
  refine (derivePub_ends c.deviceRoot w).bind ?_ fun _ _ h => ⟨by rw [h.1], nofun⟩
  rintro devicePub _ ⟨rfl, hpub⟩
  -- AUTH_1 and the answer to it
  refine (call_ends _ _ w).bind ?_ fun _ _ h => ⟨by rw [h.1], nofun⟩
  rintro ⟨ctx₁, out₁⟩ _ ⟨rfl, h₁⟩
  obtain ⟨ephC, proof, a1, rfl, hephC, hpid, rfl, hnonce, rfl, rfl⟩ :=
    authClientBuildAuth1_returns (h₁ _ _ rfl)
  refine (roundtrip_ends _ _ _ w).bind ?_ fun _ _ h => ⟨h.1, nofun⟩
  rintro b2 w₁ ⟨hdisk₁, hex₁⟩
  have hex₁ := hex₁ b2 rfl
  refine (call_ends _ _ w₁).bind ?_ fun _ _ h => ⟨h.1 ▸ hdisk₁, nofun⟩
  rintro ⟨ctx₂, ⟨⟩⟩ _ ⟨rfl, h₂⟩
  obtain ⟨a2, shared, hchecks, hshared, htag, rfl⟩ := authClientHandleAuth2_returns (h₂ _ _ rfl)
  obtain ⟨payload, hcarries, ha2, hkey, hserver⟩ := auth2Checks_carries hchecks
  -- AUTH_3 and the acknowledgement
  refine (call_ends _ _ w₁).bind ?_ fun _ _ h => ⟨h.1 ▸ hdisk₁, nofun⟩
  rintro ⟨ctx₃, out₃⟩ _ ⟨rfl, h₃⟩
  obtain ⟨tag, hencode, rfl, rfl⟩ := sendPacket_eq_ok (h₃ _ _ rfl)
  obtain ⟨-, rfl⟩ := emit_eq_ok_iff.mp hencode
  refine (roundtrip_ends _ _ _ w₁).bind ?_ fun _ _ h => ⟨h.1.trans hdisk₁, nofun⟩
  rintro b4 w₂ ⟨hdisk₂, hex₂⟩
  have hex₂ := hex₂ b4 rfl
  refine (call_ends _ _ w₂).bind ?_ fun _ _ h => ⟨h.1 ▸ hdisk₂.trans hdisk₁, nofun⟩
  rintro ⟨ctx₄, ⟨⟩⟩ _ ⟨rfl, h₄⟩
  obtain ⟨rfl, hack⟩ := authClientHandleAuthAck_returns (h₄ _ _ rfl)
  refine ⟨hdisk₂.trans hdisk₁, ?_⟩
  rintro _ ⟨⟩
  refine ⟨c, _, hc, ⟨hcomplete, devicePub, payload, a1, a2, shared, b2, b4, hpub devicePub rfl,
    hephC, ?_, hnonce, hcarries, ha2, hkey, hserver, hshared, ?_, htag, hack, w₁.log,
    hlog ▸ hex₁, hex₂⟩, rfl⟩
  · rw [hnonce]
    exact hpid
  · rw [hpid, hnonce]
    rfl

end ZkArche.C
