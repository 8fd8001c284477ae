import ZkArche.Proto.ClientSpecRust

/-!
# What the Rust client has seen when it succeeds

The transport is the adversary's: it may deliver any packets, in any order, or fail at any
point.  A client that returns a session key has nevertheless received an AUTH_2 that
confirms this key and then the acknowledgement.  A client that saves a server key has
received a SETUP_2 that proves possession of it and then the acknowledgement.
-/

namespace ZkArche.Rust

variable {q : ℕ} {G : Type}

/-! ## The credential store -/

/-- What preparing a request may change: the device root and the role credential. -/
structure Prepared (w w' : World q G) : Prop where
  log : w'.log = w.log
  serverPub : w'.store.serverPub = w.store.serverPub
  saveFails : w'.store.saveServerPubFails = w.store.saveServerPubFails

theorem Prepared.refl (w : World q G) : Prepared w w := ⟨rfl, rfl, rfl⟩

theorem Prepared.trans {w w' w'' : World q G} (h : Prepared w w') (h' : Prepared w' w'') :
    Prepared w w'' :=
  ⟨h'.log.trans h.log, h'.serverPub.trans h.serverPub, h'.saveFails.trans h.saveFails⟩

theorem loadOrCreateDeviceRoot_ends (create : Bool) (w : World q G) :
    Routine.Ends (loadOrCreateDeviceRoot create) w fun r w' => Prepared w w' ∧
      (create = false → w' = w) ∧ ∀ root, r = .ok root → w'.store.deviceRoot = some root := by
  unfold Routine.Ends loadOrCreateDeviceRoot
  rw [Routine.exec_op]
  split
  next => exact ⟨.refl w, fun _ => rfl, nofun⟩
  next root _ hroot =>
    refine ⟨.refl w, fun _ => rfl, ?_⟩
    rintro root' ⟨⟩
    exact hroot
  next =>
    split
    next hc =>
      refine ⟨⟨rfl, rfl, rfl⟩, ?_, ?_⟩
      · intro hf
        rw [hf] at hc
        cases hc
      · rintro root' ⟨⟩
        rfl
    next => exact ⟨.refl w, fun _ => rfl, nofun⟩

theorem loadServerPub_ends (w : World q G) :
    Routine.Ends loadServerPub w fun r w' => w = w' ∧ ∀ p, r = .ok p → p = w.store.serverPub := by
  unfold Routine.Ends loadServerPub
  rw [Routine.exec_op]
  split
  next => exact ⟨rfl, nofun⟩
  next =>
    refine ⟨rfl, ?_⟩
    rintro p ⟨⟩
    rfl

theorem loadRoleCredential_ends (w : World q G) :
    Routine.Ends loadRoleCredential w fun r w' => w = w' ∧
      ∀ c, r = .ok c → c = w.store.roleCredential := by
  unfold Routine.Ends loadRoleCredential
  rw [Routine.exec_op]
  split
  next => exact ⟨rfl, nofun⟩
  next =>
    refine ⟨rfl, ?_⟩
    rintro p ⟨⟩
    rfl

theorem saveRoleCredential_ends (c : RoleCredential q G) (w : World q G) :
    Routine.Ends (saveRoleCredential c) w fun _ w' => Prepared w w' ∧
      w'.store.deviceRoot = w.store.deviceRoot := by
  unfold Routine.Ends saveRoleCredential
  rw [Routine.exec_op]
  split
  next => exact ⟨⟨rfl, rfl, rfl⟩, rfl⟩
  next => exact ⟨⟨rfl, rfl, rfl⟩, rfl⟩

/-- Saving a key is logged, and the key is stored unless the save fails. -/
theorem saveServerPub_ends (K : G) (w : World q G) :
    Routine.Ends (saveServerPub K) w fun r w' => w'.log = .savedServerPub K :: w.log ∧
      w'.store.deviceRoot = w.store.deviceRoot ∧
      ((r = .ok () ∧ w'.store.serverPub = some K) ∨
        ∃ e written, w.store.saveServerPubFails = some (e, written) ∧
          r = .error (.stopped (.err e)) ∧
          (w'.store.serverPub = some K ∨ w'.store.serverPub = w.store.serverPub)) := by
  unfold Routine.Ends saveServerPub
  rw [Routine.exec_op]
  split
  next e written h =>
    refine ⟨rfl, rfl, .inr ⟨e, written, h, rfl, ?_⟩⟩
    cases written with
    | true => exact .inl rfl
    | false => exact .inr rfl
  next => exact ⟨rfl, rfl, .inl ⟨rfl, rfl⟩⟩

variable [AddCommGroup G] [Module (ZMod q) G] {S : Suite q G}

theorem ensureRoleCredential_ends (roleBlind : Bytes 64) (w : World q G) :
    Routine.Ends (ensureRoleCredential S roleBlind) w fun _ w' => Prepared w w' ∧
      w'.store.deviceRoot = w.store.deviceRoot := by
  apply (loadRoleCredential_ends w).bind
  · rintro stored _ ⟨rfl, -⟩
    cases stored with
    | some c => exact ⟨.refl w, rfl⟩
    | none =>
        apply (saveRoleCredential_ends _ w).bind
        · exact fun _ _ h => h
        · exact fun _ _ h => h
  · rintro e _ ⟨rfl, -⟩
    exact ⟨.refl w, rfl⟩

/-! ## AUTH -/

variable [DecidableEq G]

/-- What a client that returns the session key `k` has received since `w`. -/
structure AuthEvidence (S : Suite q G) (allowedRoles : List UInt64) (draws : AuthClientDraws)
    (w w' : World q G) (k : Bytes 32) : Prop where
  received : ∃ b2 payload b4 before between,
    w'.log = .received b4 :: (between ++ .received b2 :: (before ++ w.log)) ∧
    Carries b2 (randSessionId draws.sessionId) 0 pktAuth2 payload ∧
    Carries b4 (randSessionId draws.sessionId) 1 pktAuthAck [ackByte] ∧
    ∃ root pinned role st a2, w.store.deviceRoot = some root ∧
      w.store.serverPub = some pinned ∧ w.store.roleCredential = some role ∧
      authStart S (deriveDeviceScalar S root) pinned role allowedRoles draws = .ok st ∧
      Auth2.decode S payload = .ok a2 ∧ a2.serverPub = pinned ∧
      verifyAuthServer S a2.serverPub a2.nonceS a2.ephS a2.serverProof = true ∧
      k = deriveSessionKey S st.ephSecret a2.ephS st.a1.nonceC a2.nonceS st.a1.pid st.a1.ephC
        a2.ephS ∧
      a2.tagS = hmacTag S (deriveKcKeys S k (kcTranscriptHash S (st.parts a2))).1
        (ascii "server finished") (kcTranscriptHash S (st.parts a2))

omit [DecidableEq G] in
theorem authStart_serverPub {x : ZMod q} {pinned : G} {role : RoleCredential q G}
    {allowedRoles : List UInt64} {draws : AuthClientDraws} {st : AuthStart q G}
    (h : authStart S x pinned role allowedRoles draws = .ok st) : st.serverPub = pinned := by
  simp only [authStart, Except.bind_eq_ok_iff, Except.pure_eq_ok, Except.ok.injEq] at h
  obtain ⟨branches, -, rfl⟩ := h
  rfl

/-- The credentials of `run_auth_client` are those of the store. -/
theorem loadAuthCredentials_ends (w : World q G) :
    Routine.Ends (loadAuthCredentials S) w fun r w' => w = w' ∧ ∀ x pinned role,
      r = .ok (x, pinned, role) → ∃ root, w.store.deviceRoot = some root ∧
        x = deriveDeviceScalar S root ∧ w.store.serverPub = some pinned ∧
        w.store.roleCredential = some role := by
  refine (loadOrCreateDeviceRoot_ends false w).bind ?_ fun _ _ h => ⟨(h.2.1 rfl).symm, nofun⟩
  rintro root w₁ ⟨-, hw, hroot⟩
  obtain rfl := hw rfl
  refine (attempt_ends _ w₁).bind ?_ fun _ _ h => ⟨h.1, nofun⟩
  rintro - _ ⟨rfl, -⟩
  refine (loadServerPub_ends w₁).bind ?_ fun _ _ h => ⟨h.1, nofun⟩
  rintro pinned _ ⟨rfl, hpinned⟩
  refine (attempt_ends _ w₁).bind ?_ fun _ _ h => ⟨h.1, nofun⟩
  rintro pub _ ⟨rfl, hpub⟩
  refine (loadRoleCredential_ends w₁).bind ?_ fun _ _ h => ⟨h.1, nofun⟩
  rintro stored _ ⟨rfl, hstored⟩
  refine (attempt_ends _ w₁).bind ?_ fun _ _ h => ⟨h.1, nofun⟩
  rintro role _ ⟨rfl, hrole⟩
  refine ⟨rfl, ?_⟩
  rintro x pinned' role' ⟨⟩
  refine ⟨root, hroot root rfl, rfl, ?_, ?_⟩
  · rw [← hpinned pinned rfl]
    cases pinned with
    | some p =>
        cases hpub pub rfl
        rfl
    | none => cases hpub pub rfl
  · rw [← hstored stored rfl]
    cases stored with
    | some c =>
        cases hrole role rfl
        rfl
    | none => cases hrole role rfl

/-- A client that returns a session key has the evidence for it. -/
theorem runAuthClient_ends (maxRetries : ℕ) (allowedRoles : List UInt64)
    (draws : AuthClientDraws) (w : World q G) :
    Routine.Ends (runAuthClient S maxRetries allowedRoles draws) w fun r w' =>
      ∀ k, r = .ok k → AuthEvidence S allowedRoles draws w w' k := by
  refine (loadAuthCredentials_ends w).bind ?_ fun _ _ _ => nofun
  rintro ⟨x, pinned, role⟩ _ ⟨rfl, hload⟩
  obtain ⟨root, hroot, rfl, hpinned, hrole⟩ := hload x pinned role rfl
  refine (attempt_ends _ w).bind ?_ fun _ _ _ => nofun
  rintro st _ ⟨rfl, hst⟩
  -- AUTH_1 and the response to it
  refine (sendExpect_ends maxRetries _ _ _ _ _ w).bind ?_ fun _ _ _ => nofun
  rintro payload w₁ ⟨-, ha⟩
  obtain ⟨b2, before, hlog2, hb2⟩ := ha payload rfl
  refine (attempt_ends _ w₁).bind ?_ fun _ _ _ => nofun
  rintro c _ ⟨rfl, hc⟩
  obtain ⟨a2, hd, hpub, hv, htag, rfl⟩ := acceptAuth2_eq_ok_iff.mp (hc c rfl)
  -- AUTH_3 and the acknowledgement
  refine (sendExpect_ends maxRetries _ _ _ _ _ w₁).bind ?_ fun _ _ _ => nofun
  rintro ack w₂ ⟨-, ha4⟩
  obtain ⟨b4, between, hlog4, hb4⟩ := ha4 ack rfl
  refine (attempt_ends _ w₂).bind ?_ fun _ _ _ => nofun
  rintro _ _ ⟨rfl, hack⟩
  obtain rfl : ack = [ackByte] := ensure_eq_ok_iff.mp (orStop_eq_ok_iff.mp (hack () rfl))
  rintro k ⟨⟩
  refine ⟨b2, payload, b4, before, between, ?_, hb2, hb4, root, pinned, role, st, a2, hroot,
    hpinned, hrole, hst st rfl, hd, ?_, hv, rfl, htag⟩
  · show w₂.log = _
    rw [hlog4, hlog2]
  · rw [hpub, authStart_serverPub (hst st rfl)]

/-! ## SETUP -/

/-- What a client that saves the server key `K` has received since `w`: a SETUP_2 that proves
possession of `K`, and then the acknowledgement. -/
structure SetupEvidence (S : Suite q G) (draws : SetupClientDraws) (w w' : World q G) (K : G) :
    Prop where
  received : ∃ b2 payload b4 before between,
    w'.log = .savedServerPub K :: .received b4 ::
      (between ++ .received b2 :: (before ++ w.log)) ∧
    Carries b2 (randSessionId draws.sessionId) 0 pktSetup2 payload ∧
    Carries b4 (randSessionId draws.sessionId) 1 pktSetupAck [ackByte] ∧
    ∃ root s2, w'.store.deviceRoot = some root ∧ Setup2.decode S payload = .ok s2 ∧
      verifySetupServer S ⟨deriveDeviceId S root, deriveDeviceScalar S root • S.base,
        s2.serverPub, draws.nonce, s2.serverNonce, s2.setupChallenge⟩ s2.serverProof = true ∧
      K = s2.serverPub
  /-- A key that was pinned before is the same key. -/
  pinned : ∀ p, w.store.serverPub = some p → p = K

/-- How `run_setup_client` may end. -/
inductive SetupEnds (S : Suite q G) (draws : SetupClientDraws) (w : World q G) :
    Except Halt Unit → World q G → Prop where
  /-- Without a result, or with an error, and the stored key is as before. -/
  | unsaved {h : Halt} {w' : World q G} : w'.store.serverPub = w.store.serverPub →
      (∃ new, w'.log = new ++ w.log ∧ ∀ K, .savedServerPub K ∉ new) →
      SetupEnds S draws w (.error h) w'
  /-- With the key saved. -/
  | saved {K : G} {w' : World q G} : SetupEvidence S draws w w' K →
      w'.store.serverPub = some K → SetupEnds S draws w (.ok ()) w'
  /-- With the error of the save, and the key written or not. -/
  | saveFailed {K : G} {e : ProtoError} {written : Bool} {w' : World q G} :
      SetupEvidence S draws w w' K → w.store.saveServerPubFails = some (e, written) →
      w'.store.serverPub = some K ∨ w'.store.serverPub = w.store.serverPub →
      SetupEnds S draws w (.error (.stopped (.err e))) w'

/-- A client that has only prepared its request. -/
theorem SetupEnds.of_prepared {draws : SetupClientDraws} {w w' : World q G} {h : Halt}
    (hp : Prepared w w') : SetupEnds S draws w (.error h) w' :=
  .unsaved hp.serverPub ⟨[], hp.log, fun _ => List.not_mem_nil⟩

/-- A client that has talked after it prepared its request. -/
theorem SetupEnds.of_talked {draws : SetupClientDraws} {w w₁ w' : World q G} {h : Halt}
    (hp : Prepared w w₁) (ht : Talked w₁ w') : SetupEnds S draws w (.error h) w' := by
  obtain ⟨new, hlog, hnew⟩ := ht.log
  refine .unsaved ?_ ⟨new, ?_, hnew⟩
  · rw [ht.store, hp.serverPub]
  · rw [hlog, hp.log]

/-- `run_setup_client` ends in one of these ways, and sends nothing when it has no pinned key
and may not trust on first use. -/
theorem runSetupClient_ends (maxRetries : ℕ) (token : Option (List UInt8)) (allowTofu : Bool)
    (draws : SetupClientDraws) (w : World q G) :
    Routine.Ends (runSetupClient S maxRetries token allowTofu draws) w fun r w' =>
      SetupEnds S draws w r w' ∧
        (w.store.serverPub = none → allowTofu = false → w'.log = w.log) := by
  -- whatever stops before the first request
  have hearly : ∀ (h : Halt) (w' : World q G), Prepared w w' →
      SetupEnds S draws w (.error h) w' ∧
        (w.store.serverPub = none → allowTofu = false → w'.log = w.log) :=
    fun h w' hp => ⟨.of_prepared hp, fun _ _ => hp.log⟩
  refine (loadOrCreateDeviceRoot_ends true w).bind ?_ fun e w₁ h => hearly e w₁ h.1
  rintro root w₁ ⟨hp₁, -, hroot⟩
  refine (attempt_ends _ w₁).bind ?_ fun e _ h => hearly e _ (h.1 ▸ hp₁)
  rintro - _ ⟨rfl, -⟩
  refine (ensureRoleCredential_ends _ w₁).bind ?_ fun e w₂ h => hearly e w₂ (hp₁.trans h.1)
  rintro roleCred w₂ ⟨hp₂, hroot₂⟩
  have hp := hp₁.trans hp₂
  refine (loadServerPub_ends w₂).bind ?_ fun e _ h => hearly e _ (h.1 ▸ hp)
  rintro pinned _ ⟨rfl, hpinned⟩
  obtain rfl : pinned = w.store.serverPub := by rw [hpinned pinned rfl, hp.serverPub]
  refine (attempt_ends _ w₂).bind ?_ fun e _ h => hearly e _ (h.1 ▸ hp)
  rintro _ _ ⟨rfl, hpolicy⟩
  -- past the pin policy there is a pinned key, or trust on first use
  have hallow := ensure_eq_ok_iff.mp (hpolicy () rfl)
  have hsilent : ∀ w' : World q G, w.store.serverPub = none → allowTofu = false →
      w'.log = w.log := by
    intro w' hn hf
    rw [hn, hf] at hallow
    cases hallow
  refine (attempt_ends _ w₂).bind ?_ fun e _ h => hearly e _ (h.1 ▸ hp)
  rintro payload _ ⟨rfl, -⟩
  -- SETUP_1 and the response to it
  refine (sendExpect_ends maxRetries _ _ _ _ _ w₂).bind ?_
    fun e w₃ h => ⟨.of_talked hp h.1, hsilent w₃⟩
  rintro s2Bytes w₃ ⟨ht₃, ha₃⟩
  obtain ⟨b2, before, hlog2, hb2⟩ := ha₃ s2Bytes rfl
  refine (attempt_ends _ w₃).bind ?_ fun e _ h => ⟨.of_talked hp (h.1 ▸ ht₃), hsilent _⟩
  rintro s2 _ ⟨rfl, hs2⟩
  obtain ⟨hd, hsame, hv⟩ := acceptSetup2_eq_ok_iff.mp (hs2 s2 rfl)
  -- SETUP_3 and the acknowledgement
  refine (sendExpect_ends maxRetries _ _ _ _ _ w₃).bind ?_
    fun e w₄ h => ⟨.of_talked hp (ht₃.trans h.1), hsilent w₄⟩
  rintro ack w₄ ⟨ht₄, ha₄⟩
  obtain ⟨b4, between, hlog4, hb4⟩ := ha₄ ack rfl
  refine (attempt_ends _ w₄).bind ?_
    fun e _ h => ⟨.of_talked hp (ht₃.trans (h.1 ▸ ht₄)), hsilent _⟩
  rintro _ _ ⟨rfl, hack⟩
  obtain rfl : ack = [ackByte] := ensure_eq_ok_iff.mp (orStop_eq_ok_iff.mp (hack () rfl))
  -- the key is saved
  apply (saveServerPub_ends s2.serverPub w₄).mono
  rintro r w₅ ⟨hlog5, hroot5, hres⟩
  have hstore : w₄.store = w₂.store := by rw [ht₄.store, ht₃.store]
  have hev : SetupEvidence S draws w w₅ s2.serverPub := by
    refine ⟨⟨b2, s2Bytes, b4, before, between, ?_, hb2, hb4, root, s2, ?_, hd, hv, rfl⟩, hsame⟩
    · rw [hlog5, hlog4, hlog2, hp.log]
    · rw [hroot5, hstore, hroot₂, hroot root rfl]
  refine ⟨?_, hsilent w₅⟩
  obtain ⟨rfl, hk⟩ | ⟨e, written, hf, rfl, hk⟩ := hres
  · exact .saved hev hk
  · rw [hstore, hp.saveFails] at hf
    rw [hstore, hp.serverPub] at hk
    exact .saveFailed hev hf hk

/-- The stored key changes only when the client returns, or when its last save fails. -/
theorem SetupEnds.change {draws : SetupClientDraws} {w w' : World q G} {r : Except Halt Unit}
    (h : SetupEnds S draws w r w') (hne : w'.store.serverPub ≠ w.store.serverPub) :
    ∃ K, w'.store.serverPub = some K ∧ SetupEvidence S draws w w' K ∧
      (r = .ok () ∨ ∃ e written, w.store.saveServerPubFails = some (e, written) ∧
        r = .error (.stopped (.err e))) := by
  cases h with
  | unsaved hsame _ => exact absurd hsame hne
  | saved hev hk => exact ⟨_, hk, hev, .inl rfl⟩
  | saveFailed hev hf hk => exact ⟨_, hk.resolve_right hne, hev, .inr ⟨_, _, hf, rfl⟩⟩

/-- Over every transport and every credential store.  `run_auth_client` returns a session key
only with the evidence for it.  `run_setup_client` changes the stored server key only when it
returns or its last save fails, saves a key only with the evidence for it, and sends nothing
when it has no pinned key and may not trust on first use. -/
theorem client_evidence (S : Suite q G) (maxRetries : ℕ) (w : World q G) :
    (∀ allowedRoles draws k,
      ((runAuthClient S maxRetries allowedRoles draws).exec w).1 = .ok k →
        AuthEvidence S allowedRoles draws w
          ((runAuthClient S maxRetries allowedRoles draws).exec w).2 k) ∧
    ∀ token allowTofu draws r w',
      (runSetupClient S maxRetries token allowTofu draws).exec w = (r, w') →
        SetupEnds S draws w r w' ∧
        (w'.store.serverPub ≠ w.store.serverPub →
          ∃ K, w'.store.serverPub = some K ∧ SetupEvidence S draws w w' K ∧
            (r = .ok () ∨ ∃ e written, w.store.saveServerPubFails = some (e, written) ∧
              r = .error (.stopped (.err e)))) ∧
        (w.store.serverPub = none → allowTofu = false → w'.log = w.log) := by
  refine ⟨fun roles draws => runAuthClient_ends maxRetries roles draws w, ?_⟩
  intro token allowTofu draws r w' hrun
  have h := runSetupClient_ends (S := S) maxRetries token allowTofu draws w
  unfold Routine.Ends at h
  rw [hrun] at h
  exact ⟨h.1, h.1.change, h.2⟩

end ZkArche.Rust
