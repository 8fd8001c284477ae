import ZkArche.Proto.ClientEvidenceRust
import ZkArche.Proto.ClientExchangeRust

/-!
# What the Rust client keeps, and for whom it speaks

A run of the client never changes a root or a role credential that is stored.  Every packet that it
sends speaks for the root and the role credential that are stored when it ends (`SameDevice`).  This
holds over every transport and whichever operations of the store fail.
-/

namespace ZkArche.Rust

variable {q : ℕ} {G : Type} [AddCommGroup G] [Module (ZMod q) G]

/-- The packets of a device with this root and this role credential. -/
inductive SpokenBy (S : Suite q G) (root : Bytes 32) (role : RoleCredential q G) :
    List UInt8 → Prop where
  | setup1 {token : Option (List UInt8)} {nonce : Bytes 32} {sid : SessionId}
      {payload : List UInt8} :
      Setup1.encode S ⟨token, deriveDeviceId S root, deriveDeviceScalar S root • S.base, nonce,
        role.commitment⟩ = .ok payload →
      SpokenBy S root role (frame pktSetup1 sid 0 payload)
  | setup3 (draw : Bytes 64) (sid : SessionId) (serverPub : G) (nonce serverNonce : Bytes 32)
      (challenge : Bytes 16) :
      SpokenBy S root role (frame pktSetup3 sid 1 (Setup3.encode S
        ⟨proveSetupClient S draw (deriveDeviceScalar S root) ⟨deriveDeviceId S root,
          deriveDeviceScalar S root • S.base, serverPub, nonce, serverNonce, challenge⟩⟩))
  | auth1 {pinned : G} {allowedRoles : List UInt64} {draws : AuthClientDraws} {sid : SessionId}
      {st : AuthStart q G} :
      authStart S (deriveDeviceScalar S root) pinned role allowedRoles draws = .ok st →
      SpokenBy S root role (frame pktAuth1 sid 0 (st.a1.encode S))
  | auth3 (tag : Bytes 32) (sid : SessionId) :
      SpokenBy S root role (frame pktAuth3 sid 1 (Auth3.encode ⟨tag⟩))

variable {S : Suite q G}

/-- Since `w`, the root and the role credential are the same, and what was sent speaks for them. -/
structure SameDevice (S : Suite q G) (w w' : World q G) : Prop where
  deviceRoot : ∀ root, w.store.deviceRoot = some root → w'.store.deviceRoot = some root
  roleCredential : ∀ c, w.store.roleCredential = some c → w'.store.roleCredential = some c
  sent : ∃ new, w'.log = new ++ w.log ∧ ∀ packet, .sent packet ∈ new → ∃ root role,
    w'.store.deviceRoot = some root ∧ w'.store.roleCredential = some role ∧
      SpokenBy S root role packet

theorem SameDevice.refl (w : World q G) : SameDevice S w w :=
  ⟨fun _ => id, fun _ => id, [], rfl, nofun⟩

theorem SameDevice.trans {w w' w'' : World q G} (h : SameDevice S w w')
    (h' : SameDevice S w' w'') : SameDevice S w w'' := by
  obtain ⟨new, hlog, hnew⟩ := h.sent
  obtain ⟨new', hlog', hnew'⟩ := h'.sent
  refine ⟨fun r hr => h'.deviceRoot r (h.deviceRoot r hr),
    fun c hc => h'.roleCredential c (h.roleCredential c hc), new' ++ new, ?_, ?_⟩
  · rw [hlog', hlog, List.append_assoc]
  · intro packet hp
    obtain hp | hp := List.mem_append.mp hp
    · exact hnew' packet hp
    · obtain ⟨root, role, hroot, hrole, hspoken⟩ := hnew packet hp
      exact ⟨root, role, h'.deviceRoot root hroot, h'.roleCredential role hrole, hspoken⟩

/-! ## Operations -/

/-- An operation that sends nothing. -/
theorem SameDevice.of_log {w w' : World q G} (hlog : w'.log = w.log)
    (hroot : ∀ root, w.store.deviceRoot = some root → w'.store.deviceRoot = some root)
    (hrole : ∀ c, w.store.roleCredential = some c → w'.store.roleCredential = some c) :
    SameDevice S w w' := ⟨hroot, hrole, [], hlog, nofun⟩

theorem loadOrCreateDeviceRoot_same (create : Bool) (w : World q G) :
    Routine.Ends (loadOrCreateDeviceRoot create) w fun r w' => SameDevice S w w' ∧
      ∀ root, r = .ok root → w'.store.deviceRoot = some root := by
  refine ⟨?_, fun root hr => (loadOrCreateDeviceRoot_ends create w).2.2 root hr⟩
  unfold loadOrCreateDeviceRoot
  rw [Routine.exec_op]
  split
  next => exact .refl w
  next => exact .refl w
  next hnone =>
    split
    · refine .of_log rfl ?_ fun _ => id
      intro root hroot
      rw [hnone] at hroot
      cases hroot
    · exact .refl w

/-- The role credential that is returned is stored, and an old one is kept. -/
theorem ensureRoleCredential_same (roleBlind : Bytes 64) (w : World q G) :
    Routine.Ends (ensureRoleCredential S roleBlind) w fun r w' => SameDevice S w w' ∧
      w'.store.deviceRoot = w.store.deviceRoot ∧
      ∀ c, r = .ok c → w'.store.roleCredential = some c := by
  refine (loadRoleCredential_ends w).bind ?_ fun e _ h => ⟨h.1 ▸ .refl w, h.1 ▸ rfl, nofun⟩
  rintro stored _ ⟨rfl, hstored⟩
  have hstored := hstored stored rfl
  cases stored with
  | some c =>
      refine ⟨.refl w, rfl, ?_⟩
      rintro c' ⟨⟩
      exact hstored.symm
  | none =>
      have hempty : ∀ {w' : World q G}, w'.log = w.log →
          w'.store.deviceRoot = w.store.deviceRoot → SameDevice S w w' := by
        intro w' hlog hroot
        refine .of_log hlog (fun root h => hroot.trans h) fun c hc => ?_
        rw [← hstored] at hc
        cases hc
      have hsave : ∀ c : RoleCredential q G, Routine.Ends (saveRoleCredential c) w fun r w' =>
          SameDevice S w w' ∧ w'.store.deviceRoot = w.store.deviceRoot ∧
            (r = .ok () → w'.store.roleCredential = some c) := by
        intro c
        obtain ⟨hp, hroot⟩ := saveRoleCredential_ends c w
        refine ⟨hempty hp.log hroot, hroot, ?_⟩
        unfold saveRoleCredential
        rw [Routine.exec_op]
        split
        · exact nofun
        · exact fun _ => rfl
      refine (hsave _).bind ?_ fun e w' h => ⟨h.1, h.2.1, nofun⟩
      rintro ⟨⟩ w' ⟨hsame, hroot, hc⟩
      refine ⟨hsame, hroot, ?_⟩
      rintro c ⟨⟩
      exact hc rfl

/-- A request sends copies of one packet. -/
theorem sendExpect_same (maxRetries : ℕ) {ty expected : UInt8} {sid : SessionId} {seq : UInt32}
    {payload : List UInt8} (hne : expected ≠ pktError) {w : World q G} {root : Bytes 32}
    {role : RoleCredential q G} (hroot : w.store.deviceRoot = some root)
    (hrole : w.store.roleCredential = some role)
    (hspoken : SpokenBy S root role (frame ty sid seq payload)) :
    Routine.Ends (sendExpect maxRetries ty sid seq payload expected) w fun _ w' =>
      SameDevice S w w' ∧ w'.store = w.store := by
  by_cases hlen : payload.length ≤ maxPayload
  · refine (sendExpect_settles [] hne maxRetries ty hlen w).mono ?_
    rintro r w' ⟨new, hconv, -⟩
    have hstore := hconv.store
    refine ⟨⟨?_, ?_, new, hconv.log, ?_⟩, hstore⟩
    · exact fun r hr => by rw [hstore, hr]
    · exact fun c hc => by rw [hstore, hc]
    · intro packet hp
      rw [hconv.eq_of_sent hp, hstore]
      exact ⟨root, role, hroot, hrole, hspoken⟩
  · have hbuild : ∀ packet, buildPacket ty sid seq payload ≠ .ok packet := by
      intro packet h
      exact hlen (buildPacket_eq_ok_iff.mp h).1
    refine (attempt_ends _ w).bind ?_ fun e _ h => ⟨h.1 ▸ .refl w, by rw [h.1]⟩
    rintro packet _ ⟨-, h⟩
    exact absurd (h packet rfl) (hbuild packet)

theorem saveServerPub_same (K : G) (w : World q G) :
    Routine.Ends (saveServerPub K) w fun _ w' => SameDevice S w w' := by
  obtain ⟨hlog, hroot, -⟩ := saveServerPub_ends K w
  refine ⟨fun root h => hroot.trans h, ?_, [.savedServerPub K], hlog, ?_⟩
  · unfold saveServerPub
    rw [Routine.exec_op]
    split
    · exact fun _ => id
    · exact fun _ => id
  · intro packet hp
    cases List.mem_singleton.mp hp

/-! ## Runs -/

variable [DecidableEq G]

/-- `run_setup_client` speaks for one device, and so does what it stores. -/
theorem runSetupClient_same (maxRetries : ℕ) (token : Option (List UInt8)) (allowTofu : Bool)
    (draws : SetupClientDraws) (w : World q G) :
    Routine.Ends (runSetupClient S maxRetries token allowTofu draws) w fun _ w' =>
      SameDevice S w w' := by
  refine (loadOrCreateDeviceRoot_same true w).bind ?_ fun _ _ h => h.1
  rintro root w₁ ⟨h₁, hroot⟩
  refine (attempt_ends _ w₁).bind ?_ fun _ _ h => h.1 ▸ h₁
  rintro - _ ⟨rfl, -⟩
  refine (ensureRoleCredential_same _ w₁).bind ?_ fun _ _ h => h₁.trans h.1
  rintro role w₂ ⟨h₂, hroot₂, hrole⟩
  have h := h₁.trans h₂
  have hroot := hroot₂.trans (hroot root rfl)
  have hrole := hrole role rfl
  refine (loadServerPub_ends w₂).bind ?_ fun _ _ hl => hl.1 ▸ h
  rintro pinned _ ⟨rfl, -⟩
  refine (attempt_ends _ w₂).bind ?_ fun _ _ ha => ha.1 ▸ h
  rintro - _ ⟨rfl, -⟩
  refine (attempt_ends _ w₂).bind ?_ fun _ _ ha => ha.1 ▸ h
  rintro payload _ ⟨rfl, hpayload⟩
  -- SETUP_1
  refine (sendExpect_same maxRetries (by decide) hroot hrole (.setup1 (hpayload payload rfl))).bind
    ?_ fun _ _ hs => h.trans hs.1
  rintro s2Bytes w₃ ⟨h₃, hstore⟩
  have h := h.trans h₃
  rw [← hstore] at hroot hrole
  refine (attempt_ends _ w₃).bind ?_ fun _ _ ha => ha.1 ▸ h
  rintro s2 _ ⟨rfl, -⟩
  -- SETUP_3
  refine (sendExpect_same maxRetries (by decide) hroot hrole (.setup3 ..)).bind
    ?_ fun _ _ hs => h.trans hs.1
  rintro ack w₄ ⟨h₄, hstore₄⟩
  have h := h.trans h₄
  refine (attempt_ends _ w₄).bind ?_ fun _ _ ha => ha.1 ▸ h
  rintro - _ ⟨rfl, -⟩
  exact (saveServerPub_same _ _).mono fun _ _ hs => h.trans hs

/-- `run_auth_client` speaks for one device and stores nothing. -/
theorem runAuthClient_same (maxRetries : ℕ) (allowedRoles : List UInt64) (draws : AuthClientDraws)
    (w : World q G) :
    Routine.Ends (runAuthClient S maxRetries allowedRoles draws) w fun _ w' =>
      SameDevice S w w' ∧ w'.store = w.store := by
  refine (loadAuthCredentials_ends w).bind ?_ fun _ _ h => ⟨h.1 ▸ .refl w, by rw [h.1]⟩
  rintro ⟨x, pinned, role⟩ _ ⟨rfl, hload⟩
  obtain ⟨root, hroot, rfl, -, hrole⟩ := hload x pinned role rfl
  refine (attempt_ends _ w).bind ?_ fun _ _ h => ⟨h.1 ▸ .refl w, by rw [h.1]⟩
  rintro st _ ⟨rfl, hst⟩
  -- AUTH_1
  refine (sendExpect_same maxRetries (by decide) hroot hrole (.auth1 (hst st rfl))).bind ?_
    fun _ _ h => h
  rintro a2Bytes w₁ ⟨h₁, hstore₁⟩
  refine (attempt_ends _ w₁).bind ?_ fun _ _ ha => ha.1 ▸ ⟨h₁, hstore₁⟩
  rintro c _ ⟨rfl, -⟩
  -- AUTH_3
  rw [← hstore₁] at hroot hrole
  refine (sendExpect_same maxRetries (by decide) hroot hrole (.auth3 ..)).bind ?_
    fun _ _ h => ⟨h₁.trans h.1, h.2.trans hstore₁⟩
  rintro ack w₂ ⟨h₂, hstore₂⟩
  have h := h₁.trans h₂
  refine (attempt_ends _ w₂).bind ?_ fun _ _ ha => ha.1 ▸ ⟨h, hstore₂.trans hstore₁⟩
  rintro - _ ⟨rfl, -⟩
  exact ⟨h, hstore₂.trans hstore₁⟩

end ZkArche.Rust
