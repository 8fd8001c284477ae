import ZkArche.Crypto.SmallSuite
import ZkArche.Panics.Client
import ZkArche.Panics.Exchange

/-!
# When the Rust client returns

`run_setup_client` and `run_auth_client` panic in three places.  `Setup1::encode` asserts that the
pairing token has at most 128 bytes.  `prove_role_set_membership` expects the role of the credential
in `allowed_roles`, but `load_role_credential` only checks that the commitment is one to that role.
And `build_packet` refuses an AUTH_1 with more than 18 branches.  Nothing checks any of this before.

All three happen before anything is sent.  After that, a client only fails to return when a reliable
transport keeps it waiting with packets of other requests (`client_returns_iff`).
-/

namespace ZkArche.Rust

variable {q : ℕ} {G : Type} [AddCommGroup G] [Module (ZMod q) G] [DecidableEq G] (S : Suite q G)

/-! ## What the files give a client -/

/-- `run_setup_client` gets to the network with these values. -/
structure SetupLoads (files : DeviceFiles) (allowTofu : Bool) (roleBlind : Bytes 64)
    (st : Checked.SetupStart q G) : Prop where
  root : ∃ root, Checked.loadOrCreateDeviceRoot files.root files.rootWrite files.rootDraw true
    = .ok root ∧ st.deviceId = deriveDeviceId S root ∧ st.x = deriveDeviceScalar S root
  device : st.x • S.base ≠ 0
  role : (∃ c, Checked.loadRoleCredential S files.roleCred = .ok (some c) ∧
      st.roleCommitment = c.commitment) ∨
    (Checked.loadRoleCredential S files.roleCred = .ok none ∧ files.roleWrite = .ok () ∧
      st.roleCommitment = makeRoleCommitment S 1 (scalarOf roleBlind))
  pinned : Checked.loadServerPub S files.serverPub = .ok st.pinned
  policy : (st.pinned.isSome || allowTofu) = true

/-- `run_auth_client` gets to its AUTH_1 with these values. -/
structure AuthLoads (files : DeviceFiles) (x : ZMod q) (serverPub : G)
    (role : RoleCredential q G) : Prop where
  root : ∃ root, Checked.loadOrCreateDeviceRoot files.root files.rootWrite files.rootDraw false
    = .ok root ∧ x = deriveDeviceScalar S root
  device : x • S.base ≠ 0
  pinned : Checked.loadServerPub S files.serverPub = .ok (some serverPub)
  role : Checked.loadRoleCredential S files.roleCred = .ok (some role)

variable {S} (K : Crates S)

theorem ensureRoleCredential_noPanic (files : DeviceFiles) (roleBlind : Bytes 64) :
    FailsWith Checked.NoPanic (Checked.ensureRoleCredential S files roleBlind) := by
  refine .bind (Checked.loadRoleCredential_noPanic S files.roleCred) fun stored _ => ?_
  cases stored with
  | some c => exact .ok c
  | none =>
      refine .bind ?_ fun commitment _ => ?_
      · rw [Checked.makeRoleCommitment_eq]
        exact .ok _
      · exact .bind (Checked.writePrivateFile_noPanic files.roleWrite) fun _ _ => .ok _

theorem setupStart_noPanic (files : DeviceFiles) (allowTofu : Bool) (roleBlind : Bytes 64) :
    FailsWith Checked.NoPanic (Checked.setupStart S K files allowTofu roleBlind) := by
  refine .bind (Checked.loadOrCreateDeviceRoot_noPanic _ _ _ _) fun root _ => ?_
  simp only [Checked.deriveDeviceId_eq, Checked.deriveDeviceScalar_eq, Except.ok_bind']
  refine .bind (Checked.orStop_noPanic _) fun _ _ => ?_
  refine .bind (ensureRoleCredential_noPanic files roleBlind) fun c _ => ?_
  refine .bind (Checked.loadServerPub_noPanic S files.serverPub) fun pinned _ => ?_
  exact .bind (.of_ensure fun _ => ⟨_, rfl⟩) fun _ _ => .ok _

theorem authCredentials_noPanic (files : DeviceFiles) :
    FailsWith Checked.NoPanic (Checked.authCredentials S K files) := by
  refine .bind (Checked.loadOrCreateDeviceRoot_noPanic _ _ _ _) fun root _ => ?_
  simp only [Checked.deriveDeviceId_eq, Checked.deriveDeviceScalar_eq, Except.ok_bind']
  refine .bind (Checked.orStop_noPanic _) fun _ _ => ?_
  refine .bind (Checked.loadServerPub_noPanic S files.serverPub) fun pinned _ => ?_
  refine .bind (Checked.okOrElse_failsWith _ ⟨_, rfl⟩) fun serverPub _ => ?_
  refine .bind (Checked.loadRoleCredential_noPanic S files.roleCred) fun stored _ => ?_
  exact .bind (Checked.okOrElse_failsWith _ ⟨_, rfl⟩) fun role _ => .ok _

theorem ensureRoleCredential_eq_ok_iff {files : DeviceFiles} {roleBlind : Bytes 64}
    {c : RoleCredential q G} : Checked.ensureRoleCredential S files roleBlind = .ok c ↔
      Checked.loadRoleCredential S files.roleCred = .ok (some c) ∨
      (Checked.loadRoleCredential S files.roleCred = .ok none ∧ files.roleWrite = .ok () ∧
        c = ⟨1, scalarOf roleBlind, makeRoleCommitment S 1 (scalarOf roleBlind)⟩) := by
  unfold Checked.ensureRoleCredential
  rcases Checked.loadRoleCredential S files.roleCred with e | (_ | c')
  · simp
  · cases files.roleWrite with
    | error m => simp [Checked.makeRoleCommitment_eq, Checked.writePrivateFile]
    | ok u => simp [Checked.makeRoleCommitment_eq, Checked.writePrivateFile, eq_comm]
  · simp

/-- The values with which `run_setup_client` gets to the network. -/
theorem setupStart_eq_ok_iff {files : DeviceFiles} {allowTofu : Bool} {roleBlind : Bytes 64}
    {st : Checked.SetupStart q G} :
    Checked.setupStart S K files allowTofu roleBlind = .ok st ↔
      SetupLoads S files allowTofu roleBlind st := by
  simp only [Checked.setupStart, Checked.deriveDeviceId_eq, Checked.deriveDeviceScalar_eq,
    Except.ok_bind', Except.bind_eq_ok_iff, orStop_eq_ok_iff, rejectIdentity, ensure_eq_ok_iff,
    ensureRoleCredential_eq_ok_iff, Except.pure_eq_ok, Except.ok.injEq]
  constructor
  · rintro ⟨root, hroot, -, hdev, c, hc, pinned, hpin, -, hpol, rfl⟩
    refine ⟨⟨root, hroot, rfl, rfl⟩, hdev, ?_, hpin, hpol⟩
    obtain hc | ⟨hnone, hwrite, rfl⟩ := hc
    · exact .inl ⟨c, hc, rfl⟩
    · exact .inr ⟨hnone, hwrite, rfl⟩
  · obtain ⟨deviceId, x, commitment, pinned⟩ := st
    rintro ⟨⟨root, hroot, rfl, rfl⟩, hdev, hrole, hpin, hpol⟩
    obtain ⟨c, hc, rfl⟩ | ⟨hnone, hwrite, rfl⟩ := hrole
    · exact ⟨root, hroot, (), hdev, c, .inl hc, pinned, hpin, (), hpol, rfl⟩
    · exact ⟨root, hroot, (), hdev, _, .inr ⟨hnone, hwrite, rfl⟩, pinned, hpin, (), hpol, rfl⟩

/-- The values with which `run_auth_client` gets to its AUTH_1. -/
theorem authCredentials_eq_ok_iff {files : DeviceFiles} {x : ZMod q} {serverPub : G}
    {role : RoleCredential q G} :
    Checked.authCredentials S K files = .ok (x, serverPub, role) ↔
      AuthLoads S files x serverPub role := by
  simp only [Checked.authCredentials, Checked.deriveDeviceId_eq, Checked.deriveDeviceScalar_eq,
    Except.ok_bind', Except.bind_eq_ok_iff, orStop_eq_ok_iff, rejectIdentity, ensure_eq_ok_iff,
    Checked.okOrElse_eq_ok_iff, Except.pure_eq_ok, Except.ok.injEq, Prod.mk.injEq]
  constructor
  · rintro ⟨root, hroot, -, hdev, -, hpin, _, rfl, -, hrole, _, rfl, rfl, rfl, rfl⟩
    exact ⟨⟨root, hroot, rfl⟩, hdev, hpin, hrole⟩
  · rintro ⟨⟨root, hroot, rfl⟩, hdev, hpin, hrole⟩
    exact ⟨root, hroot, (), hdev, _, hpin, _, rfl, _, hrole, _, rfl, rfl, rfl, rfl⟩

/-! ## What the clients do on the network -/

variable (S)

/-- The exchange of `run_setup_client`, with the payload of its SETUP_1. -/
def setupExchange (files : DeviceFiles) (st : Checked.SetupStart q G) (draws : SetupClientDraws)
    (payload : List UInt8) (fits : payload.length ≤ maxPayload) : Exchange Unit (Setup2 q G) where
  ty₁ := pktSetup1
  payload₁ := payload
  fits₁ := fits
  expected₁ := pktSetup2
  accept := acceptSetup2 S st.pinned st.deviceId (st.x • S.base) draws.nonce
  accept_noPanic := by
    intro resp
    refine .bind (Checked.orStop_noPanic _) fun s2 _ => ?_
    cases st.pinned with
    | none => exact .bind (.of_ensure fun _ => ⟨_, rfl⟩) fun _ _ => .ok _
    | some p =>
        refine .bind (.of_ensure fun _ => ⟨_, rfl⟩) fun _ _ => ?_
        exact .bind (.of_ensure fun _ => ⟨_, rfl⟩) fun _ _ => .ok _
  ty₂ := pktSetup3
  payload₂ := fun s2 => Setup3.encode S ⟨proveSetupClient S draws.proof st.x
    ⟨st.deviceId, st.x • S.base, s2.serverPub, draws.nonce, s2.serverNonce, s2.setupChallenge⟩⟩
  fits₂ := fun s2 => by simp [Setup3.encode, maxPayload, maxDatagram, headerLen]
  expected₂ := pktSetupAck
  finish := fun _ => Checked.writePrivateFile files.serverPubWrite
  finish_noPanic := fun _ => Checked.writePrivateFile_noPanic files.serverPubWrite

/-- The exchange of `run_auth_client`. -/
def authExchange (st : AuthStart q G) (fits : (st.a1.encode S).length ≤ maxPayload) :
    Exchange (Bytes 32) Confirmed where
  ty₁ := pktAuth1
  payload₁ := st.a1.encode S
  fits₁ := fits
  expected₁ := pktAuth2
  accept := acceptAuth2 S st
  accept_noPanic := by
    intro resp
    refine .bind (Checked.orStop_noPanic _) fun a2 _ => ?_
    refine .bind (.of_ensure fun _ => ⟨_, rfl⟩) fun _ _ => ?_
    refine .bind (.of_ensure fun _ => ⟨_, rfl⟩) fun _ _ => ?_
    exact .bind (.of_ensure fun _ => ⟨_, rfl⟩) fun _ _ => .ok _
  ty₂ := pktAuth3
  payload₂ := fun c => Auth3.encode ⟨c.tagC S⟩
  fits₂ := fun c => by simp [Auth3.encode, maxPayload, maxDatagram, headerLen]
  expected₂ := pktAuthAck
  finish := fun c => .ok c.sessionKey
  finish_noPanic := fun c => .ok c.sessionKey

/-- The SETUP_1 of `run_setup_client`. -/
def setup1Of (st : Checked.SetupStart q G) (token : Option (List UInt8)) (draws : SetupClientDraws) :
    Setup1 G := ⟨token, st.deviceId, st.x • S.base, draws.nonce, st.roleCommitment⟩

variable {S} {files : DeviceFiles} {maxRetries : ℕ}

/-- After its loads `run_setup_client` encodes the SETUP_1 and runs its exchange. -/
theorem runSetupClient_exec {token : Option (List UInt8)} {allowTofu : Bool}
    {draws : SetupClientDraws} {st : Checked.SetupStart q G}
    (hst : Checked.setupStart S K files allowTofu draws.roleBlind = .ok st) {payload : List UInt8}
    (hp : (setup1Of S st token draws).encode S = .ok payload) (fits : payload.length ≤ maxPayload)
    (w : World q G) :
    (Checked.runSetupClient S K files maxRetries token allowTofu draws).exec w =
      ((setupExchange S files st draws payload fits).run maxRetries
        (randSessionId draws.sessionId)).exec w := by
  rw [Checked.runSetupClient, Routine.exec_bind_ok (exec_attempt_ok hst w),
    Routine.exec_bind_ok (exec_attempt_ok (Checked.randSessionId_eq draws.sessionId) w)]
  simp only [Checked.sendExpect_eq, Checked.acceptSetup2_eq, Checked.proveSetupClient_eq,
    Checked.decodeAck_eq]
  rw [setup1Of] at hp
  rw [Routine.exec_bind_ok (exec_attempt_ok hp w)]
  rfl

/-- After its loads `run_auth_client` builds the AUTH_1 and runs its exchange. -/
theorem runAuthClient_exec {allowedRoles : List UInt64} {draws : AuthClientDraws} {x : ZMod q}
    {serverPub : G} {role : RoleCredential q G}
    (hl : Checked.authCredentials S K files = .ok (x, serverPub, role)) {st : AuthStart q G}
    (hst : Checked.authStart S x serverPub role allowedRoles draws = .ok st)
    (fits : (st.a1.encode S).length ≤ maxPayload) (w : World q G) :
    (Checked.runAuthClient S K files maxRetries allowedRoles draws).exec w =
      ((authExchange S st fits).run maxRetries (randSessionId draws.sessionId)).exec w := by
  rw [Checked.runAuthClient, Routine.exec_bind_ok (exec_attempt_ok hl w)]
  simp only [Checked.sendExpect_eq, Checked.acceptAuth2_eq, Checked.hmacTag_eq,
    Checked.decodeAck_eq]
  rw [Routine.exec_bind_ok (exec_attempt_ok hst w),
    Routine.exec_bind_ok (exec_attempt_ok (Checked.randSessionId_eq draws.sessionId) w)]
  rfl

/-! ## The panics before the network -/

omit [AddCommGroup G] [Module (ZMod q) G] [DecidableEq G] in
/-- A client that stops with an error before it talks returns. -/
theorem returns_of_error {α : Type} {x : Client q G α} {N : Network} {store : CredentialStore q G}
    {e : ProtoError} (h : ∀ w, (x.exec w).1 = .error (.stopped (.err e))) : Returns x N store := by
  have hret : ∀ n, Returned (x.exec (N.world store n)).1 := fun n => .inr ⟨e, h _⟩
  exact ⟨fun n => (returned_iff.mp (hret n)).1, 0, hret 0⟩

omit [AddCommGroup G] [Module (ZMod q) G] [DecidableEq G] in
/-- A client that panics does not return. -/
theorem not_returns_of_panic {α : Type} {x : Client q G α} {N : Network}
    {store : CredentialStore q G} (h : ∀ w, Panicked (x.exec w).1) : ¬ Returns x N store :=
  fun hr => hr.1 0 (h _)

omit [AddCommGroup G] [Module (ZMod q) G] [DecidableEq G] in
theorem exec_attempt_error {α : Type} {r : Except Stop α} {e : Stop} (h : r = .error e)
    (w : World q G) : (Routine.exec (attempt r : Client q G α) w).1 = .error (.stopped e) := by
  rw [h]
  rfl

omit [AddCommGroup G] [Module (ZMod q) G] [DecidableEq G] in
theorem returns_congr {α : Type} {x y : Client q G α} (h : ∀ w, x.exec w = y.exec w) {N : Network}
    {store : CredentialStore q G} : Returns x N store ↔ Returns y N store := by
  simp only [Returns, h]

omit [DecidableEq G] in
/-- A SETUP_1 with a short token is encoded and fits a packet. -/
theorem setup1_fits {m : Setup1 G} (h : (m.pairingToken.getD []).length ≤ 128) :
    ∃ payload, m.encode S = .ok payload ∧ payload.length ≤ maxPayload := by
  refine ⟨_, if_pos h, ?_⟩
  have hmax : maxPayload = 2024 := rfl
  simp only [List.length_cons, List.length_append, Bytes.len]
  omega

omit [DecidableEq G] in
/-- An AUTH_1 fits a packet when it has at most 18 branches. -/
theorem auth1_fits_iff (m : Auth1 q G) :
    (m.encode S).length ≤ maxPayload ↔ m.branches.length ≤ Checked.maxProvableRoles := by
  have hmax : maxPayload = 2024 := rfl
  have hroles : Checked.maxProvableRoles = 18 := rfl
  rw [Auth1.encode_eq, C.Auth1.bytes_length, Auth1.wire, List.length_map]
  omega

omit [DecidableEq G] in
/-- With at most 18 roles the AUTH_1 fits. -/
theorem Checked.authStart_fits {x : ZMod q} {serverPub : G} {role : RoleCredential q G}
    {allowedRoles : List UInt64} (h : allowedRoles.length ≤ Checked.maxProvableRoles)
    {draws : AuthClientDraws} {st : AuthStart q G}
    (hst : Checked.authStart S x serverPub role allowedRoles draws = .ok st) :
    (st.a1.encode S).length ≤ maxPayload := by
  obtain ⟨m, hm⟩ | ⟨-, st', hst', hbranches⟩ :=
    Checked.authStart_cases S x serverPub role allowedRoles draws
  · rw [hm] at hst
    cases hst
  · rw [hst'] at hst
    cases hst
    rw [auth1_fits_iff, hbranches]
    exact h

/-- A payload above `MAX_PAYLOAD` is a panic. -/
theorem buildPacket_panics (ty : UInt8) (sid : SessionId) (seq : UInt32) {payload : List UInt8}
    (h : ¬ payload.length ≤ maxPayload) : ∃ m, buildPacket ty sid seq payload = .error (.panic m) :=
  ⟨_, if_pos (Nat.lt_of_not_le h)⟩

omit [DecidableEq G] in
/-- The AUTH_1 of a role in the list is built. -/
theorem authStart_of_mem (x : ZMod q) (serverPub : G) {role : RoleCredential q G}
    {allowedRoles : List UInt64} (h : role.roleCode ∈ allowedRoles) (draws : AuthClientDraws) :
    ∃ st, authStart S x serverPub role allowedRoles draws = .ok st := by
  obtain ⟨t, ht⟩ : ∃ t, allowedRoles.idxOf? role.roleCode = some t := by
    cases hidx : allowedRoles.idxOf? role.roleCode with
    | some t => exact ⟨t, rfl⟩
    | none => exact absurd h (List.idxOf?_eq_none_iff.mp hidx)
  simp only [authStart, proveRoleSetMembership, ht]
  exact ⟨_, rfl⟩

/-- Over any transport, a credential with a role outside the list is a panic. -/
theorem runAuthClient_foreign_role {x : ZMod q} {serverPub : G} {role : RoleCredential q G}
    (hl : AuthLoads S files x serverPub role) {allowedRoles : List UInt64}
    (h : role.roleCode ∉ allowedRoles) (draws : AuthClientDraws) (w : World q G) :
    ((Checked.runAuthClient S K files maxRetries allowedRoles draws).exec w).1 =
      .error (.stopped (.panic "role not in allowed_roles")) := by
  rw [Checked.runAuthClient,
    Routine.exec_bind_ok (exec_attempt_ok ((authCredentials_eq_ok_iff K).mpr hl) w)]
  exact Routine.exec_bind_error
    (exec_attempt_error (Checked.authStart_of_not_mem S x serverPub h draws) w) _

/-- Over any transport, more than 18 roles are a panic. -/
theorem runAuthClient_many_roles {x : ZMod q} {serverPub : G} {role : RoleCredential q G}
    (hl : AuthLoads S files x serverPub role) {allowedRoles : List UInt64}
    (h : ¬ allowedRoles.length ≤ Checked.maxProvableRoles) (draws : AuthClientDraws)
    (w : World q G) :
    Panicked ((Checked.runAuthClient S K files maxRetries allowedRoles draws).exec w).1 := by
  rw [Checked.runAuthClient,
    Routine.exec_bind_ok (exec_attempt_ok ((authCredentials_eq_ok_iff K).mpr hl) w)]
  obtain ⟨m, hst⟩ | ⟨-, st, hst, hbranches⟩ :=
    Checked.authStart_cases S x serverPub role allowedRoles draws
  · exact ⟨m, Routine.exec_bind_error (exec_attempt_error hst w) _⟩
  · have hlarge : ¬ (st.a1.encode S).length ≤ maxPayload := by
      rw [auth1_fits_iff, hbranches]
      exact h
    obtain ⟨m, hm⟩ := buildPacket_panics pktAuth1 (randSessionId draws.sessionId) 0 hlarge
    dsimp only
    rw [Routine.exec_bind_ok (exec_attempt_ok hst w),
      Routine.exec_bind_ok (exec_attempt_ok (Checked.randSessionId_eq draws.sessionId) w)]
    refine ⟨m, Routine.exec_bind_error ?_ _⟩
    exact Routine.exec_bind_error (exec_attempt_error hm w) _

/-- Over any transport, a pairing token of more than 128 bytes is a panic. -/
theorem runSetupClient_long_token {allowTofu : Bool} {draws : SetupClientDraws}
    {st : Checked.SetupStart q G} (hl : SetupLoads S files allowTofu draws.roleBlind st)
    {token : Option (List UInt8)} (h : ¬ (token.getD []).length ≤ 128) (w : World q G) :
    ((Checked.runSetupClient S K files maxRetries token allowTofu draws).exec w).1 =
      .error (.stopped (.panic "pairing token too long")) := by
  rw [Checked.runSetupClient,
    Routine.exec_bind_ok (exec_attempt_ok ((setupStart_eq_ok_iff K).mpr hl) w),
    Routine.exec_bind_ok (exec_attempt_ok (Checked.randSessionId_eq draws.sessionId) w)]
  exact Routine.exec_bind_error (exec_attempt_error (if_neg h) w) _

/-! ## The exact condition -/

variable (S)

/-- What `run_setup_client` needs to return, if it gets to the network at all: a pairing token of at
most 128 bytes, and a network that does not stall. -/
def SetupReturns (files : DeviceFiles) (N : Network) (token : Option (List UInt8))
    (allowTofu : Bool) (draws : SetupClientDraws) : Prop :=
  ∀ st, SetupLoads S files allowTofu draws.roleBlind st →
    (token.getD []).length ≤ 128 ∧ ¬ N.Stalls (randSessionId draws.sessionId) pktSetup2
      (acceptSetup2 S st.pinned st.deviceId (st.x • S.base) draws.nonce)

/-- What `run_auth_client` needs to return, if it has its credentials: a role in the list, a list of
at most 18 roles, and a network that does not stall. -/
def AuthReturns (files : DeviceFiles) (N : Network) (allowedRoles : List UInt64)
    (draws : AuthClientDraws) : Prop :=
  ∀ x serverPub role, AuthLoads S files x serverPub role →
    role.roleCode ∈ allowedRoles ∧ allowedRoles.length ≤ Checked.maxProvableRoles ∧
      ∀ st, authStart S x serverPub role allowedRoles draws = .ok st →
        ¬ N.Stalls (randSessionId draws.sessionId) pktAuth2 (acceptAuth2 S st)

variable {S} {N : Network} {store : CredentialStore q G}

theorem runSetupClient_returns_iff (token : Option (List UInt8)) (allowTofu : Bool)
    (draws : SetupClientDraws) :
    Returns (Checked.runSetupClient S K files maxRetries token allowTofu draws) N store ↔
      SetupReturns S files N token allowTofu draws := by
  unfold SetupReturns
  simp only [← setupStart_eq_ok_iff K]
  cases hst : Checked.setupStart S K files allowTofu draws.roleBlind with
  | error e =>
      obtain ⟨p, rfl⟩ := setupStart_noPanic K files allowTofu draws.roleBlind e hst
      refine iff_of_true (returns_of_error (e := p) fun w => ?_) fun st h => nomatch h
      exact Routine.exec_bind_error (exec_attempt_error hst w) _
  | ok st =>
      simp only [Except.ok.injEq, forall_eq']
      by_cases htoken : (token.getD []).length ≤ 128
      · obtain ⟨payload, hp, fits⟩ := setup1_fits (S := S) (m := setup1Of S st token draws) htoken
        rw [returns_congr (runSetupClient_exec K hst hp fits), Exchange.returns_iff]
        exact (and_iff_right htoken).symm
      · have hl := (setupStart_eq_ok_iff K).mp hst
        exact iff_of_false
          (not_returns_of_panic fun w => ⟨_, runSetupClient_long_token K hl htoken w⟩)
          fun h => htoken h.1

theorem runAuthClient_returns_iff (allowedRoles : List UInt64) (draws : AuthClientDraws) :
    Returns (Checked.runAuthClient S K files maxRetries allowedRoles draws) N store ↔
      AuthReturns S files N allowedRoles draws := by
  unfold AuthReturns
  simp only [← authCredentials_eq_ok_iff K]
  cases hl : Checked.authCredentials S K files with
  | error e =>
      obtain ⟨p, rfl⟩ := authCredentials_noPanic K files e hl
      refine iff_of_true (returns_of_error (e := p) fun w => ?_) fun x serverPub role h => nomatch h
      exact Routine.exec_bind_error (exec_attempt_error hl w) _
  | ok l =>
      obtain ⟨x, serverPub, role⟩ := l
      have hone : ∀ P : ZMod q → G → RoleCredential q G → Prop,
          (∀ x' serverPub' role', (Except.ok (x, serverPub, role) : Except Stop _) =
            .ok (x', serverPub', role') → P x' serverPub' role') ↔ P x serverPub role :=
        fun P => ⟨fun h => h x serverPub role rfl, by rintro h _ _ _ ⟨⟩; exact h⟩
      rw [hone]
      have hloads := (authCredentials_eq_ok_iff K).mp hl
      by_cases hmem : role.roleCode ∈ allowedRoles
      · by_cases hroles : allowedRoles.length ≤ Checked.maxProvableRoles
        · obtain ⟨st, hst⟩ := authStart_of_mem (S := S) x serverPub hmem draws
          have hst' := (Checked.authStart_eq S x serverPub role hroles draws).trans hst
          have fits := Checked.authStart_fits hroles hst'
          rw [returns_congr (runAuthClient_exec K hl hst' fits), Exchange.returns_iff]
          simp only [hst, Except.ok.injEq, forall_eq']
          exact ((and_iff_right hmem).trans (and_iff_right hroles)).symm
        · exact iff_of_false
            (not_returns_of_panic fun w => runAuthClient_many_roles K hloads hroles draws w)
            fun h => hroles h.2.1
      · exact iff_of_false
          (not_returns_of_panic fun w => ⟨_, runAuthClient_foreign_role K hloads hmem draws w⟩)
          fun h => hmem h.1

/-- Whatever the credential files, the network, the pairing token and the allowed roles are: a
client returns `Ok` or `Err` without a panic exactly when it has what it needs. -/
theorem client_returns_iff (S : Suite q G) (K : Crates S) (files : DeviceFiles) (maxRetries : ℕ)
    (N : Network) (store : CredentialStore q G) :
    (∀ token allowTofu draws,
      Returns (Checked.runSetupClient S K files maxRetries token allowTofu draws) N store ↔
        SetupReturns S files N token allowTofu draws) ∧
    (∀ allowedRoles draws,
      Returns (Checked.runAuthClient S K files maxRetries allowedRoles draws) N store ↔
        AuthReturns S files N allowedRoles draws) :=
  ⟨runSetupClient_returns_iff K, runAuthClient_returns_iff K⟩

/-- The files of a device of the small suite, with a credential of role 7. -/
def demoFiles : DeviceFiles where
  root := .contents (byteString 31 1).val
  rootWrite := .ok ()
  rootDraw := byteString 31 1
  roleCred := .contents (natLE 8 7 ++ (byteString 31 4).val ++ (byteString 31 4).val)
  roleWrite := .ok ()
  serverPub := .contents (byteString 31 5).val
  serverPubWrite := .ok ()

/-- The credential is accepted.  Over any network, the device panics when it authenticates with the
default roles and when it sets up with a token of 129 bytes, and it does not return when it
authenticates with 19 roles that have its own. -/
theorem client_returns_fails :
    Checked.loadRoleCredential smallSuite demoFiles.roleCred = .ok (some ⟨7, 4, 4⟩) ∧
    ∀ (N : Network) (store : CredentialStore 11 (ZMod 11)) (draws : AuthClientDraws)
      (draws' : SetupClientDraws),
      (∀ n, Panicked ((Checked.runAuthClient smallSuite (Crates.ofSuite smallSuite) demoFiles 4
        [1, 2] draws).exec (N.world store n)).1) ∧
      (∀ n, Panicked ((Checked.runSetupClient smallSuite (Crates.ofSuite smallSuite) demoFiles 4
        (some (List.replicate 129 65)) false draws').exec (N.world store n)).1) ∧
      ¬ Returns (Checked.runAuthClient smallSuite (Crates.ofSuite smallSuite) demoFiles 4
        (List.replicate 19 7) draws) N store := by
  have hrole : Checked.loadRoleCredential smallSuite demoFiles.roleCred = .ok (some ⟨7, 4, 4⟩) :=
    rfl
  have hpin : Checked.loadServerPub smallSuite demoFiles.serverPub = .ok (some 5) := rfl
  have hdev : (deriveDeviceScalar smallSuite (byteString 31 1) : ZMod 11) • smallSuite.base ≠ 0 := by
    decide +kernel
  have hauth : AuthLoads smallSuite demoFiles (deriveDeviceScalar smallSuite (byteString 31 1)) 5
      ⟨7, 4, 4⟩ := ⟨⟨_, rfl, rfl⟩, hdev, hpin, hrole⟩
  refine ⟨hrole, fun N store draws draws' => ⟨fun n => ?_, fun n => ?_, ?_⟩⟩
  · have hforeign : (7 : UInt64) ∉ [1, 2] := by decide
    exact ⟨_, runAuthClient_foreign_role _ hauth hforeign draws _⟩
  · have hsetup : SetupLoads smallSuite demoFiles false draws'.roleBlind
        ⟨deriveDeviceId smallSuite (byteString 31 1), deriveDeviceScalar smallSuite (byteString 31 1),
          4, some 5⟩ := ⟨⟨_, rfl, rfl, rfl⟩, hdev, .inl ⟨_, hrole, rfl⟩, hpin, rfl⟩
    exact ⟨_, runSetupClient_long_token _ hsetup (by simp) _⟩
  · rw [runAuthClient_returns_iff]
    intro h
    exact absurd (h _ _ _ hauth).2.1 (by decide)

end ZkArche.Rust
