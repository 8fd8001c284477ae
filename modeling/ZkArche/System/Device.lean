import ZkArche.Proto.ClientStoreRust
import ZkArche.Server.DispatchRust
import ZkArche.Store.CredentialsRust

/-!
# The life of a device

The client program (`client/src/main.rs`) runs one command after the other, each over the
credentials in the directory that its arguments name.  What a command meets is an argument: where its
paths lead, the transport, the operations of the store that fail, the files that it does not see, and
the random bytes.

Over every sequence of commands that see the files that are there, it holds of every directory
(`device_life`) that

* all packets that are sent, and all identities that are printed, are of one root and one role
  credential,
* a key is pinned only after a command that pins it by name or an enrollment without a pin, in which
  its server proved possession of it,
* a session key is returned only for a server with a key that was pinned before.

A command that does not see the root makes another one.
-/

namespace ZkArche.Rust

/-! ## Arguments -/

inductive TransportKind where
  | udp
  | tcp
deriving DecidableEq

/-- `Args`. -/
structure Args where
  server : String
  transport : TransportKind
  doSetup : Bool
  pairingToken : Option String
  allowTofuSetup : Bool
  printDeviceIdentity : Bool
  pinServerPub : Option String
  stateDir : Option String

/-- The arguments before the first one is read. -/
def Args.initial : Args where
  server := "127.0.0.1:4000"
  transport := .udp
  doSetup := false
  pairingToken := none
  allowTofuSetup := false
  printDeviceIdentity := false
  pinServerPub := none
  stateDir := none

/-- The store that `run` opens. -/
def Args.store (args : Args) : FsCredentialStore :=
  match args.stateDir with
  | some d => .withDir d
  | none => .newDefault

/-- What the arguments say. -/
inductive Parsed where
  | run (args : Args)
  | help
  | invalid (msg : String)

/-- The loop of `parse_args`. -/
def parseArgs (args : Args) : List String → Parsed
  | [] => .run args
  | "--server" :: v :: rest => parseArgs { args with server := v } rest
  | "--transport" :: "udp" :: rest => parseArgs { args with transport := .udp } rest
  | "--transport" :: "tcp" :: rest => parseArgs { args with transport := .tcp } rest
  | "--transport" :: other :: _ => .invalid ("--transport must be udp|tcp, got " ++ other)
  | "--setup" :: rest => parseArgs { args with doSetup := true } rest
  | "--allow-tofu-setup" :: rest => parseArgs { args with allowTofuSetup := true } rest
  | "--print-device-identity" :: rest => parseArgs { args with printDeviceIdentity := true } rest
  | "--pairing-token" :: v :: rest => parseArgs { args with pairingToken := some v } rest
  | "--pin-server-pub" :: v :: rest => parseArgs { args with pinServerPub := some v } rest
  | "--state-dir" :: v :: rest => parseArgs { args with stateDir := some v } rest
  | "-h" :: _ => .help
  | "--help" :: _ => .help
  | other :: _ =>
      if other ∈ ["--server", "--transport", "--pairing-token", "--pin-server-pub", "--state-dir"]
      then .invalid (other ++ " missing value")
      else .invalid ("unknown argument: " ++ other)

/-! ## Hexadecimal digits -/

/-- The value of a digit. -/
def hexValue (c : Char) : Option ℕ :=
  if '0' ≤ c ∧ c ≤ '9' then some (c.toNat - '0'.toNat)
  else if 'a' ≤ c ∧ c ≤ 'f' then some (c.toNat - 'a'.toNat + 10)
  else if 'A' ≤ c ∧ c ≤ 'F' then some (c.toNat - 'A'.toNat + 10)
  else none

/-- `hex::decode`. -/
def hexDecode : List Char → Option (List UInt8)
  | [] => some []
  | [_] => none
  | a :: b :: rest => do
      let high ← hexValue a
      let low ← hexValue b
      let bytes ← hexDecode rest
      return UInt8.ofNat (16 * high + low) :: bytes

/-- `hex::encode`. -/
def hexEncode (bytes : List UInt8) : List Char := bytes.flatMap fun b => (hexByte b).toList

theorem hexValue_digit : ∀ n < 16, hexValue ("0123456789abcdef".toList.getD n '0') = some n := by
  decide

/-- What is encoded is decoded. -/
theorem hexDecode_hexEncode (bytes : List UInt8) : hexDecode (hexEncode bytes) = some bytes := by
  induction bytes with
  | nil => rfl
  | cons b bytes ih =>
      have hb := b.toNat_lt
      have hhigh := hexValue_digit (b.toNat / 16) (by omega)
      have hlow := hexValue_digit (b.toNat % 16) (by omega)
      have hvalue : UInt8.ofNat (16 * (b.toNat / 16) + b.toNat % 16) = b := by
        rw [Nat.div_add_mod, UInt8.ofNat_toNat]
      have hcons : hexEncode (b :: bytes) = "0123456789abcdef".toList.getD (b.toNat / 16) '0' ::
          "0123456789abcdef".toList.getD (b.toNat % 16) '0' :: hexEncode bytes := by
        simp [hexEncode, hexByte]
      rw [hcons, hexDecode, hhigh, hlow, ih]
      simp only [Option.bind_eq_bind, Option.bind_some, hvalue]
      rfl

/-! ## The program -/

/-- What a command prints when it succeeds. -/
inductive Printed where
  | pinned
  | identity (deviceId devicePub : Bytes 32)
  | enrolled (transport : TransportKind)
  | authenticated (transport : TransportKind) (sessionKey : Bytes 32)

/-- `DEFAULT_MAX_RETRIES`, which is the limit of the standard profile. -/
def defaultMaxRetries : ℕ := 4

variable {q : ℕ} {G : Type} [AddCommGroup G] [Module (ZMod q) G] (S : Suite q G) [DecidableEq G]

/-- The key that `--pin-server-pub` names. -/
def decodePin (hex : String) : Except Stop G :=
  match hexDecode hex.toList with
  | none => .error (.wire .invalidEncoding "--pin-server-pub is not hex")
  | some decoded =>
      if h : decoded.length = 32 then
        match S.decPoint ⟨decoded, h⟩ with
        | none => .error (.wire .invalidPoint "not a valid Ristretto point")
        | some p => do
            orStop (rejectIdentity p "pinned server pub")
            return p
      else .error (.wire .invalidPoint "--pin-server-pub must be 32 bytes")

/-- The key that the server prints can be pinned. -/
theorem decodePin_hexEncode {P : G} (hP : P ≠ 0) :
    decodePin S (String.ofList (hexEncode (S.encPoint P).val)) = .ok P := by
  have hdec : S.decPoint ⟨(S.encPoint P).val, (S.encPoint P).len⟩ = some P := S.decPoint_encPoint P
  simp only [decodePin, String.toList_ofList, hexDecode_hexEncode, dif_pos (S.encPoint P).len, hdec]
  simp [rejectIdentity, hP]

/-- `run`, with the store open. -/
def clientRun (args : Args) (connect : Except ProtoError Unit) (setup : SetupClientDraws)
    (auth : AuthClientDraws) : Client q G Printed :=
  match args.pinServerPub with
  | some hex => do
      let p ← attempt (decodePin S hex)
      saveServerPub p
      return .pinned
  | none =>
      if args.printDeviceIdentity then do
        let root ← loadOrCreateDeviceRoot false
        return .identity (deriveDeviceId S root)
          (S.encPoint ((deriveDeviceScalar S root : ZMod q) • S.base))
      else do
        attempt (orStop connect)
        if args.doSetup then do
          runSetupClient S defaultMaxRetries (args.pairingToken.map fun t => t.toUTF8.toList)
            args.allowTofuSetup setup
          return .enrolled args.transport
        else do
          let key ← runAuthClient S defaultMaxRetries defaultAllowedRoles auth
          return .authenticated args.transport key

/-! ## Commands one after the other -/

/-- The operations of a store that fail in a run, and the files for which `exists` fails. -/
structure StoreFails where
  loadRoot : Option ProtoError
  loadServerPub : Option ProtoError
  loadRole : Option ProtoError
  saveRole : Option (ProtoError × Bool)
  saveServerPub : Option (ProtoError × Bool)
  unseenRoot : Bool
  unseenServerPub : Bool
  unseenRole : Bool

/-- A command line, and what it meets.  The directory that the paths of a store lead to depends on
where the command runs. -/
structure Command (D : Type) where
  argv : List String
  place : FsCredentialStore → D
  connect : Except ProtoError Unit
  transport : ClientTransport
  fails : StoreFails
  newRoot : Bytes 32
  setup : SetupClientDraws
  auth : AuthClientDraws

/-- What is seen of a command. -/
structure Ran (G : Type) where
  /-- The end of `run`, unless the arguments ended the program. -/
  result : Except Parsed (Except Halt Printed)
  log : List (ClientEvent G)

variable {D : Type}

/-- The directory of a command, unless the arguments end it. -/
def Command.directory (c : Command D) : Option D :=
  match parseArgs .initial c.argv with
  | .run args => some (c.place args.store)
  | _ => none

/-- A slot as `exists` shows it. -/
def shown {α : Type} (unseen : Bool) (slot : Option α) : Option α := if unseen then none else slot

/-- The store of a command over what is kept. -/
def Command.store (c : Command D) (k : Credentials q G) : CredentialStore q G where
  deviceRoot := shown c.fails.unseenRoot k.deviceRoot
  serverPub := shown c.fails.unseenServerPub k.serverPub
  roleCredential := shown c.fails.unseenRole k.roleCredential
  newRoot := c.newRoot
  loadRootFails := c.fails.loadRoot
  loadServerPubFails := c.fails.loadServerPub
  loadRoleFails := c.fails.loadRole
  saveRoleFails := c.fails.saveRole
  saveServerPubFails := c.fails.saveServerPub

/-- The world in which a command starts.  TCP is reliable and UDP is not. -/
def Command.world (c : Command D) (args : Args) (k : Credentials q G) : World q G :=
  ⟨{ c.transport with isReliable := args.transport = .tcp }, c.store k, []⟩

/-- What is kept when a command leaves this store.  A file that it has not written is as before. -/
def Credentials.after (k : Credentials q G) (s : CredentialStore q G) : Credentials q G :=
  ⟨s.deviceRoot.or k.deviceRoot, s.serverPub.or k.serverPub, s.roleCredential.or k.roleCredential⟩

section

variable [DecidableEq D]

/-- `main`, `parse_args` and `run` over the directories. -/
def Command.run (c : Command D) (dirs : D → Credentials q G) : (D → Credentials q G) × Ran G :=
  match parseArgs .initial c.argv with
  | .run args =>
      let d := c.place args.store
      let (r, w) := (clientRun S args c.connect c.setup c.auth).exec (c.world args (dirs d))
      (Function.update dirs d ((dirs d).after w.store), ⟨.ok r, w.log⟩)
  | ended => (dirs, ⟨.error ended, []⟩)

/-- The directories of a machine, which have nothing at first. -/
def deviceMachine : Machine (D → Credentials q G) (Command D) (Ran G) where
  init dirs := ∀ d, dirs d = .nothing
  step dirs c := c.run S dirs

/-- The commands in a directory, with what was seen of them. -/
def inDirectory (d : D) (h : List (Command D × Ran G)) : List (Command D × Ran G) :=
  h.filter fun e => e.1.directory = some d

end

/-- No file that is there goes unseen. -/
def Command.Sees (c : Command D) (k : Credentials q G) : Prop :=
  (c.fails.unseenRoot = true → k.deviceRoot = none) ∧
    (c.fails.unseenServerPub = true → k.serverPub = none) ∧
    (c.fails.unseenRole = true → k.roleCredential = none)

/-! ## What one command does -/

variable {S} {args : Args} {connect : Except ProtoError Unit} {setup : SetupClientDraws}
  {auth : AuthClientDraws}

/-- The server key of `w'` is that of `w`, or it was pinned by name, or by an enrollment without a
pin. -/
def PinnedSince (S : Suite q G) (args : Args) (setup : SetupClientDraws) (w w' : World q G) : Prop :=
  w'.store.serverPub = w.store.serverPub ∨
    ∃ P, w'.store.serverPub = some P ∧
      ((∃ hex, args.pinServerPub = some hex ∧ decodePin S hex = .ok P) ∨
        (args.doSetup = true ∧ args.allowTofuSetup = true ∧ w.store.serverPub = none ∧
          SetupEvidence S setup w w' P))

/-- What a command does to its world. -/
structure Commanded (S : Suite q G) (args : Args) (setup : SetupClientDraws) (auth : AuthClientDraws)
    (w : World q G) (r : Except Halt Printed) (w' : World q G) : Prop where
  same : SameDevice S w w'
  identity : ∀ deviceId devicePub, r = .ok (.identity deviceId devicePub) → ∃ root,
    w'.store.deviceRoot = some root ∧ deviceId = deriveDeviceId S root ∧
      devicePub = S.encPoint ((deriveDeviceScalar S root : ZMod q) • S.base)
  pinned : PinnedSince S args setup w w'
  session : ∀ t key, r = .ok (.authenticated t key) →
    AuthEvidence S defaultAllowedRoles auth w w' key

/-- A command that fails with the pin as it was. -/
theorem Commanded.of_error {w w' : World q G} {e : Halt} (hsame : SameDevice S w w')
    (hpub : w'.store.serverPub = w.store.serverPub) : Commanded S args setup auth w (.error e) w' :=
  ⟨hsame, nofun, .inl hpub, nofun⟩

/-- `--pin-server-pub`. -/
theorem clientRun_pin {hex : String} (hpin : args.pinServerPub = some hex) (w : World q G) :
    Routine.Ends (clientRun S args connect setup auth) w (Commanded S args setup auth w) := by
  simp only [clientRun, hpin]
  refine (attempt_ends _ w).bind ?_ fun e _ h => .of_error (h.1 ▸ .refl w) (by rw [h.1])
  rintro P _ ⟨rfl, hP⟩
  have hP := hP P rfl
  have hsave : Routine.Ends (saveServerPub P) w fun r w' =>
      SameDevice S w w' ∧ PinnedSince S args setup w w' := by
    refine ⟨saveServerPub_same P w, ?_⟩
    obtain ⟨-, -, ⟨-, hpub⟩ | ⟨e, written, -, -, hpub | hpub⟩⟩ := saveServerPub_ends P w
    · exact .inr ⟨P, hpub, .inl ⟨hex, hpin, hP⟩⟩
    · exact .inr ⟨P, hpub, .inl ⟨hex, hpin, hP⟩⟩
    · exact .inl hpub
  refine hsave.bind ?_ ?_
  · rintro ⟨⟩ w' ⟨hsame, hpub⟩
    exact ⟨hsame, nofun, hpub, nofun⟩
  · rintro e w' ⟨hsame, hpub⟩
    exact ⟨hsame, nofun, hpub, nofun⟩

/-- `--print-device-identity`. -/
theorem clientRun_identity (hpin : args.pinServerPub = none) (hprint : args.printDeviceIdentity = true)
    (w : World q G) :
    Routine.Ends (clientRun S args connect setup auth) w (Commanded S args setup auth w) := by
  simp only [clientRun, hpin, if_pos hprint]
  refine (loadOrCreateDeviceRoot_ends false w).bind ?_ ?_
  · rintro root w' ⟨-, hw, hroot⟩
    obtain rfl := hw rfl
    refine ⟨.refl _, ?_, .inl rfl, nofun⟩
    rintro deviceId devicePub ⟨⟩
    exact ⟨root, hroot root rfl, rfl, rfl⟩
  · rintro e w' ⟨-, hw, -⟩
    obtain rfl := hw rfl
    exact .of_error (.refl _) rfl

/-- `--setup`.  A pinned key stays, and without one there has to be trust on first use. -/
theorem clientRun_setup (hpin : args.pinServerPub = none) (hprint : args.printDeviceIdentity = false)
    (hsetup : args.doSetup = true) (w : World q G) :
    Routine.Ends (clientRun S args connect setup auth) w (Commanded S args setup auth w) := by
  simp only [clientRun, hpin, hprint, Bool.false_eq_true, if_false, if_pos hsetup]
  refine (attempt_ends _ w).bind ?_ fun e _ h => .of_error (h.1 ▸ .refl w) (by rw [h.1])
  rintro - _ ⟨rfl, -⟩
  have hrun : Routine.Ends (runSetupClient S defaultMaxRetries
      (args.pairingToken.map fun t => t.toUTF8.toList) args.allowTofuSetup setup) w fun _ w' =>
      SameDevice S w w' ∧ PinnedSince S args setup w w' := by
    refine ⟨runSetupClient_same .., ?_⟩
    obtain ⟨hends, hsilent⟩ := runSetupClient_ends (S := S) defaultMaxRetries
      (args.pairingToken.map fun t => t.toUTF8.toList) args.allowTofuSetup setup w
    by_cases hchange : ((runSetupClient S defaultMaxRetries (args.pairingToken.map fun t =>
        t.toUTF8.toList) args.allowTofuSetup setup).exec w).2.store.serverPub = w.store.serverPub
    · exact .inl hchange
    · obtain ⟨P, hP, hev, -⟩ := hends.change hchange
      have hnone : w.store.serverPub = none := by
        cases hpub : w.store.serverPub with
        | none => rfl
        | some p => exact absurd (hP.trans (hev.pinned p hpub ▸ hpub.symm)) hchange
      refine .inr ⟨P, hP, .inr ⟨hsetup, ?_, hnone, hev⟩⟩
      -- a client that may not trust on first use has an empty log
      cases htofu : args.allowTofuSetup with
      | true => rfl
      | false =>
          obtain ⟨b2, payload, b4, before, between, hlog, -⟩ := hev.received
          rw [hsilent hnone htofu] at hlog
          have hlen := congrArg List.length hlog
          simp only [List.length_cons, List.length_append] at hlen
          omega
  refine hrun.bind ?_ ?_
  · rintro ⟨⟩ w' ⟨hsame, hpub⟩
    exact ⟨hsame, nofun, hpub, nofun⟩
  · rintro e w' ⟨hsame, hpub⟩
    exact ⟨hsame, nofun, hpub, nofun⟩

/-- Without `--setup`. -/
theorem clientRun_auth (hpin : args.pinServerPub = none) (hprint : args.printDeviceIdentity = false)
    (hsetup : args.doSetup = false) (w : World q G) :
    Routine.Ends (clientRun S args connect setup auth) w (Commanded S args setup auth w) := by
  simp only [clientRun, hpin, hprint, hsetup, Bool.false_eq_true, if_false]
  refine (attempt_ends _ w).bind ?_ fun e _ h => .of_error (h.1 ▸ .refl w) (by rw [h.1])
  rintro - _ ⟨rfl, -⟩
  have hrun : Routine.Ends (runAuthClient S defaultMaxRetries defaultAllowedRoles auth) w
      fun r w' => (SameDevice S w w' ∧ w'.store = w.store) ∧
        ∀ key, r = .ok key → AuthEvidence S defaultAllowedRoles auth w w' key := by
    refine ⟨runAuthClient_same .., ?_⟩
    exact runAuthClient_ends defaultMaxRetries defaultAllowedRoles auth w
  refine hrun.bind ?_ ?_
  · rintro key w' ⟨⟨hsame, hstore⟩, hev⟩
    refine ⟨hsame, nofun, .inl (congrArg CredentialStore.serverPub hstore), ?_⟩
    rintro t key' ⟨⟩
    exact hev key rfl
  · rintro e w' ⟨⟨hsame, hstore⟩, -⟩
    exact .of_error hsame (congrArg CredentialStore.serverPub hstore)

theorem clientRun_ends (w : World q G) :
    Routine.Ends (clientRun S args connect setup auth) w (Commanded S args setup auth w) := by
  cases hpin : args.pinServerPub with
  | some hex => exact clientRun_pin hpin w
  | none =>
      cases hprint : args.printDeviceIdentity with
      | true => exact clientRun_identity hpin hprint w
      | false =>
          cases hsetup : args.doSetup with
          | true => exact clientRun_setup hpin hprint hsetup w
          | false => exact clientRun_auth hpin hprint hsetup w

/-! ## What a sequence of commands does -/

/-- The command pins this key by name. -/
def Command.Pins (S : Suite q G) (c : Command D) (P : G) : Prop :=
  ∃ args hex, parseArgs .initial c.argv = .run args ∧ args.pinServerPub = some hex ∧
    decodePin S hex = .ok P

/-- The command enrolled the device that keeps `k` with the server of this key: no key was pinned,
the device was told to trust on first use, and the server proved possession of the key. -/
structure Enrolled (S : Suite q G) (k : Credentials q G) (c : Command D) (ran : Ran G) (P : G) :
    Prop where
  evidence : ∃ w w', SetupEvidence S c.setup w w' P ∧ w.store.serverPub = none ∧ w.log = [] ∧
    w'.log = ran.log ∧ ∀ root, w'.store.deviceRoot = some root → k.deviceRoot = some root
  arguments : ∃ args, parseArgs .initial c.argv = .run args ∧ args.doSetup = true ∧
    args.allowTofuSetup = true

/-- A command of the history pins the key or enrolled the device with it. -/
def Trusted (S : Suite q G) (k : Credentials q G) (h : List (Command D × Ran G)) (P : G) : Prop :=
  ∃ e ∈ h, e.1.Pins S P ∨ Enrolled S k e.1 e.2 P

/-- What holds of a device that keeps `k` after a history. -/
structure Life (S : Suite q G) (h : List (Command D × Ran G)) (k : Credentials q G) : Prop where
  /-- All that was sent speaks for the root and the role credential. -/
  spoken : ∀ e ∈ h, ∀ packet, .sent packet ∈ e.2.log → ∃ root role,
    k.deviceRoot = some root ∧ k.roleCredential = some role ∧ SpokenBy S root role packet
  /-- All identities that were printed are those of the root. -/
  printed : ∀ e ∈ h, ∀ deviceId devicePub,
    e.2.result = .ok (.ok (.identity deviceId devicePub)) → ∃ root,
      k.deviceRoot = some root ∧ deviceId = deriveDeviceId S root ∧
        devicePub = S.encPoint ((deriveDeviceScalar S root : ZMod q) • S.base)
  /-- The key that is pinned is trusted. -/
  trusted : ∀ P, k.serverPub = some P → Trusted S k h P
  /-- Every session was confirmed by a server with a key that was trusted before. -/
  sessions : ∀ later e earlier, h = later ++ e :: earlier → ∀ t key,
    e.2.result = .ok (.ok (.authenticated t key)) → ∃ w w' P,
      AuthEvidence S defaultAllowedRoles e.1.auth w w' key ∧ w.log = [] ∧ w'.log = e.2.log ∧
        w.store.serverPub = some P ∧ Trusted S k earlier P

/-- What a later state keeps of an earlier one. -/
def Credentials.SameIdentity (k k' : Credentials q G) : Prop :=
  (∀ root, k.deviceRoot = some root → k'.deviceRoot = some root) ∧
    ∀ c, k.roleCredential = some c → k'.roleCredential = some c

theorem Trusted.mono {k k' : Credentials q G} (hk : k.SameIdentity k')
    {h h' : List (Command D × Ran G)} (hsub : ∀ e ∈ h, e ∈ h') {P : G} (ht : Trusted S k h P) :
    Trusted S k' h' P := by
  obtain ⟨e, he, hpin | ⟨⟨w, w', hev, hnone, hlog, hlog', hroot⟩, hargs⟩⟩ := ht
  · exact ⟨e, hsub e he, .inl hpin⟩
  · exact ⟨e, hsub e he, .inr ⟨⟨w, w', hev, hnone, hlog, hlog',
      fun root h => hk.1 root (hroot root h)⟩, hargs⟩⟩

theorem Life.start : Life (D := D) S [] .nothing where
  spoken _ he := (List.not_mem_nil he).elim
  printed _ he := (List.not_mem_nil he).elim
  trusted _ hP := by cases hP
  sessions later e earlier h := by cases later <;> cases h

/-- What one more command has to do. -/
structure OneMore (S : Suite q G) (k : Credentials q G) (c : Command D) (ran : Ran G)
    (k' : Credentials q G) : Prop where
  identity : k.SameIdentity k'
  spoken : ∀ packet, .sent packet ∈ ran.log → ∃ root role,
    k'.deviceRoot = some root ∧ k'.roleCredential = some role ∧ SpokenBy S root role packet
  printed : ∀ deviceId devicePub, ran.result = .ok (.ok (.identity deviceId devicePub)) → ∃ root,
    k'.deviceRoot = some root ∧ deviceId = deriveDeviceId S root ∧
      devicePub = S.encPoint ((deriveDeviceScalar S root : ZMod q) • S.base)
  trusted : ∀ P, k'.serverPub = some P → k.serverPub = some P ∨ c.Pins S P ∨ Enrolled S k' c ran P
  session : ∀ t key, ran.result = .ok (.ok (.authenticated t key)) → ∃ w w' P,
    AuthEvidence S defaultAllowedRoles c.auth w w' key ∧ w.log = [] ∧ w'.log = ran.log ∧
      w.store.serverPub = some P ∧ k.serverPub = some P

theorem Life.cons {h : List (Command D × Ran G)} {k k' : Credentials q G} {c : Command D} {ran : Ran G}
    (hl : Life S h k) (hone : OneMore S k c ran k') : Life S ((c, ran) :: h) k' where
  spoken e he packet hp := by
    obtain rfl | he := List.mem_cons.mp he
    · exact hone.spoken packet hp
    · obtain ⟨root, role, hroot, hrole, hspoken⟩ := hl.spoken e he packet hp
      exact ⟨root, role, hone.identity.1 root hroot, hone.identity.2 role hrole, hspoken⟩
  printed e he deviceId devicePub hres := by
    obtain rfl | he := List.mem_cons.mp he
    · exact hone.printed deviceId devicePub hres
    · obtain ⟨root, hroot, hid⟩ := hl.printed e he deviceId devicePub hres
      exact ⟨root, hone.identity.1 root hroot, hid⟩
  trusted P hP := by
    obtain hk | hnew := hone.trusted P hP
    · exact (hl.trusted P hk).mono hone.identity fun e => List.mem_cons_of_mem _
    · exact ⟨_, List.mem_cons_self, hnew⟩
  sessions later e earlier hh t key hres := by
    cases later with
    | nil =>
        obtain ⟨rfl, rfl⟩ := List.cons_eq_cons.mp hh
        obtain ⟨w, w', P, hev, hlog, hlog', hpub, hk⟩ := hone.session t key hres
        exact ⟨w, w', P, hev, hlog, hlog', hpub, (hl.trusted P hk).mono hone.identity fun e => id⟩
    | cons x later =>
        obtain ⟨-, rfl⟩ := List.cons_eq_cons.mp hh
        obtain ⟨w, w', P, hev, hlog, hlog', hpub, ht⟩ := hl.sessions later e earlier rfl t key hres
        exact ⟨w, w', P, hev, hlog, hlog', hpub, ht.mono hone.identity fun e => id⟩

theorem shown_eq {α : Type} {unseen : Bool} {slot : Option α} (h : unseen = true → slot = none) :
    shown unseen slot = slot := by
  cases unseen with
  | true => exact (h rfl).symm
  | false => rfl

/-- A command that sees what is there, in its directory. -/
theorem OneMore.ran {k : Credentials q G} {c : Command D} (hsees : c.Sees k) {args : Args}
    (hargs : parseArgs .initial c.argv = .run args) {r : Except Halt Printed} {w' : World q G}
    (h : Commanded S args c.setup c.auth (c.world args k) r w') :
    OneMore S k c ⟨.ok r, w'.log⟩ (k.after w'.store) := by
  have hroot : ∀ root, w'.store.deviceRoot = some root → (k.after w'.store).deviceRoot = some root :=
    fun root hr => by simp only [Credentials.after, hr, Option.some_or]
  have hrole : ∀ role, w'.store.roleCredential = some role →
      (k.after w'.store).roleCredential = some role :=
    fun role hr => by simp only [Credentials.after, hr, Option.some_or]
  have hpub : (c.world args k).store.serverPub = k.serverPub := shown_eq hsees.2.1
  refine ⟨⟨fun root hk => ?_, fun role hk => ?_⟩, fun packet hp => ?_,
    fun deviceId devicePub hres => ?_, fun P hP => ?_, fun t key hres => ?_⟩
  · exact hroot root (h.same.deviceRoot root ((shown_eq hsees.1).trans hk))
  · exact hrole role (h.same.roleCredential role ((shown_eq hsees.2.2).trans hk))
  · obtain ⟨new, hlog, hnew⟩ := h.same.sent
    rw [show (c.world args k).log = [] from rfl, List.append_nil] at hlog
    obtain ⟨root, role, hr, hc, hspoken⟩ := hnew packet (hlog ▸ hp)
    exact ⟨root, role, hroot root hr, hrole role hc, hspoken⟩
  · rw [Except.ok.injEq] at hres
    obtain ⟨root, hr, hid⟩ := h.identity deviceId devicePub hres
    exact ⟨root, hroot root hr, hid⟩
  · obtain hsame | ⟨P', hP', hnew⟩ := h.pinned
    · -- the pin is the one there was
      rw [hpub] at hsame
      simp only [Credentials.after, hsame, Option.or_self] at hP
      exact .inl hP
    · simp only [Credentials.after, hP', Option.some_or, Option.some.injEq] at hP
      subst hP
      obtain ⟨hex, hpin, hdec⟩ | ⟨hsetup, htofu, hnone, hev⟩ := hnew
      · exact .inr (.inl ⟨args, hex, hargs, hpin, hdec⟩)
      · exact .inr (.inr ⟨⟨_, w', hev, hnone, rfl, rfl, hroot⟩, args, hargs, hsetup, htofu⟩)
  · rw [Except.ok.injEq] at hres
    have hev := h.session t key hres
    obtain ⟨b2, payload, b4, before, between, -, -, -, root, P, role, st, a2, -, hP, -⟩ :=
      hev.received
    exact ⟨_, w', P, hev, rfl, rfl, hP, hpub.symm.trans hP⟩

variable [DecidableEq D]

/-- What holds of the directories after a history. -/
structure Lives (S : Suite q G) (h : List (Command D × Ran G)) (dirs : D → Credentials q G) :
    Prop where
  life : ∀ d, Life S (inDirectory d h) (dirs d)
  /-- A command that its arguments end sends nothing. -/
  ended : ∀ e ∈ h, e.1.directory = none → e.2.log = [] ∧ ∃ p, e.2.result = .error p

/-- A command that its arguments end. -/
theorem Lives.skip {h : List (Command D × Ran G)} {dirs : D → Credentials q G}
    (hl : Lives S h dirs) {c : Command D} (hdir : c.directory = none) (p : Parsed) :
    Lives S ((c, ⟨.error p, []⟩) :: h) dirs := by
  refine ⟨fun d => ?_, List.forall_mem_cons.mpr ⟨fun _ => ⟨rfl, p, rfl⟩, hl.ended⟩⟩
  rw [inDirectory, List.filter_cons_of_neg (by simp [hdir])]
  exact hl.life d

theorem Lives.step {h : List (Command D × Ran G)} {dirs : D → Credentials q G}
    (hl : Lives S h dirs) {c : Command D}
    (hsees : ∀ d, c.directory = some d → c.Sees (dirs d)) :
    Lives S ((c, (c.run S dirs).2) :: h) (c.run S dirs).1 := by
  unfold Command.run
  cases hargs : parseArgs .initial c.argv with
  | help => exact hl.skip (by simp only [Command.directory, hargs]) .help
  | invalid msg => exact hl.skip (by simp only [Command.directory, hargs]) (.invalid msg)
  | run args =>
      have hdir : c.directory = some (c.place args.store) := by simp only [Command.directory, hargs]
      dsimp only
      refine ⟨fun d => ?_, List.forall_mem_cons.mpr ⟨fun hnone => ?_, hl.ended⟩⟩
      · by_cases hd : c.place args.store = d
        · subst hd
          rw [inDirectory, List.filter_cons_of_pos (by simp [hdir]), Function.update_self]
          exact (hl.life _).cons (.ran (hsees _ hdir) hargs (clientRun_ends _))
        · -- another directory
          rw [inDirectory, List.filter_cons_of_neg (by simpa [hdir] using hd),
            Function.update_of_ne (Ne.symm hd)]
          exact hl.life d
      · rw [hdir] at hnone
        cases hnone

/-- A command that would create the given root, over a transport that sends and receives nothing. -/
def demoCommand (argv : List String) (root : UInt8) (unseenRoot : Bool) : Command String where
  argv := argv
  place st := st.deviceRootFile.parent
  connect := .ok ()
  transport := ⟨false, fun _ => .ok (), 0, []⟩
  fails := ⟨none, none, none, none, none, unseenRoot, false, false⟩
  newRoot := byteString 31 root
  setup := ⟨byteString 63 4, byteString 31 7, byteString 31 9, byteString 63 3⟩
  auth := ⟨byteString 31 9, byteString 63 4, byteString 63 3, byteString 63 2, byteString 63 5,
    fun _ => byteString 63 6, byteString 31 7⟩

/-- Two devices on one machine: an enrollment is begun in each directory, and the first one pins a
key, prints its identity and begins a session. -/
def demoCommands : List (Command String) :=
  let pin := String.ofList (hexEncode (smallSuite.encPoint demoServerKey).val)
  [demoCommand ["--setup", "--allow-tofu-setup", "--state-dir", "a"] 1 false,
    demoCommand ["--setup", "--allow-tofu-setup"] 2 false,
    demoCommand ["--pin-server-pub", pin, "--state-dir", "a"] 3 false,
    demoCommand ["--print-device-identity", "--state-dir", "a"] 4 false,
    demoCommand ["--state-dir", "a"] 5 false]

/-- A command that does not see the root replaces it. -/
example :
    let setup := ["--setup", "--allow-tofu-setup"]
    let run := (deviceMachine smallSuite).exec [] (fun _ => .nothing)
      [demoCommand setup 1 false, demoCommand setup 2 true]
    (run.2 "./client-state").deviceRoot = some (byteString 31 2) := by
  decide +kernel

end ZkArche.Rust
