import ZkArche.Crypto.SchnorrKinds
import ZkArche.Crypto.TranscriptParity
import ZkArche.Lib.Faults
import ZkArche.Panics.Decoders

/-!
# The Rust cryptography with its panics

The functions of `crypto.rs`, `transcript.rs` and `store/fs.rs` that a client or a server calls, with
what can panic in them: the asserts of the transcript builder, the copies of digests into arrays, the
vectors of the role proof, and the `expect`s on results of the `hkdf`, `hmac` and `blake2` crates.

What those crates promise is `Crates`.  `OsRng` is taken to deliver its bytes.

Each function returns what the function without panics returns.  For the role proof this takes a
bound on the number of roles, since the labels of its transcript grow with their index.
-/

namespace ZkArche.Rust

variable {q : ℕ} {G : Type} [AddCommGroup G] [Module (ZMod q) G]

/-- The calls into `hkdf`, `hmac` and `blake2` that return a `Result`, with what the crates document
about them. -/
structure Crates (S : Suite q G) where
  /-- `Hkdf::expand` into `n` bytes, of a salt, key material and info. -/
  expand : List UInt8 → List UInt8 → List UInt8 → (n : ℕ) → Except String (Bytes n)
  /-- Only more than 255 blocks are refused. -/
  expand_ok : ∀ salt ikm info n, n ≤ 255 * 32 → ∃ okm, expand salt ikm info n = .ok okm
  expand_32 : ∀ salt ikm info okm, expand salt ikm info 32 = .ok okm → okm = S.hkdf salt ikm info
  /-- `Hmac::new_from_slice`, and the tag of a message. -/
  newFromSlice : List UInt8 → Except String (List UInt8 → Bytes 32)
  /-- A key of any length is accepted. -/
  newFromSlice_eq : ∀ key, newFromSlice key = .ok (S.hmac key)
  /-- `Blake2bVar::new` of an output size, and `finalize_variable` into `n` bytes. -/
  blake2bVar : ℕ → Except String (List UInt8 → (n : ℕ) → Except String (Bytes n))
  /-- An output size from 1 to 64 is accepted, and an output of that size is delivered. -/
  blake2bVar_ok : ∀ size, 1 ≤ size → size ≤ 64 → ∃ h, blake2bVar size = .ok h ∧
    ∀ msg, ∃ out, h msg size = .ok out
  blake2bVar_32 : ∀ h msg out, blake2bVar 32 = .ok h → h msg 32 = .ok out → out = S.blake2b256 msg

/-- Crates around the functions of the suite, with zeros for outputs of other sizes than 32. -/
def Crates.ofSuite (S : Suite q G) : Crates S where
  expand salt ikm info n :=
    if h : n = 32 then .ok (h ▸ S.hkdf salt ikm info)
    else if n ≤ 255 * 32 then .ok (Bytes.zero n)
    else .error "InvalidLength"
  expand_ok := by
    intro salt ikm info n hn
    by_cases h : n = 32
    · exact ⟨_, dif_pos h⟩
    · exact ⟨Bytes.zero n, by rw [dif_neg h, if_pos hn]⟩
  expand_32 := by
    intro salt ikm info okm h
    rw [dif_pos rfl] at h
    exact (Except.ok.inj h).symm
  newFromSlice key := .ok (S.hmac key)
  newFromSlice_eq := fun _ => rfl
  blake2bVar size :=
    if 1 ≤ size ∧ size ≤ 64 then
      .ok fun msg n =>
        if h : n = 32 then .ok (h ▸ S.blake2b256 msg)
        else if n = size then .ok (Bytes.zero n)
        else .error "InvalidBufferSize"
    else .error "InvalidOutputSize"
  blake2bVar_ok := by
    intro size h1 h64
    refine ⟨_, if_pos ⟨h1, h64⟩, fun msg => ?_⟩
    by_cases h : size = 32
    · exact ⟨_, dif_pos h⟩
    · exact ⟨Bytes.zero size, by rw [dif_neg h, if_pos rfl]⟩
  blake2bVar_32 := by
    intro h msg out hh hout
    rw [if_pos (by decide)] at hh
    rw [← Except.ok.inj hh] at hout
    simp only [dite_true] at hout
    exact (Except.ok.inj hout).symm

/-- An output of 32 bytes is always delivered. -/
theorem Crates.expand_32_eq {S : Suite q G} (K : Crates S) (salt ikm info : List UInt8) :
    K.expand salt ikm info 32 = .ok (S.hkdf salt ikm info) := by
  obtain ⟨okm, h⟩ := K.expand_ok salt ikm info 32 (by decide)
  rw [h, K.expand_32 salt ikm info okm h]

namespace Checked

/-- `expect`: an error is a panic with a text. -/
def expect {α : Type} (text : String) : Except String α → Except Stop α
  | .ok a => .ok a
  | .error e => .error (.panic (text ++ ": " ++ e))

/-- `unwrap`. -/
def unwrap {α : Type} (r : Except String α) : Except Stop α :=
  expect "called `Result::unwrap()` on an `Err` value" r

variable (S : Suite q G) (K : Crates S)

/-! ## Transcripts -/

/-- `challenge_scalar`. -/
def challengeScalar (t : Transcript) : Except Stop (ZMod q) := do
  let wide ← orPanic (SliceOp.fillArray 64 (S.sha512 t.buf).val)
  return scalarOf wide

/-- `hash_sha256`. -/
def hashSha256 (t : Transcript) : Except Stop (Bytes 32) :=
  orPanic (SliceOp.fillArray 32 (S.sha256 t.buf).val)

/-- `challenge(domain, fields)`. -/
def challenge (domain : List UInt8) (fields : List Field) : Except Stop (ZMod q) := do
  let t ← Transcript.build domain fields
  challengeScalar S t

theorem challenge_eq {domain : List UInt8} {fields : List Field} (hd : domain.length ≤ 255)
    (hs : ∀ f ∈ fields, f.Small) :
    challenge S domain fields = .ok (Rust.challenge S domain fields) := by
  rw [challenge, Transcript.build_eq hd hs, Except.ok_bind', challengeScalar,
    SliceOp.fillArray_val]
  rfl

/-- A panic, whatever it prints. -/
def IsPanic (e : Stop) : Prop := ∃ m, e = .panic m

theorem orPanic_failsWith {α : Type} (r : Except SliceOp.Fault α) :
    FailsWith IsPanic (orPanic r) := by
  cases r with
  | ok a => exact .ok a
  | error f => exact .error ⟨_, rfl⟩

theorem appendMessages_failsWith (t : Transcript) (fields : List Field) :
    FailsWith IsPanic (t.appendMessages fields) := by
  induction fields generalizing t with
  | nil => exact .ok t
  | cons f fs ih =>
      refine .bind (.bind (.of_ensure fun _ => ⟨_, rfl⟩) fun _ _ => .ok _) ?_
      intro t' _
      exact ih t'

/-- A challenge that cannot be computed is a panic. -/
theorem challenge_failsWith (domain : List UInt8) (fields : List Field) :
    FailsWith IsPanic (challenge S domain fields) := by
  refine .bind (.bind (.bind (.of_ensure fun _ => ⟨_, rfl⟩) fun _ _ => .ok _) ?_) ?_
  · intro t _
    exact appendMessages_failsWith t fields
  · intro t _
    exact .bind (orPanic_failsWith _) fun _ _ => .ok _

/-- `compute_pid`. -/
def computePid (devicePub : G) (nonceC : Bytes 32) (ephC serverPub : G) : Except Stop (Bytes 32) :=
  orPanic (SliceOp.fillArray 32 (Rust.computePid S devicePub nonceC ephC serverPub).val)

/-- `replay_key`. -/
def replayKey (pid nonceC : Bytes 32) (ephC : G) : Except Stop ReplayKey :=
  orPanic (SliceOp.fillArray 32 (Rust.replayKey S pid nonceC ephC).val)

theorem computePid_eq (devicePub : G) (nonceC : Bytes 32) (ephC serverPub : G) :
    computePid S devicePub nonceC ephC serverPub =
      .ok (Rust.computePid S devicePub nonceC ephC serverPub) := by
  rw [computePid, SliceOp.fillArray_val, orPanic_ok]

theorem replayKey_eq (pid nonceC : Bytes 32) (ephC : G) :
    replayKey S pid nonceC ephC = .ok (Rust.replayKey S pid nonceC ephC) := by
  rw [replayKey, SliceOp.fillArray_val, orPanic_ok]

/-- `attr_h`. -/
def attrH : Except Stop G := do
  let wide ← orPanic (SliceOp.fillArray 64
    (S.sha512 (ascii "ristretto-hash-to-point-v1" ++ ascii "iot-auth/attr-h/v1")).val)
  return S.fromUniform wide

theorem attrH_eq : attrH S = .ok S.attrH := by
  rw [attrH, SliceOp.fillArray_val]
  rfl

/-! ## Schnorr proofs -/

/-- Commit, ask for the challenge, answer. -/
def schnorrProve (gen : G) (chal : G → Except Stop (ZMod q)) (wide : Bytes 64) (x : ZMod q) :
    Except Stop (SchnorrProof q G) := do
  let r : ZMod q := scalarOf wide
  let a := r • gen
  let c ← chal a
  return ⟨a, r + c * x⟩

/-- Check the Schnorr equation. -/
def schnorrVerify [DecidableEq G] (gen : G) (chal : G → Except Stop (ZMod q)) (P : G)
    (proof : SchnorrProof q G) : Except Stop Bool := do
  let c ← chal proof.a
  return decide (proof.s • gen = proof.a + c • P)

theorem schnorrProve_eq {gen : G} {chal : G → Except Stop (ZMod q)} {chal' : G → ZMod q}
    (h : ∀ a, chal a = .ok (chal' a)) (wide : Bytes 64) (x : ZMod q) :
    schnorrProve gen chal wide x = .ok (Rust.schnorrProve gen chal' wide x) := by
  simp only [schnorrProve, h]
  rfl

theorem schnorrVerify_eq [DecidableEq G] {gen : G} {chal : G → Except Stop (ZMod q)}
    {chal' : G → ZMod q} (h : ∀ a, chal a = .ok (chal' a)) (P : G) (proof : SchnorrProof q G) :
    schnorrVerify gen chal P proof = .ok (Rust.schnorrVerify gen chal' P proof) := by
  simp only [schnorrVerify, h]
  rfl

/-- The challenge of one of the four Schnorr proofs. -/
def statementChallenge (t : SchnorrStatement G) (a : G) : Except Stop (ZMod q) :=
  challenge S t.kind.domain (t.fields S a)

theorem statementChallenge_eq (t : SchnorrStatement G) (a : G) :
    statementChallenge S t a = .ok (t.challenge S a) :=
  challenge_eq S t.kind.domain_length fun f hf => (t.fields_short S a f hf).small

/-- `prove_setup_client`. -/
def proveSetupClient (wide : Bytes 64) (x : ZMod q) (b : SetupBinding G) :
    Except Stop (SchnorrProof q G) :=
  schnorrProve S.base (statementChallenge S (.setupClient b)) wide x

/-- `prove_setup_server`. -/
def proveSetupServer (wide : Bytes 64) (serverSk : ZMod q) (b : SetupBinding G) :
    Except Stop (SchnorrProof q G) :=
  schnorrProve S.base (statementChallenge S (.setupServer b)) wide serverSk

/-- `prove_auth_client`. -/
def proveAuthClient (wide : Bytes 64) (x : ZMod q) (pid nonceC : Bytes 32) (ephC : G) :
    Except Stop (SchnorrProof q G) :=
  schnorrProve S.base (statementChallenge S (.authClient (x • S.base) pid nonceC ephC)) wide x

/-- `prove_auth_server`. -/
def proveAuthServer (wide : Bytes 64) (serverSk : ZMod q) (nonceS : Bytes 32) (ephS : G) :
    Except Stop (SchnorrProof q G) :=
  schnorrProve S.base (statementChallenge S (.authServer (serverSk • S.base) nonceS ephS)) wide
    serverSk

theorem proveSetupClient_eq (wide : Bytes 64) (x : ZMod q) (b : SetupBinding G) :
    proveSetupClient S wide x b = .ok (Rust.proveSetupClient S wide x b) :=
  schnorrProve_eq (statementChallenge_eq S (.setupClient b)) wide x

theorem proveSetupServer_eq (wide : Bytes 64) (sk : ZMod q) (b : SetupBinding G) :
    proveSetupServer S wide sk b = .ok (Rust.proveSetupServer S wide sk b) :=
  schnorrProve_eq (statementChallenge_eq S (.setupServer b)) wide sk

theorem proveAuthClient_eq (wide : Bytes 64) (x : ZMod q) (pid nonceC : Bytes 32) (ephC : G) :
    proveAuthClient S wide x pid nonceC ephC = .ok (Rust.proveAuthClient S wide x pid nonceC ephC) :=
  schnorrProve_eq (statementChallenge_eq S (.authClient (x • S.base) pid nonceC ephC)) wide x

theorem proveAuthServer_eq (wide : Bytes 64) (sk : ZMod q) (nonceS : Bytes 32) (ephS : G) :
    proveAuthServer S wide sk nonceS ephS = .ok (Rust.proveAuthServer S wide sk nonceS ephS) :=
  schnorrProve_eq (statementChallenge_eq S (.authServer (sk • S.base) nonceS ephS)) wide sk

section

variable [DecidableEq G]

/-- `verify_setup_client`. -/
def verifySetupClient (b : SetupBinding G) (proof : SchnorrProof q G) : Except Stop Bool :=
  schnorrVerify S.base (statementChallenge S (.setupClient b)) b.devicePub proof

/-- `verify_setup_server`. -/
def verifySetupServer (b : SetupBinding G) (proof : SchnorrProof q G) : Except Stop Bool :=
  schnorrVerify S.base (statementChallenge S (.setupServer b)) b.serverPub proof

/-- `verify_auth_client`. -/
def verifyAuthClient (devicePub : G) (pid nonceC : Bytes 32) (ephC : G)
    (proof : SchnorrProof q G) : Except Stop Bool :=
  schnorrVerify S.base (statementChallenge S (.authClient devicePub pid nonceC ephC)) devicePub proof

/-- `verify_auth_server`. -/
def verifyAuthServer (serverPub : G) (nonceS : Bytes 32) (ephS : G)
    (proof : SchnorrProof q G) : Except Stop Bool :=
  schnorrVerify S.base (statementChallenge S (.authServer serverPub nonceS ephS)) serverPub proof

theorem verifySetupClient_eq (b : SetupBinding G) (proof : SchnorrProof q G) :
    verifySetupClient S b proof = .ok (Rust.verifySetupClient S b proof) :=
  schnorrVerify_eq (statementChallenge_eq S (.setupClient b)) b.devicePub proof

theorem verifySetupServer_eq (b : SetupBinding G) (proof : SchnorrProof q G) :
    verifySetupServer S b proof = .ok (Rust.verifySetupServer S b proof) :=
  schnorrVerify_eq (statementChallenge_eq S (.setupServer b)) b.serverPub proof

theorem verifyAuthClient_eq (devicePub : G) (pid nonceC : Bytes 32) (ephC : G)
    (proof : SchnorrProof q G) : verifyAuthClient S devicePub pid nonceC ephC proof =
      .ok (Rust.verifyAuthClient S devicePub pid nonceC ephC proof) :=
  schnorrVerify_eq (statementChallenge_eq S (.authClient devicePub pid nonceC ephC)) devicePub proof

theorem verifyAuthServer_eq (serverPub : G) (nonceS : Bytes 32) (ephS : G)
    (proof : SchnorrProof q G) : verifyAuthServer S serverPub nonceS ephS proof =
      .ok (Rust.verifyAuthServer S serverPub nonceS ephS proof) :=
  schnorrVerify_eq (statementChallenge_eq S (.authServer serverPub nonceS ephS)) serverPub proof

end

/-! ## The rerandomization proof -/

/-- The challenge of the rerandomization proof. -/
def rerandChallenge (storedC cPrime : G) (pid nonceC : Bytes 32) (ephC a : G) :
    Except Stop (ZMod q) :=
  challenge S tRoleRerand
    [field "pid" pid.val,
      field "nonce_c" nonceC.val,
      field "eph_c" (S.encPoint ephC).val,
      field "stored_c" (S.encPoint storedC).val,
      field "c_prime" (S.encPoint cPrime).val,
      field "a" (S.encPoint a).val]

theorem rerandChallenge_eq (storedC cPrime : G) (pid nonceC : Bytes 32) (ephC a : G) :
    rerandChallenge S storedC cPrime pid nonceC ephC a =
      .ok (Rust.rerandChallenge S storedC cPrime pid nonceC ephC a) := by
  refine challenge_eq S (by decide) ?_
  intro f hf
  simp only [List.mem_cons, List.not_mem_nil, or_false] at hf
  obtain rfl | rfl | rfl | rfl | rfl | rfl := hf <;> exact (field_short (by decide) (by simp)).small

/-- `rerandomize_commitment`. -/
def rerandomizeCommitment (deltaWide : Bytes 64) (storedC : G) (storedBlind : ZMod q) :
    Except Stop (G × ZMod q × ZMod q) := do
  let delta : ZMod q := scalarOf deltaWide
  let h ← attrH S
  return (storedC + delta • h, storedBlind + delta, delta)

theorem rerandomizeCommitment_eq (deltaWide : Bytes 64) (storedC : G) (storedBlind : ZMod q) :
    rerandomizeCommitment S deltaWide storedC storedBlind =
      .ok (Rust.rerandomizeCommitment S deltaWide storedC storedBlind) := by
  rw [rerandomizeCommitment, attrH_eq]
  rfl

/-- `prove_rerandomization`. -/
def proveRerandomization (wide : Bytes 64) (storedC cPrime : G) (delta : ZMod q)
    (pid nonceC : Bytes 32) (ephC : G) : Except Stop (SchnorrProof q G) := do
  let h ← attrH S
  schnorrProve h (rerandChallenge S storedC cPrime pid nonceC ephC) wide delta

theorem proveRerandomization_eq (wide : Bytes 64) (storedC cPrime : G) (delta : ZMod q)
    (pid nonceC : Bytes 32) (ephC : G) :
    proveRerandomization S wide storedC cPrime delta pid nonceC ephC =
      .ok (Rust.proveRerandomization S wide storedC cPrime delta pid nonceC ephC) := by
  rw [proveRerandomization, attrH_eq, Except.ok_bind']
  exact schnorrProve_eq (rerandChallenge_eq S storedC cPrime pid nonceC ephC) wide delta

/-- `verify_rerandomization`. -/
def verifyRerandomization [DecidableEq G] (storedC cPrime : G) (pid nonceC : Bytes 32) (ephC : G)
    (proof : SchnorrProof q G) : Except Stop Bool := do
  let h ← attrH S
  schnorrVerify h (rerandChallenge S storedC cPrime pid nonceC ephC) (cPrime - storedC) proof

theorem verifyRerandomization_eq [DecidableEq G] (storedC cPrime : G) (pid nonceC : Bytes 32)
    (ephC : G) (proof : SchnorrProof q G) :
    verifyRerandomization S storedC cPrime pid nonceC ephC proof =
      .ok (Rust.verifyRerandomization S storedC cPrime pid nonceC ephC proof) := by
  rw [verifyRerandomization, attrH_eq, Except.ok_bind']
  exact schnorrVerify_eq (rerandChallenge_eq S storedC cPrime pid nonceC ephC) _ proof

/-! ## Keys and tags -/

/-- `derive_session_key`. -/
def deriveSessionKey (ephSecret : ZMod q) (peerEphPub : G) (nonceC nonceS pid : Bytes 32)
    (ephC ephS : G) : Except Stop (Bytes 32) := do
  let shared := ephSecret • peerEphPub
  let salt : List UInt8 := List.replicate 64 0
  let low ← orPanic (SliceOp.range salt 0 32)
  let low ← orPanic (SliceOp.copyFrom low nonceC.val)
  let high ← orPanic (SliceOp.since salt 32)
  let high ← orPanic (SliceOp.copyFrom high nonceS.val)
  expect "HKDF expand 32B always succeeds" (K.expand (low ++ high) (S.encPoint shared).val
    (ascii "session key v2" ++ pid.val ++ (S.encPoint ephC).val ++ (S.encPoint ephS).val) 32)

/-- `kc_transcript_hash`. -/
def kcTranscriptHash (p : KcTranscriptParts q G) : Except Stop (Bytes 32) := do
  let t ← Transcript.build tKcV2 (p.encode S).fields
  hashSha256 S t

/-- `derive_kc_keys`. -/
def deriveKcKeys (sessionKey th : Bytes 32) : Except Stop (Bytes 32 × Bytes 32) := do
  let kS2c ← unwrap (K.expand th.val sessionKey.val (ascii "kc s2c") 32)
  let kC2s ← unwrap (K.expand th.val sessionKey.val (ascii "kc c2s") 32)
  return (kS2c, kC2s)

/-- `hmac_tag`. -/
def hmacTag (key : Bytes 32) (label : List UInt8) (th : Bytes 32) : Except Stop (Bytes 32) := do
  let mac ← expect "HMAC key size ok" (K.newFromSlice key.val)
  orPanic (SliceOp.fillArray 32 (mac (label ++ th.val)).val)

/-- `derive_device_id`. -/
def deriveDeviceId (root : Bytes 32) : Except Stop (Bytes 32) := do
  let h ← expect "Blake2b-256 OK" (K.blake2bVar 32)
  expect "finalize OK" (h (ascii "device-id" ++ root.val) 32)

/-- `derive_device_scalar`. -/
def deriveDeviceScalar (root : Bytes 32) : Except Stop (ZMod q) := do
  let d := S.blake2b512 (ascii "device-auth-v1" ++ root.val)
  let front ← orPanic (SliceOp.range d.val 0 64)
  let wide ← orPanic (SliceOp.fillArray 64 front)
  return scalarOf wide

theorem deriveSessionKey_eq (ephSecret : ZMod q) (peerEphPub : G) (nonceC nonceS pid : Bytes 32)
    (ephC ephS : G) : deriveSessionKey S K ephSecret peerEphPub nonceC nonceS pid ephC ephS =
      .ok (Rust.deriveSessionKey S ephSecret peerEphPub nonceC nonceS pid ephC ephS) := by
  have hlow : SliceOp.copyFrom (List.replicate 32 0) nonceC.val = .ok nonceC.val :=
    SliceOp.copyFrom_of_length_eq (by simp)
  have hhigh : SliceOp.copyFrom (List.replicate 32 0) nonceS.val = .ok nonceS.val :=
    SliceOp.copyFrom_of_length_eq (by simp)
  have hfront : SliceOp.range (List.replicate 64 (0 : UInt8)) 0 32 = .ok (List.replicate 32 0) := rfl
  have hback : SliceOp.since (List.replicate 64 (0 : UInt8)) 32 = .ok (List.replicate 32 0) := rfl
  simp only [deriveSessionKey, hfront, hback, hlow, hhigh, orPanic_ok, Except.ok_bind',
    Crates.expand_32_eq, expect]
  rfl

theorem kcTranscriptHash_eq (p : KcTranscriptParts q G) :
    kcTranscriptHash S p = .ok (Rust.kcTranscriptHash S p) := by
  have hs := fun f hf => ((p.encode S).fields_short f hf).small
  rw [kcTranscriptHash, Transcript.build_eq (by decide) hs, Except.ok_bind', hashSha256,
    SliceOp.fillArray_val, orPanic_ok]
  rfl

theorem deriveKcKeys_eq (sessionKey th : Bytes 32) :
    deriveKcKeys S K sessionKey th = .ok (Rust.deriveKcKeys S sessionKey th) := by
  simp only [deriveKcKeys, Crates.expand_32_eq, unwrap, expect]
  rfl

theorem hmacTag_eq (key : Bytes 32) (label : List UInt8) (th : Bytes 32) :
    hmacTag S K key label th = .ok (Rust.hmacTag S key label th) := by
  simp only [hmacTag, K.newFromSlice_eq, expect, Except.ok_bind', SliceOp.fillArray_val, orPanic_ok]
  rfl

theorem deriveDeviceId_eq (root : Bytes 32) :
    deriveDeviceId S K root = .ok (S.blake2b256 (ascii "device-id" ++ root.val)) := by
  obtain ⟨h, hnew, hfin⟩ := K.blake2bVar_ok 32 (by decide) (by decide)
  obtain ⟨out, hout⟩ := hfin (ascii "device-id" ++ root.val)
  rw [deriveDeviceId, hnew]
  simp only [expect, Except.ok_bind', hout, K.blake2bVar_32 h _ out hnew hout]

theorem deriveDeviceScalar_eq (root : Bytes 32) :
    deriveDeviceScalar S root =
      .ok (scalarOf (S.blake2b512 (ascii "device-auth-v1" ++ root.val)) : ZMod q) := by
  have hall : SliceOp.range (S.blake2b512 (ascii "device-auth-v1" ++ root.val)).val 0 64 =
      .ok (S.blake2b512 (ascii "device-auth-v1" ++ root.val)).val := by
    rw [SliceOp.range_of_le (by decide) (by simp), List.drop_zero, List.take_of_length_le (by simp)]
  simp only [deriveDeviceScalar, hall, orPanic_ok, Except.ok_bind', SliceOp.fillArray_val]
  rfl

end Checked

end ZkArche.Rust
