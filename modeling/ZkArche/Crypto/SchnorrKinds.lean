import Mathlib.Algebra.Module.Torsion.Field
import ZkArche.Crypto.RoleSoundness

/-!
# The four Schnorr proofs

Enrollment and authentication prove the knowledge of a key four times: for the client and for
the server, at each of the two stages.  A `SchnorrStatement` is one of the four kinds with the
values its transcript binds.  Its kind has a domain and it has a list of fields, and with them a
transcript for every commitment.

The transcript determines the statement and the commitment (`SchnorrStatement.bytes_inj`).
This is the point at which the four field lists and the four domains are compared.  Everything
else is the Schnorr equation, for whatever the challenge function answers.

* An honest proof is accepted.
* Two accepted proofs with one commitment and two challenges give the key away.
* A proof that is accepted for two statements about one key is a collision of the challenge
  function, at two transcripts that are written down.
* The C library computes the same proofs and the same decisions, as long as no product it makes
  is the identity.
-/

namespace ZkArche

variable {q : ℕ} {G : Type} [AddCommGroup G] [Module (ZMod q) G]

/-- The four proofs. -/
inductive SchnorrKind where
  | setupClient
  | setupServer
  | authClient
  | authServer
deriving DecidableEq

/-- The domain separator of a kind. -/
def SchnorrKind.domain : SchnorrKind → List UInt8
  | setupClient => tSetup
  | setupServer => tSetupServer
  | authClient => tClientV2
  | authServer => tServer

theorem SchnorrKind.domain_length (k : SchnorrKind) : k.domain.length ≤ 255 := by
  cases k <;> decide

theorem SchnorrKind.domain_inj {k k' : SchnorrKind} (h : k.domain = k'.domain) : k = k' := by
  cases k <;> cases k' <;> first | rfl | exact absurd h (by decide)

/-- What one of the four verifiers checks a proof against. -/
inductive SchnorrStatement (G : Type) where
  | setupClient (b : Rust.SetupBinding G)
  | setupServer (b : Rust.SetupBinding G)
  | authClient (devicePub : G) (pid nonceC : Bytes 32) (ephC : G)
  | authServer (serverPub : G) (nonceS : Bytes 32) (ephS : G)

namespace SchnorrStatement

/-- The key whose discrete logarithm is proved. -/
def pub : SchnorrStatement G → G
  | setupClient b => b.devicePub
  | setupServer b => b.serverPub
  | authClient devicePub _ _ _ => devicePub
  | authServer serverPub _ _ => serverPub

/-- The proof that is verified. -/
def kind : SchnorrStatement G → SchnorrKind
  | setupClient _ => .setupClient
  | setupServer _ => .setupServer
  | authClient _ _ _ _ => .authClient
  | authServer _ _ _ => .authServer

/-- The fields of the kind, for a commitment. -/
def fields (S : Suite q G) : SchnorrStatement G → G → List Field
  | setupClient b, a => Rust.setupFields S "client" b a
  | setupServer b, a => Rust.setupFields S "server" b a
  | authClient devicePub pid nonceC ephC, a =>
      [field "pid" pid.val,
        field "pubkey" (S.encPoint devicePub).val,
        field "a" (S.encPoint a).val,
        field "nonce_c" nonceC.val,
        field "eph_c" (S.encPoint ephC).val]
  | authServer serverPub nonceS ephS, a =>
      [field "pubkey" (S.encPoint serverPub).val,
        field "a" (S.encPoint a).val,
        field "nonce_s" nonceS.val,
        field "eph_s" (S.encPoint ephS).val]

/-- The bytes that are hashed. -/
def bytes (S : Suite q G) (t : SchnorrStatement G) (a : G) : List UInt8 :=
  transcript t.kind.domain (t.fields S a)

/-- The challenge for a commitment. -/
def challenge (S : Suite q G) (t : SchnorrStatement G) (a : G) : ZMod q :=
  Rust.challengeScalar S (t.bytes S a)

/-- The `prove_*` function of the kind.  The provers of AUTH compute their own key. -/
def prove (S : Suite q G) (wide : Bytes 64) (x : ZMod q) :
    SchnorrStatement G → Rust.SchnorrProof q G
  | setupClient b => Rust.proveSetupClient S wide x b
  | setupServer b => Rust.proveSetupServer S wide x b
  | authClient _ pid nonceC ephC => Rust.proveAuthClient S wide x pid nonceC ephC
  | authServer _ nonceS ephS => Rust.proveAuthServer S wide x nonceS ephS

/-- The `verify_*` function of the kind. -/
def verify [DecidableEq G] (S : Suite q G) (proof : Rust.SchnorrProof q G) :
    SchnorrStatement G → Bool
  | setupClient b => Rust.verifySetupClient S b proof
  | setupServer b => Rust.verifySetupServer S b proof
  | authClient devicePub pid nonceC ephC =>
      Rust.verifyAuthClient S devicePub pid nonceC ephC proof
  | authServer serverPub nonceS ephS => Rust.verifyAuthServer S serverPub nonceS ephS proof

/-- The `auth_prove_*_with_bytes` function of the kind, on the encodings of the statement. -/
def proveC (S : Suite q G) (wide : Bytes 64) (x : Bytes 32) :
    SchnorrStatement G → Except C.AuthErr C.SchnorrProof
  | setupClient b =>
      C.authProveSetupClient S wide x b.deviceId (S.encPoint b.devicePub)
        (S.encPoint b.serverPub) b.clientNonce b.serverNonce b.setupChallenge
  | setupServer b =>
      C.authProveSetupServer S wide x b.deviceId (S.encPoint b.devicePub)
        (S.encPoint b.serverPub) b.clientNonce b.serverNonce b.setupChallenge
  | authClient _ pid nonceC ephC => C.authProveAuthClient S wide x pid nonceC (S.encPoint ephC)
  | authServer _ nonceS ephS => C.authProveAuthServer S wide x nonceS (S.encPoint ephS)

/-- The `auth_verify_*` function of the kind, on the encodings of the statement. -/
def verifyC (S : Suite q G) (proof : C.SchnorrProof) : SchnorrStatement G → Bool
  | setupClient b =>
      C.authVerifySetupClient S proof b.deviceId (S.encPoint b.devicePub)
        (S.encPoint b.serverPub) b.clientNonce b.serverNonce b.setupChallenge
  | setupServer b =>
      C.authVerifySetupServer S proof (S.encPoint b.serverPub) b.deviceId
        (S.encPoint b.devicePub) b.clientNonce b.serverNonce b.setupChallenge
  | authClient devicePub pid nonceC ephC =>
      C.authVerifyAuthClient S proof (S.encPoint devicePub) pid nonceC (S.encPoint ephC)
  | authServer serverPub nonceS ephS =>
      C.authVerifyAuthServer S proof (S.encPoint serverPub) nonceS (S.encPoint ephS)

/-! ## The transcript determines the statement -/

theorem fields_short (S : Suite q G) (t : SchnorrStatement G) (a : G) :
    ∀ f ∈ t.fields S a, f.Short := by
  intro f hf
  cases t with
  | setupClient b | setupServer b =>
      simp only [fields, Rust.setupFields, List.mem_cons, List.not_mem_nil, or_false] at hf
      obtain rfl | rfl | rfl | rfl | rfl | rfl | rfl | rfl := hf
      · exact field_short (by decide) (by decide)
      all_goals exact field_short (by decide) (by simp)
  | authClient devicePub pid nonceC ephC =>
      simp only [fields, List.mem_cons, List.not_mem_nil, or_false] at hf
      obtain rfl | rfl | rfl | rfl | rfl := hf <;> exact field_short (by decide) (by simp)
  | authServer serverPub nonceS ephS =>
      simp only [fields, List.mem_cons, List.not_mem_nil, or_false] at hf
      obtain rfl | rfl | rfl | rfl := hf <;> exact field_short (by decide) (by simp)

/-- Both enrollment lists determine the binding and the commitment. -/
theorem setupFields_inj (S : Suite q G) {role : String} {b b' : Rust.SetupBinding G} {a a' : G}
    (h : Rust.setupFields S role b a = Rust.setupFields S role b' a') : b = b' ∧ a = a' := by
  obtain ⟨deviceId, devicePub, serverPub, clientNonce, serverNonce, setupChallenge⟩ := b
  obtain ⟨deviceId', devicePub', serverPub', clientNonce', serverNonce', setupChallenge'⟩ := b'
  simp only [Rust.setupFields, field, List.cons.injEq, Prod.mk.injEq, true_and, and_true] at h
  obtain ⟨hid, hdev, hsrv, ha, hcn, hsn, hch⟩ := h
  obtain rfl := Bytes.ext hid
  obtain rfl := S.encPoint_inj (Bytes.ext hdev)
  obtain rfl := S.encPoint_inj (Bytes.ext hsrv)
  obtain rfl := Bytes.ext hcn
  obtain rfl := Bytes.ext hsn
  obtain rfl := Bytes.ext hch
  exact ⟨rfl, S.encPoint_inj (Bytes.ext ha)⟩

/-- Statements of one kind with the same fields are the same statement. -/
theorem fields_inj (S : Suite q G) {t t' : SchnorrStatement G} {a a' : G}
    (hk : t.kind = t'.kind) (hf : t.fields S a = t'.fields S a') : t = t' ∧ a = a' := by
  cases t with
  | setupClient b =>
      cases t' with
      | setupClient b' =>
          obtain ⟨rfl, rfl⟩ := setupFields_inj S hf
          exact ⟨rfl, rfl⟩
      | setupServer | authClient | authServer => cases hk
  | setupServer b =>
      cases t' with
      | setupServer b' =>
          obtain ⟨rfl, rfl⟩ := setupFields_inj S hf
          exact ⟨rfl, rfl⟩
      | setupClient | authClient | authServer => cases hk
  | authClient devicePub pid nonceC ephC =>
      cases t' with
      | authClient devicePub' pid' nonceC' ephC' =>
          simp only [fields, field, List.cons.injEq, Prod.mk.injEq, true_and, and_true] at hf
          obtain ⟨hpid, hpub, ha, hnonce, heph⟩ := hf
          obtain rfl := Bytes.ext hpid
          obtain rfl := S.encPoint_inj (Bytes.ext hpub)
          obtain rfl := Bytes.ext hnonce
          obtain rfl := S.encPoint_inj (Bytes.ext heph)
          exact ⟨rfl, S.encPoint_inj (Bytes.ext ha)⟩
      | setupClient | setupServer | authServer => cases hk
  | authServer serverPub nonceS ephS =>
      cases t' with
      | authServer serverPub' nonceS' ephS' =>
          simp only [fields, field, List.cons.injEq, Prod.mk.injEq, true_and, and_true] at hf
          obtain ⟨hpub, ha, hnonce, heph⟩ := hf
          obtain rfl := S.encPoint_inj (Bytes.ext hpub)
          obtain rfl := Bytes.ext hnonce
          obtain rfl := S.encPoint_inj (Bytes.ext heph)
          exact ⟨rfl, S.encPoint_inj (Bytes.ext ha)⟩
      | setupClient | setupServer | authClient => cases hk

/-- The hashed bytes determine the kind, the bound values and the commitment. -/
theorem bytes_inj (S : Suite q G) {t t' : SchnorrStatement G} {a a' : G}
    (h : t.bytes S a = t'.bytes S a') : t = t' ∧ a = a' := by
  obtain ⟨hd, hf⟩ := transcript_inj t.kind.domain_length t'.kind.domain_length
    (fun f hf => (t.fields_short S a f hf).small)
    (fun f hf => (t'.fields_short S a' f hf).small) h
  exact fields_inj S (SchnorrKind.domain_inj hd) hf

/-! ## The Rust provers and verifiers -/

section Rust

variable [DecidableEq G]

/-- Every verifier checks the Schnorr equation of its key, at the challenge of its transcript. -/
theorem verify_iff {S : Suite q G} {t : SchnorrStatement G} {p : Rust.SchnorrProof q G} :
    t.verify S p = true ↔ SchnorrEq S.base t.pub p.a (t.challenge S p.a) p.s := by
  cases t <;> exact decide_eq_true_iff

/-- The proof of the prover that knows the key is accepted. -/
theorem verify_prove (S : Suite q G) (wide : Bytes 64) {x : ZMod q} {t : SchnorrStatement G}
    (hx : t.pub = x • S.base) : t.verify S (t.prove S wide x) = true := by
  cases t with
  | setupClient b =>
      change b.devicePub = x • S.base at hx
      rw [verify, prove, Rust.verifySetupClient, hx]
      exact Rust.schnorrVerify_schnorrProve _ _ _ _
  | setupServer b =>
      change b.serverPub = x • S.base at hx
      rw [verify, prove, Rust.verifySetupServer, hx]
      exact Rust.schnorrVerify_schnorrProve _ _ _ _
  | authClient devicePub pid nonceC ephC =>
      obtain rfl : devicePub = x • S.base := hx
      exact Rust.verifyAuthClient_prove S wide x pid nonceC ephC
  | authServer serverPub nonceS ephS =>
      obtain rfl : serverPub = x • S.base := hx
      exact Rust.verifyAuthServer_prove S wide x nonceS ephS

end Rust

/-! ## The C provers and verifiers -/

section C

theorem setupClientChallenge_eq (S : Suite q G) (b : Rust.SetupBinding G) (a : G) :
    C.setupClientChallenge S b.deviceId (S.encPoint b.devicePub) (S.encPoint b.serverPub)
        b.clientNonce b.serverNonce b.setupChallenge (S.encPoint a)
      = .ok (encScalar (Rust.setupClientChallenge S b a)) :=
  C.challenge_eq S (by decide) (by simp [C.setupFields]) (fields_short S (setupClient b) a)

theorem setupServerChallenge_eq (S : Suite q G) (b : Rust.SetupBinding G) (a : G) :
    C.setupServerChallenge S b.deviceId (S.encPoint b.devicePub) (S.encPoint b.serverPub)
        b.clientNonce b.serverNonce b.setupChallenge (S.encPoint a)
      = .ok (encScalar (Rust.setupServerChallenge S b a)) :=
  C.challenge_eq S (by decide) (by simp [C.setupFields]) (fields_short S (setupServer b) a)

variable [NeZero q]

/-- A C prover whose nonce and key have points other than the identity builds the Rust proof. -/
theorem proveC_eq (S : Suite q G) {wide : Bytes 64} {x : ZMod q} (t : SchnorrStatement G)
    (hr : (scalarOf wide : ZMod q) • S.base ≠ 0) (hx : x • S.base ≠ 0) :
    t.proveC S wide (encScalar x) = .ok (C.encProof S (t.prove S wide x)) := by
  cases t with
  | setupClient b =>
      exact C.proveSchnorr_eq S (C.authScalarmultBase_encScalar S hr)
        (setupClientChallenge_eq S b)
  | setupServer b =>
      exact C.proveSchnorr_eq S (C.authScalarmultBase_encScalar S hr)
        (setupServerChallenge_eq S b)
  | authClient devicePub pid nonceC ephC =>
      exact C.authProveAuthClient_eq S pid nonceC ephC hr hx
  | authServer serverPub nonceS ephS => exact C.authProveAuthServer_eq S nonceS ephS hr hx

/-- A C verifier checks the strict equation. -/
theorem verifyC_iff {S : Suite q G} {t : SchnorrStatement G} {p : Rust.SchnorrProof q G} :
    t.verifyC S (C.encProof S p) = true ↔
      C.StrictEq S.base t.pub p.a (t.challenge S p.a) p.s := by
  cases t with
  | setupClient b =>
      exact C.verifySchnorr_encProof S (fun _ _ => C.authScalarmultBase_eq_ok_iff)
        (setupClientChallenge_eq S b p.a)
  | setupServer b =>
      exact C.verifySchnorr_encProof S (fun _ _ => C.authScalarmultBase_eq_ok_iff)
        (setupServerChallenge_eq S b p.a)
  | authClient devicePub pid nonceC ephC => exact C.authVerifyAuthClient_encProof S
  | authServer serverPub nonceS ephS => exact C.authVerifyAuthServer_encProof S

/-- Where neither product is the identity, the two verifiers decide alike. -/
theorem verifyC_eq [DecidableEq G] {S : Suite q G} {t : SchnorrStatement G}
    {p : Rust.SchnorrProof q G} (hs : p.s • S.base ≠ 0) (hc : t.challenge S p.a • t.pub ≠ 0) :
    t.verifyC S (C.encProof S p) = t.verify S p := by
  rw [Bool.eq_iff_iff, verifyC_iff, verify_iff]
  constructor
  · intro h
    exact h.eqn
  · intro h
    exact ⟨hs, hc, h⟩

end C

end SchnorrStatement

/-! ## The main result -/

section Prime

variable [Fact q.Prime]

/-- A proof accepted for two statements about one key has the same challenge for both. -/
theorem SchnorrStatement.challenge_eq_of_verify [DecidableEq G] {S : Suite q G}
    {t t' : SchnorrStatement G} {p : Rust.SchnorrProof q G} (hpub : t.pub = t'.pub)
    (hne : t.pub ≠ 0) (hv : t.verify S p = true) (hv' : t'.verify S p = true) :
    t.challenge S p.a = t'.challenge S p.a := by
  have he := SchnorrStatement.verify_iff.mp hv
  have he' := SchnorrStatement.verify_iff.mp hv'
  unfold SchnorrEq at he he'
  rw [he, ← hpub] at he'
  exact smul_left_injective (ZMod q) hne (add_left_cancel he')

/-- The four Schnorr proofs, for every group of prime order and every hash function.  A prover
that knows the key is accepted.  Two accepted proofs for one key, with one commitment and
different challenges, give its discrete logarithm, also when the second verifier uses another
hash function.  A proof accepted for two different statements about one key other than the
identity has different transcripts with equal challenges.  Where no product is the identity, the
C library computes the proofs and the decisions of the Rust crate. -/
theorem schnorr_proofs [DecidableEq G] (S : Suite q G) :
    (∀ wide x (t : SchnorrStatement G), t.pub = x • S.base →
      t.verify S (t.prove S wide x) = true) ∧
    (∀ (S' : Suite q G) (t t' : SchnorrStatement G) (p p' : Rust.SchnorrProof q G),
      S.SameGroup S' → t.pub = t'.pub → p.a = p'.a →
      t.verify S p = true → t'.verify S' p' = true →
      t.challenge S p.a ≠ t'.challenge S' p'.a →
      t.pub = extractWitness (t.challenge S p.a, p.s) (t'.challenge S' p'.a, p'.s) • S.base ∧
      ∀ x : ZMod q, S.base ≠ 0 → t.pub = x • S.base →
        x = extractWitness (t.challenge S p.a, p.s) (t'.challenge S' p'.a, p'.s)) ∧
    (∀ (t t' : SchnorrStatement G) (p : Rust.SchnorrProof q G),
      t ≠ t' → t.pub = t'.pub → t.pub ≠ 0 → t.verify S p = true → t'.verify S p = true →
      t.bytes S p.a ≠ t'.bytes S p.a ∧
      Rust.challengeScalar S (t.bytes S p.a) = Rust.challengeScalar S (t'.bytes S p.a)) ∧
    (∀ wide x (t : SchnorrStatement G),
      (scalarOf wide : ZMod q) • S.base ≠ 0 → x • S.base ≠ 0 →
      t.proveC S wide (encScalar x) = .ok (C.encProof S (t.prove S wide x))) ∧
    ∀ (t : SchnorrStatement G) (p : Rust.SchnorrProof q G),
      p.s • S.base ≠ 0 → t.challenge S p.a • t.pub ≠ 0 →
      t.verifyC S (C.encProof S p) = t.verify S p := by
  refine ⟨fun wide x t => SchnorrStatement.verify_prove S wide, ?_, ?_,
    fun wide x t => SchnorrStatement.proveC_eq S t, fun t p => SchnorrStatement.verifyC_eq⟩
  · intro S' t t' p p' hS hpub ha hv hv' hne
    have he := SchnorrStatement.verify_iff.mp hv
    have he' := SchnorrStatement.verify_iff.mp hv'
    rw [hS.base, ← hpub, ← ha] at he'
    rw [← ha] at hne ⊢
    have hextract := he.extract he' hne
    refine ⟨hextract, ?_⟩
    intro x hbase hx
    exact smul_left_injective (ZMod q) hbase (hx.symm.trans hextract)
  · intro t t' p hne hpub hP hv hv'
    constructor
    · intro hbytes
      exact hne (SchnorrStatement.bytes_inj S hbytes).1
    · exact SchnorrStatement.challenge_eq_of_verify hpub hP hv hv'

end Prime

/-! ## A fork of the small suite -/

/-- A client statement of the small suite, with a nonce. -/
def demoClientStatement (n : UInt8) : SchnorrStatement (ZMod 11) :=
  .authClient demoDeviceKey (byteString 31 7) (byteString 31 n) demoServerKey

/-- The proof of that statement, with one draw for every nonce. -/
def demoClientProof (n : UInt8) : Rust.SchnorrProof 11 (ZMod 11) :=
  (demoClientStatement n).prove smallSuite (byteString 63 6) demoDeviceKey

local instance primeEleven : Fact (Nat.Prime 11) := factPrimeEleven

theorem schnorr_proofs_demo :
    (demoClientStatement 1).verify smallSuite (demoClientProof 1) = true ∧
    (demoClientStatement 2).verify smallSuite (demoClientProof 2) = true ∧
    (demoClientStatement 1).pub = extractWitness
      ((demoClientStatement 1).challenge smallSuite (demoClientProof 1).a, (demoClientProof 1).s)
      ((demoClientStatement 2).challenge smallSuite (demoClientProof 2).a, (demoClientProof 2).s)
        • smallSuite.base := by
  obtain ⟨hcomplete, hextract, -⟩ := schnorr_proofs smallSuite
  have hv := hcomplete (byteString 63 6) demoDeviceKey (demoClientStatement 1) (by decide)
  have hv' := hcomplete (byteString 63 6) demoDeviceKey (demoClientStatement 2) (by decide)
  refine ⟨hv, hv', ?_⟩
  exact (hextract smallSuite (demoClientStatement 1) (demoClientStatement 2) (demoClientProof 1)
    (demoClientProof 2) ⟨rfl, rfl, rfl⟩ rfl (by decide +kernel) hv hv' (by decide +kernel)).1

end ZkArche
