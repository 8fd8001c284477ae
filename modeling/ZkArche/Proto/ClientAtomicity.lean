import ZkArche.Proto.ClientSpecC
import ZkArche.Crypto.SmallSuite

/-!
# Error atomicity of the C client

A handler is *atomic* when an error leaves the whole context as it was.  The two
acknowledgement handlers are.  The other two are not: `auth_client_handle_setup2` pins a
key on first use before it verifies the server's proof, and `auth_client_handle_auth2`
writes the derived keys before it compares the tag.

`errorAtomic_iff` says on which inputs this shows.  A SETUP_2 must be the first one of an
unpinned client that trusts on first use, and pass everything but the proof.  An AUTH_2
must pass everything but the tag, and derive something other than what the context holds.
-/

namespace ZkArche.C

/-- An error leaves the context as it was. -/
def Atomic {α : Type} (ctx : ClientCtx) (r : ClientResult α) : Prop :=
  ∀ e, r.2 = .error e → r.1 = ctx

section

variable {q : ℕ} {G : Type} [AddCommGroup G] [Module (ZMod q) G] (S : Suite q G)

/-- All four handlers are atomic on this input. -/
structure ErrorAtomic (ctx : ClientCtx) (input : List UInt8) (allowTofu : Bool) : Prop where
  setup2 : Atomic ctx (authClientHandleSetup2 S ctx input allowTofu)
  setupAck : Atomic ctx (authClientHandleSetupAck ctx input)
  auth2 : Atomic ctx (authClientHandleAuth2 S ctx input)
  authAck : Atomic ctx (authClientHandleAuthAck ctx input)

/-- A SETUP_2 that is trusted on first use and does not prove its key. -/
def PinsUnproved (ctx : ClientCtx) (input : List UInt8) (allowTofu : Bool) : Prop :=
  ctx.hasPinnedServer = false ∧ allowTofu = true ∧
    ∃ s2, setup2Checks S ctx input = .ok s2 ∧ ctx.provesSetup S s2 = false

/-- An AUTH_2 that passes every check before the tag, carries a wrong tag, and derives keys
the context does not hold. -/
def OverwritesUnconfirmed (ctx : ClientCtx) (input : List UInt8) : Prop :=
  ∃ a2 shared, auth2Checks S ctx input = .ok a2 ∧
    authScalarmult S ctx.ephSecret a2.ephS = .ok shared ∧
    (ctx.confirmation S a2 shared).tag S .s2c ≠ a2.tagS ∧
    ctx.confirm S (ctx.confirmation S a2 shared) ≠ ctx

theorem ClientCtx.pin_ne {ctx : ClientCtx} (h : ctx.hasPinnedServer = false) (key : Bytes 32) :
    ctx.pin key ≠ ctx := by
  intro he
  have hp : (ctx.pin key).hasPinnedServer = ctx.hasPinnedServer := by rw [he]
  rw [h] at hp
  cases hp

theorem setup2_atomic_iff (ctx : ClientCtx) (input : List UInt8) (tofu : Bool) :
    Atomic ctx (authClientHandleSetup2 S ctx input tofu) ↔ ¬ PinsUnproved S ctx input tofu := by
  obtain ⟨e, hr, hnot⟩ | ⟨s2, hs2, hpin, htofu, hproof, hr⟩ | ⟨s2, hs2, hproof, hr⟩ :=
    authClientHandleSetup2_cases S ctx input tofu
  · rw [hr]
    exact ⟨fun _ => hnot, fun _ _ _ => rfl⟩
  · rw [hr]
    constructor
    · intro hat
      exact absurd (hat _ rfl) (ClientCtx.pin_ne hpin s2.serverPub)
    · intro hnot
      exact absurd ⟨hpin, htofu, s2, hs2, hproof⟩ hnot
  · constructor
    · rintro - ⟨-, -, s2', hs2', hproof'⟩
      rw [hs2] at hs2'
      cases hs2'
      rw [hproof] at hproof'
      cases hproof'
    · intro _ e he
      rw [hr] at he
      cases he

theorem auth2_atomic_iff (ctx : ClientCtx) (input : List UInt8) :
    Atomic ctx (authClientHandleAuth2 S ctx input) ↔ ¬ OverwritesUnconfirmed S ctx input := by
  obtain ⟨e, hr, hnot⟩ | ⟨a2, shared, ha2, hsh, hr⟩ := authClientHandleAuth2_cases S ctx input
  · rw [hr]
    refine ⟨?_, fun _ _ _ => rfl⟩
    rintro - ⟨a2, shared, ha2, hsh, -⟩
    exact hnot a2 shared ha2 hsh
  · rw [hr]
    by_cases htag : (ctx.confirmation S a2 shared).tag S .s2c = a2.tagS
    · rw [if_pos htag]
      constructor
      · rintro - ⟨a2', shared', ha2', hsh', htag', -⟩
        rw [ha2] at ha2'
        cases ha2'
        rw [hsh] at hsh'
        cases hsh'
        exact htag' htag
      · intro _ e he
        cases he
    · rw [if_neg htag]
      constructor
      · rintro hat ⟨a2', shared', ha2', hsh', -, hne⟩
        rw [ha2] at ha2'
        cases ha2'
        rw [hsh] at hsh'
        cases hsh'
        exact hne (hat _ rfl)
      · intro hnot _ _
        by_contra hne
        exact hnot ⟨a2, shared, ha2, hsh, htag, hne⟩

/-- The handlers are atomic except where a key is pinned unproved or overwritten
unconfirmed. -/
theorem errorAtomic_iff (ctx : ClientCtx) (input : List UInt8) (tofu : Bool) :
    ErrorAtomic S ctx input tofu ↔
      ¬ PinsUnproved S ctx input tofu ∧ ¬ OverwritesUnconfirmed S ctx input := by
  constructor
  · intro h
    exact ⟨(setup2_atomic_iff S ctx input tofu).mp h.setup2,
      (auth2_atomic_iff S ctx input).mp h.auth2⟩
  · rintro ⟨hpin, hover⟩
    refine ⟨(setup2_atomic_iff S ctx input tofu).mpr hpin, ?_,
      (auth2_atomic_iff S ctx input).mpr hover, ?_⟩
    · intro _ _
      exact authClientHandleSetupAck_fst ctx input
    · intro e he
      obtain ⟨e', hr⟩ | ⟨hdr, -, -, hr⟩ := authClientHandleAuthAck_cases ctx input
      · rw [hr]
      · rw [hr] at he
        cases he

end

/-! ## A forged SETUP_2 and a forged AUTH_2 -/

/-- A client that has not enrolled yet. -/
def blankCtx : ClientCtx where
  deviceId := byteString 31 1
  deviceSk := byteString 31 3
  devicePub := byteString 31 3
  serverPubPinned := Bytes.zero 32
  hasPinnedServer := false
  roleCommitment := Bytes.zero 32
  roleBlind := Bytes.zero 32
  roleCode := 1
  hasRole := false
  sessionId := byteString 15 7
  seq := 1
  clientNonce := byteString 31 9
  ephSecret := byteString 31 4
  ephC := byteString 31 4
  pendingClientProof := default
  pendingServerPub := Bytes.zero 32
  pendingServerNonce := Bytes.zero 32
  pendingSetupChallenge := Bytes.zero 16
  sessionKey := Bytes.zero 32
  kcTh := Bytes.zero 32
  kcKS2c := Bytes.zero 32
  kcKC2s := Bytes.zero 32
  authComplete := false

/-- A SETUP_2 for the session of `blankCtx`, with the key 5 and a proof that is not one. -/
def forgedSetup2 : List UInt8 :=
  frame pktSetup2 (byteString 15 7) 1
    (Setup2.bytes ⟨Bytes.zero 32, Bytes.zero 16, byteString 31 5,
      ⟨byteString 31 2, byteString 31 3⟩⟩)

/-- `blankCtx` after it pinned the key 5. -/
def pinnedCtx : ClientCtx := blankCtx.pin (byteString 31 5)

/-- An AUTH_2 for the session of `pinnedCtx` with a valid server proof and a zero tag. -/
def untaggedAuth2 : List UInt8 :=
  match authProveAuthServer smallSuite (byteString 63 2) (byteString 31 5) (byteString 31 8)
      (byteString 31 6) with
  | .ok proof =>
      frame pktAuth2 (byteString 15 7) 1
        (Auth2.bytes ⟨byteString 31 5, proof, byteString 31 8, byteString 31 6, Bytes.zero 32⟩)
  | .error _ => []

/-- Neither handler is atomic: the forged SETUP_2 is refused and its key stays pinned, the
untagged AUTH_2 is refused and the session key is replaced. -/
theorem errorAtomic_fails :
    ((authClientHandleSetup2 smallSuite blankCtx forgedSetup2 true).2 = .error .proofVerify ∧
      (authClientHandleSetup2 smallSuite blankCtx forgedSetup2 true).1.hasPinnedServer = true ∧
      (authClientHandleSetup2 smallSuite blankCtx forgedSetup2 true).1.serverPubPinned
        = byteString 31 5 ∧
      ¬ ErrorAtomic smallSuite blankCtx forgedSetup2 true) ∧
    ((authClientHandleAuth2 smallSuite pinnedCtx untaggedAuth2).2 = .error .keyConfirm ∧
      (authClientHandleAuth2 smallSuite pinnedCtx untaggedAuth2).1.sessionKey
        ≠ pinnedCtx.sessionKey ∧
      ¬ ErrorAtomic smallSuite pinnedCtx untaggedAuth2 false) := by
  have h1 : (authClientHandleSetup2 smallSuite blankCtx forgedSetup2 true).2
      = .error .proofVerify := by decide +kernel
  have h2 : (authClientHandleSetup2 smallSuite blankCtx forgedSetup2 true).1.hasPinnedServer
      = true := by decide +kernel
  have h3 : (authClientHandleAuth2 smallSuite pinnedCtx untaggedAuth2).2 = .error .keyConfirm := by
    decide +kernel
  have h4 : (authClientHandleAuth2 smallSuite pinnedCtx untaggedAuth2).1.sessionKey
      ≠ pinnedCtx.sessionKey := by decide +kernel
  refine ⟨⟨h1, h2, by decide +kernel, ?_⟩, h3, h4, ?_⟩
  · intro h
    have hctx := h.setup2 _ h1
    rw [hctx] at h2
    cases h2
  · intro h
    have hctx := h.auth2 _ h3
    rw [hctx] at h4
    exact h4 rfl

end ZkArche.C
