import ZkArche.Lib.Machine
import ZkArche.Proto.ClientAtomicity

/-!
# Completion of the C client

The client has no phase field.  Whether it is complete should follow from its history: an
AUTH_1 was built, an AUTH_2 was accepted after it, and an AUTH_ACK of the session arrived
after that.  `Acked` says so of a history, and `CompletionOk` is what completion should
mean.

The code does not keep it.  `auth_client_handle_auth_ack` looks at neither the session
identifier nor the state, and `auth_client_build_auth1` does not reset the flag.
`completionOk_iff` says exactly which calls break it: an AUTH_ACK out of state, and an
AUTH_1 built by a client that is already complete.
-/

namespace ZkArche.C

/-- A call with its result. -/
abbrev ClientCall := ClientOp × Except AuthErr (List UInt8)

/-- The client as a machine: any context that was initialized, then any calls. -/
def clientMachine {q : ℕ} {G : Type} [AddCommGroup G] [Module (ZMod q) G] (S : Suite q G) :
    Machine ClientCtx ClientOp (Except AuthErr (List UInt8)) where
  init ctx := ∃ ctx₀ sid, ctx = authClientCtxInit ctx₀ sid
  step := clientStep S

/-! ## Histories -/

/-- The call builds an AUTH_1. -/
def ClientOp.isBuildAuth1 : ClientOp → Bool
  | .buildAuth1 .. => true
  | _ => false

/-- The call accepted an AUTH_2. -/
def acceptedAuth2 : ClientCall → Bool
  | (.handleAuth2 _, .ok _) => true
  | _ => false

/-- The call delivers a well-formed AUTH_ACK of a session. -/
def DeliversAck (sid : SessionId) (op : ClientOp) : Prop :=
  ∃ input hdr, op = .handleAuthAck input ∧ authHeaderDecode input = .ok (hdr, [ackByte]) ∧
    hdr.pktType = pktAuthAck ∧ hdr.sessionId = sid

/-- Since the last AUTH_1, an AUTH_2 was accepted.  Newest call first. -/
def Confirmed : List ClientCall → Prop
  | [] => False
  | c :: h =>
      c.1.isBuildAuth1 = false ∧
        ((acceptedAuth2 c = true ∧ ∃ c' ∈ h, c'.1.isBuildAuth1 = true) ∨ Confirmed h)

/-- Since the last AUTH_1, an AUTH_2 was accepted, and afterwards an AUTH_ACK of the session
was received.  Newest call first. -/
def Acked (sid : SessionId) : List ClientCall → Prop
  | [] => False
  | c :: h =>
      c.1.isBuildAuth1 = false ∧ ((DeliversAck sid c.1 ∧ Confirmed h) ∨ Acked sid h)

/-- What completion should mean. -/
def CompletionOk (h : List ClientCall) (ctx : ClientCtx) : Prop :=
  ctx.authComplete = true → Acked ctx.sessionId h

/-- The call suits the state.  An AUTH_1 is built by a client that is not complete, and an
AUTH_ACK arrives after an accepted AUTH_2 and for this session, or after such an AUTH_ACK. -/
def InState (h : List ClientCall) (ctx : ClientCtx) (op : ClientOp) : Prop :=
  (op.isBuildAuth1 = true → ctx.authComplete = false) ∧
    ∀ sid, DeliversAck sid op →
      (sid = ctx.sessionId ∧ Confirmed h) ∨ Acked ctx.sessionId h

/-! ## Calls and completion -/

section

variable {q : ℕ} {G : Type} [AddCommGroup G] [Module (ZMod q) G] (S : Suite q G)

@[simp] theorem noPacket_fst (r : ClientResult Unit) : (noPacket r).1 = r.1 := rfl

/-- A call initializes, completes on an AUTH_ACK, or leaves the phase alone. -/
theorem clientStep_phase (ctx : ClientCtx) (op : ClientOp) :
    (clientStep S ctx op).1.authComplete = false ∨
    (∃ sid, DeliversAck sid op) ∧ (clientStep S ctx op).1.authComplete = true ∧
      (clientStep S ctx op).1.sessionId = ctx.sessionId ∨
    (∀ sid, ¬ DeliversAck sid op) ∧ (clientStep S ctx op).1.phase = ctx.phase := by
  have hother : ∀ op : ClientOp, (∀ input, op ≠ .handleAuthAck input) →
      ∀ sid, ¬ DeliversAck sid op := by
    rintro op hop sid ⟨input, hdr, rfl, -⟩
    exact hop input rfl
  cases op with
  | ctxInit sid => exact .inl rfl
  | buildSetup1 token draws cap =>
      obtain ⟨nonce, code, blind, c, has, seq, h⟩ := authClientBuildSetup1_fst S ctx token draws cap
      refine .inr (.inr ⟨hother _ (fun _ h => by cases h), ?_⟩)
      rw [clientStep, h]
      rfl
  | handleSetup2 input tofu =>
      obtain ⟨p, has, pub, nonce, chal, h⟩ := authClientHandleSetup2_fst S ctx input tofu
      refine .inr (.inr ⟨hother _ (fun _ h => by cases h), ?_⟩)
      rw [clientStep, noPacket_fst, h]
      rfl
  | buildSetup3 wide cap =>
      obtain ⟨seq, h⟩ := authClientBuildSetup3_fst S ctx wide cap
      refine .inr (.inr ⟨hother _ (fun _ h => by cases h), ?_⟩)
      rw [clientStep, h]
      rfl
  | handleSetupAck input =>
      refine .inr (.inr ⟨hother _ (fun _ h => by cases h), ?_⟩)
      rw [clientStep, noPacket_fst, authClientHandleSetupAck_fst]
  | buildAuth1 roles draws cap =>
      obtain ⟨nonce, secret, eph, proof, seq, h⟩ := authClientBuildAuth1_fst S ctx roles draws cap
      refine .inr (.inr ⟨hother _ (fun _ h => by cases h), ?_⟩)
      rw [clientStep, h]
      rfl
  | handleAuth2 input =>
      refine .inr (.inr ⟨hother _ (fun _ h => by cases h), ?_⟩)
      rw [clientStep, noPacket_fst]
      obtain ⟨e, h, -⟩ | ⟨a2, shared, -, -, h⟩ := authClientHandleAuth2_cases S ctx input
      · rw [h]
      · rw [h]
        rfl
  | buildAuth3 cap =>
      obtain ⟨seq, h⟩ := sendPacket_fst ctx pktAuth3
        (authAuth3Encode ⟨authHmacTag S ctx.kcKC2s (ascii "client finished") ctx.kcTh⟩ maxPayload)
        cap
      refine .inr (.inr ⟨hother _ (fun _ h => by cases h), ?_⟩)
      rw [clientStep, authClientBuildAuth3, h]
      rfl
  | handleAuthAck input =>
      rw [clientStep, noPacket_fst]
      obtain ⟨e, h⟩ | ⟨hdr, hd, hty, h⟩ := authClientHandleAuthAck_cases ctx input
      · refine .inr (.inr ⟨?_, by rw [h]⟩)
        rintro sid ⟨input', hdr, he, hd, hty, -⟩
        cases he
        have hx := (expectPacket_eq_ok_iff (by decide : pktAuthAck ≠ pktError)).mpr ⟨hd, hty⟩
        have hok : (authClientHandleAuthAck ctx input).2 = .ok () := by
          rw [authClientHandleAuthAck, hx]
          rfl
        rw [h] at hok
        cases hok
      · refine .inr (.inl ⟨⟨hdr.sessionId, input, hdr, rfl, hd, hty, rfl⟩, ?_⟩)
        rw [h]
        exact ⟨rfl, rfl⟩

/-- A call in state preserves what completion should mean. -/
theorem completionOk_step {h : List ClientCall} {ctx : ClientCtx} {op : ClientOp}
    (hin : InState h ctx op) (hc : CompletionOk h ctx) :
    CompletionOk ((op, (clientStep S ctx op).2) :: h) (clientStep S ctx op).1 := by
  intro hdone
  obtain hf | ⟨⟨sid, hack⟩, -, hsid⟩ | ⟨-, hphase⟩ := clientStep_phase S ctx op
  · rw [hf] at hdone
    cases hdone
  · obtain ⟨input, hdr, rfl, hrest⟩ := hack
    rw [hsid]
    refine ⟨rfl, ?_⟩
    obtain ⟨rfl, hconf⟩ | hacked := hin.2 sid ⟨input, hdr, rfl, hrest⟩
    · exact .inl ⟨⟨input, hdr, rfl, hrest⟩, hconf⟩
    · exact .inr hacked
  · obtain ⟨hsid, hcomplete⟩ := Prod.mk.inj hphase
    rw [hcomplete] at hdone
    rw [hsid]
    refine ⟨?_, .inr (hc hdone)⟩
    by_contra hb
    rw [Bool.not_eq_false] at hb
    rw [hin.1 hb] at hdone
    cases hdone

/-- A call after which completion means what it should was in state. -/
theorem inState_of_completionOk {h : List ClientCall} {ctx : ClientCtx} {op : ClientOp}
    (hc : CompletionOk ((op, (clientStep S ctx op).2) :: h) (clientStep S ctx op).1) :
    InState h ctx op := by
  constructor
  · intro hb
    by_contra hdone
    rw [Bool.not_eq_false] at hdone
    cases op with
    | buildAuth1 roles draws cap =>
        obtain ⟨nonce, secret, eph, proof, seq, hx⟩ :=
          authClientBuildAuth1_fst S ctx roles draws cap
        have hstill : (clientStep S ctx (.buildAuth1 roles draws cap)).1.authComplete = true := by
          rw [clientStep, hx]
          exact hdone
        have habs := (hc hstill).1
        cases habs
    | _ => cases hb
  · rintro sid ⟨input, hdr, rfl, hd, hty, hsid⟩
    have hx := (expectPacket_eq_ok_iff (by decide : pktAuthAck ≠ pktError)).mpr ⟨hd, hty⟩
    have hstep : (clientStep S ctx (.handleAuthAck input)).1
        = { ctx with authComplete := true } := by
      rw [clientStep, noPacket_fst, authClientHandleAuthAck, hx]
      rfl
    rw [hstep] at hc
    obtain ⟨-, ⟨⟨input', hdr', he, hd', -, hsid'⟩, hconf⟩ | hacked⟩ := hc rfl
    · cases he
      rw [hd] at hd'
      cases hd'
      exact .inl ⟨hsid.symm.trans hsid', hconf⟩
    · exact .inr hacked

/-- Completion means what it should after every call. -/
def OkAfter (h : List ClientCall) (ctx : ClientCtx) (op : ClientOp) : Prop :=
  CompletionOk ((op, (clientStep S ctx op).2) :: h) (clientStep S ctx op).1

/-- A client whose calls are all in state is complete only as it should be, and the runs of
such calls are exactly the runs along which completion means what it should. -/
theorem client_completion (h : List ClientCall) (ctx : ClientCtx) :
    ((clientMachine S).Run InState h ctx → CompletionOk h ctx) ∧
    ((clientMachine S).Run InState h ctx ↔ (clientMachine S).Run (OkAfter S) h ctx) := by
  apply Machine.Run.iff_invariant
  · rintro ctx ⟨ctx₀, sid, rfl⟩
    exact nofun
  · intro h ctx op hc
    exact ⟨fun hin => completionOk_step S hin hc, inState_of_completionOk S⟩

end

/-! ## An AUTH_ACK out of state -/

/-- An AUTH_ACK of another session. -/
def strayAck : List UInt8 := frame pktAuthAck (byteString 15 9) 0 [ackByte]

/-- A client that has sent nothing is completed by an AUTH_ACK of another session. -/
theorem client_completion_fails :
    ∃ h ctx, (clientMachine smallSuite).Run Machine.anyInput h ctx ∧
      h.map Prod.fst = [.handleAuthAck strayAck] ∧ ctx.authComplete = true ∧
      ¬ CompletionOk h ctx := by
  have hinit : (clientMachine smallSuite).init (authClientCtxInit blankCtx (byteString 15 7)) :=
    ⟨blankCtx, byteString 15 7, rfl⟩
  have hdone : (clientStep smallSuite (authClientCtxInit blankCtx (byteString 15 7))
      (.handleAuthAck strayAck)).1.authComplete = true := by decide +kernel
  have hrun : (clientMachine smallSuite).Run Machine.anyInput _ _ :=
    .step (.handleAuthAck strayAck) (.init hinit) trivial
  refine ⟨_, _, hrun, rfl, hdone, ?_⟩
  intro hc
  obtain ⟨-, ⟨-, hconf⟩ | hacked⟩ := hc hdone
  · exact hconf
  · exact hacked

end ZkArche.C
