import ZkArche.Lib.Refusal
import ZkArche.Lineage.Authorization

/-!
# The verified commit of a lineage replacement

An authorized replacement is evaluated against the facts of the lifecycle, planned, and handed to a
storage adapter in five steps.  The adapter is a stateful function of the caller that answers each
step with yes or no, and the first no ends the transaction.

`CommitGate` is all that must hold before the adapter is asked for anything.  The bit for the
authority in the facts is not part of it, since the authorization overwrites that bit.
-/

namespace ZkArche

/-! ## Facts, plans and results -/

/-- `LineageReplaceTrigger`. -/
inductive LineageReplaceTrigger where
  | lifecycle | restart | transportChange | auth
deriving DecidableEq

/-- `LineageReplaceDecision`. -/
inductive LineageReplaceDecision where
  | acceptSuccessor | rejectAuthority | rejectPredecessor | rejectSuccessor | rejectContext
  | rejectFreshness | rejectReplay | rejectConcurrent | rejectRollback | rejectStorage
deriving DecidableEq

/-- `LineageReplaceFacts`. -/
structure LineageReplaceFacts where
  trigger : LineageReplaceTrigger
  authorityValid : Bool
  predecessorValid : Bool
  successorValid : Bool
  contextValid : Bool
  freshnessValid : Bool
  replayFree : Bool
  concurrentFree : Bool
  rollbackClear : Bool
  storageSafe : Bool
  dependentStateSafe : Bool

/-- `LineageReplacePlan`. -/
structure LineageReplacePlan where
  retirePredecessor : Bool
  activateSuccessor : Bool
  invalidateSessionKeys : Bool
  invalidateResumption : Bool
  invalidateAuthorizationCache : Bool
  invalidateAttributionCache : Bool
  invalidateChannelBinding : Bool
  invalidateReplayState : Bool

/-- `plan_complete`. -/
def planComplete (plan : LineageReplacePlan) : Bool :=
  plan.retirePredecessor && plan.activateSuccessor && plan.invalidateSessionKeys &&
    plan.invalidateResumption && plan.invalidateAuthorizationCache &&
    plan.invalidateAttributionCache && plan.invalidateChannelBinding && plan.invalidateReplayState

/-- `LineageReplaceStorageStep`. -/
inductive LineageReplaceStorageStep where
  | persistPending | activateSuccessor | retirePredecessor | invalidateDependentState
  | clearPending
deriving DecidableEq

/-- `LineageReplaceStorageTransactionResult`. -/
inductive LineageReplaceStorageTransactionResult where
  | committed | rejectPlan | failPending | failSuccessor | failPredecessor | failInvalidations
  | failClear
deriving DecidableEq

/-- `LineageReplaceVerifiedCommitPhase`. -/
inductive LineageReplaceVerifiedCommitPhase where
  | rejectAuthorization | rejectDecision | rejectPlan | rejectStorageAdapter | storageCommitted
  | storageFailed
deriving DecidableEq

/-- `LineageReplaceVerifiedCommitResult`. -/
structure LineageReplaceVerifiedCommitResult where
  phase : LineageReplaceVerifiedCommitPhase
  authorization : LineageReplaceAuthorizationDecision
  decision : LineageReplaceDecision
  storageResult : LineageReplaceStorageTransactionResult
deriving DecidableEq

/-- The storage adapter: a closure with its captured state in Rust, a function with its context
pointer in C. -/
abbrev StorageAdapter (σ : Type) : Type := Responder LineageReplaceStorageStep σ

/-! ## Rust -/

namespace Rust

/-- `evaluate_lineage_replace`. -/
def evaluateLineageReplace (facts : LineageReplaceFacts) : LineageReplaceDecision :=
  if facts.trigger ≠ .lifecycle ∨ ¬ facts.authorityValid then .rejectAuthority
  else if ¬ facts.predecessorValid then .rejectPredecessor
  else if ¬ facts.successorValid then .rejectSuccessor
  else if ¬ facts.contextValid ∨ ¬ facts.dependentStateSafe then .rejectContext
  else if ¬ facts.freshnessValid then .rejectFreshness
  else if ¬ facts.replayFree then .rejectReplay
  else if ¬ facts.concurrentFree then .rejectConcurrent
  else if ¬ facts.rollbackClear then .rejectRollback
  else if ¬ facts.storageSafe then .rejectStorage
  else .acceptSuccessor

/-- `evaluate_authorized_lineage_replace`. -/
def evaluateAuthorizedLineageReplace (authorization : LineageReplaceAuthorizationDecision)
    (facts : LineageReplaceFacts) : LineageReplaceDecision :=
  evaluateLineageReplace
    { facts with authorityValid := authorization == .authorizedReplacement }

/-- `plan_lineage_replace`. -/
def planLineageReplace (decision : LineageReplaceDecision) : Option LineageReplacePlan :=
  if decision ≠ .acceptSuccessor then none
  else some ⟨true, true, true, true, true, true, true, true⟩

/-- `execute_lineage_replace_storage_transaction`. -/
def executeLineageReplaceStorageTransaction {σ : Type} (plan : Option LineageReplacePlan)
    (apply : StorageAdapter σ) : StateM σ LineageReplaceStorageTransactionResult := do
  match plan with
  | none => return .rejectPlan
  | some plan =>
      if !planComplete plan then return .rejectPlan
      if !(← apply .persistPending) then return .failPending
      if !(← apply .activateSuccessor) then return .failSuccessor
      if !(← apply .retirePredecessor) then return .failPredecessor
      if !(← apply .invalidateDependentState) then return .failInvalidations
      if !(← apply .clearPending) then return .failClear
      return .committed

/-- `execute_verified_bound_iot_core_lineage_replace_commit`. -/
def executeVerifiedBoundIotCoreLineageReplaceCommit {σ : Type}
    (authContext : Option AuthV3Context)
    (sessionExpectation : Option LineageReplaceSessionBindingExpectation)
    (authorizationContext : Option IotCoreAuthorizationContextV1)
    (attribution : Option IotCoreAttributionRecordV1)
    (evidence : Option LineageReplaceVerifiedBoundAuthContextEvidence)
    (facts : Option LineageReplaceFacts) (apply : Option (StorageAdapter σ)) :
    StateM σ LineageReplaceVerifiedCommitResult := do
  let authorization := lineageReplaceAuthorizationFromVerifiedBoundIotCore authContext
    sessionExpectation authorizationContext attribution evidence
  if authorization ≠ .authorizedReplacement then
    return ⟨.rejectAuthorization, authorization, .rejectAuthority, .rejectPlan⟩
  let decision := match facts with
    | none => .rejectStorage
    | some facts => evaluateAuthorizedLineageReplace authorization facts
  if decision ≠ .acceptSuccessor then
    return ⟨.rejectDecision, authorization, decision, .rejectPlan⟩
  match planLineageReplace decision with
  | none => return ⟨.rejectPlan, authorization, decision, .rejectPlan⟩
  | some plan =>
      match apply with
      | none => return ⟨.rejectStorageAdapter, authorization, decision, .rejectPlan⟩
      | some apply =>
          let storageResult ← executeLineageReplaceStorageTransaction (some plan) apply
          let phase := match storageResult with
            | .committed => .storageCommitted
            | .rejectPlan => .rejectPlan
            | _ => .storageFailed
          return ⟨phase, authorization, decision, storageResult⟩

end Rust

/-! ## C -/

namespace C

/-- `lineage_replace_evaluate`. -/
def lineageReplaceEvaluate : Option LineageReplaceFacts → LineageReplaceDecision
  | none => .rejectStorage
  | some facts =>
      if facts.trigger ≠ .lifecycle ∨ ¬ facts.authorityValid then .rejectAuthority
      else if ¬ facts.predecessorValid then .rejectPredecessor
      else if ¬ facts.successorValid then .rejectSuccessor
      else if ¬ facts.contextValid ∨ ¬ facts.dependentStateSafe then .rejectContext
      else if ¬ facts.freshnessValid then .rejectFreshness
      else if ¬ facts.replayFree then .rejectReplay
      else if ¬ facts.concurrentFree then .rejectConcurrent
      else if ¬ facts.rollbackClear then .rejectRollback
      else if ¬ facts.storageSafe then .rejectStorage
      else .acceptSuccessor

/-- `lineage_replace_evaluate_authorized`. -/
def lineageReplaceEvaluateAuthorized (authorization : LineageReplaceAuthorizationDecision) :
    Option LineageReplaceFacts → LineageReplaceDecision
  | none => .rejectStorage
  | some facts => lineageReplaceEvaluate
      (some { facts with authorityValid := authorization == .authorizedReplacement })

/-- `lineage_replace_plan`, with what it leaves in the plan of the caller. -/
def lineageReplacePlan (decision : LineageReplaceDecision) : Bool × LineageReplacePlan :=
  if decision ≠ .acceptSuccessor then
    (false, ⟨false, false, false, false, false, false, false, false⟩)
  else (true, ⟨true, true, true, true, true, true, true, true⟩)

/-- `lineage_replace_execute_storage_transaction`. -/
def lineageReplaceExecuteStorageTransaction {σ : Type} (plan : Option LineageReplacePlan)
    (apply : Option (StorageAdapter σ)) : StateM σ LineageReplaceStorageTransactionResult := do
  match plan, apply with
  | some plan, some apply =>
      if !planComplete plan then return .rejectPlan
      if !(← apply .persistPending) then return .failPending
      if !(← apply .activateSuccessor) then return .failSuccessor
      if !(← apply .retirePredecessor) then return .failPredecessor
      if !(← apply .invalidateDependentState) then return .failInvalidations
      if !(← apply .clearPending) then return .failClear
      return .committed
  | _, _ => return .rejectPlan

/-- `lineage_replace_execute_verified_bound_iot_core_commit`. -/
def lineageReplaceExecuteVerifiedBoundIotCoreCommit {σ : Type}
    (authContext : Option AuthV3Context)
    (sessionExpectation : Option LineageReplaceSessionBindingExpectation)
    (authorizationContext : Option IotCoreAuthorizationContextV1)
    (attribution : Option IotCoreAttributionRecordV1)
    (evidence : Option LineageReplaceVerifiedBoundAuthContextEvidence)
    (facts : Option LineageReplaceFacts) (apply : Option (StorageAdapter σ)) :
    StateM σ LineageReplaceVerifiedCommitResult := do
  let mut out : LineageReplaceVerifiedCommitResult :=
    ⟨.rejectAuthorization, .rejectCurrentCredentialControl, .rejectAuthority, .rejectPlan⟩
  out := { out with
    authorization := lineageReplaceAuthorizationFromVerifiedBoundIotCore authContext
      sessionExpectation authorizationContext attribution evidence }
  if out.authorization ≠ .authorizedReplacement then return out
  out := { out with decision := lineageReplaceEvaluateAuthorized out.authorization facts }
  if out.decision ≠ .acceptSuccessor then return { out with phase := .rejectDecision }
  let (planned, plan) := lineageReplacePlan out.decision
  if !planned then return { out with phase := .rejectPlan }
  if apply.isNone then return { out with phase := .rejectStorageAdapter }
  let storageResult ← lineageReplaceExecuteStorageTransaction (some plan) apply
  out := { out with storageResult := storageResult }
  if out.storageResult = .committed then return { out with phase := .storageCommitted }
  else if out.storageResult = .rejectPlan then return { out with phase := .rejectPlan }
  else return { out with phase := .storageFailed }

end C

/-! ## Agreement of the languages -/

theorem evaluateAuthorized_same (authorization : LineageReplaceAuthorizationDecision)
    (facts : Option LineageReplaceFacts) :
    C.lineageReplaceEvaluateAuthorized authorization facts =
      match facts with
      | none => .rejectStorage
      | some facts => Rust.evaluateAuthorizedLineageReplace authorization facts := by
  cases facts with
  | none => rfl
  | some _ => rfl

/-- Both languages return the same and ask the adapter for the same. -/
theorem verifiedCommit_same {σ : Type} (authContext : Option AuthV3Context)
    (sessionExpectation : Option LineageReplaceSessionBindingExpectation)
    (authorizationContext : Option IotCoreAuthorizationContextV1)
    (attribution : Option IotCoreAttributionRecordV1)
    (evidence : Option LineageReplaceVerifiedBoundAuthContextEvidence)
    (facts : Option LineageReplaceFacts) (apply : Option (StorageAdapter σ)) :
    C.lineageReplaceExecuteVerifiedBoundIotCoreCommit authContext sessionExpectation
        authorizationContext attribution evidence facts apply =
      Rust.executeVerifiedBoundIotCoreLineageReplaceCommit authContext sessionExpectation
        authorizationContext attribution evidence facts apply := by
  simp only [C.lineageReplaceExecuteVerifiedBoundIotCoreCommit,
    Rust.executeVerifiedBoundIotCoreLineageReplaceCommit, authorization_same,
    evaluateAuthorized_same]
  split
  next => rfl
  next =>
    generalize (match facts with
      | none => LineageReplaceDecision.rejectStorage
      | some facts => Rust.evaluateAuthorizedLineageReplace _ facts) = decision
    by_cases hdecision : decision = .acceptSuccessor
    · subst hdecision
      cases apply with
      | none => rfl
      | some apply =>
          refine congrArg (bind _) (funext fun storageResult => ?_)
          cases storageResult with
          | _ => rfl
    · rw [if_pos hdecision, if_pos hdecision]

/-! ## The gate -/

/-- The facts of the lifecycle, without the bit for the authority. -/
structure LineageReplaceFacts.LifecycleHolds (facts : LineageReplaceFacts) : Prop where
  trigger : facts.trigger = .lifecycle
  predecessor : facts.predecessorValid
  successor : facts.successorValid
  context : facts.contextValid
  dependentState : facts.dependentStateSafe
  freshness : facts.freshnessValid
  replay : facts.replayFree
  concurrent : facts.concurrentFree
  rollback : facts.rollbackClear
  storage : facts.storageSafe

/-- Everything is there, the replacement is authorized, and the facts of the lifecycle hold. -/
def CommitGate (authContext : Option AuthV3Context)
    (sessionExpectation : Option LineageReplaceSessionBindingExpectation)
    (authorizationContext : Option IotCoreAuthorizationContextV1)
    (attribution : Option IotCoreAttributionRecordV1)
    (evidence : Option LineageReplaceVerifiedBoundAuthContextEvidence)
    (facts : Option LineageReplaceFacts) : Prop :=
  ∃ a x c r e f, authContext = some a ∧ sessionExpectation = some x ∧
    authorizationContext = some c ∧ attribution = some r ∧ evidence = some e ∧ facts = some f ∧
    AuthorizationHolds a x c r e ∧ f.LifecycleHolds

/-- The steps of the transaction, each with the result when it is refused. -/
def storageSteps : List (LineageReplaceStorageStep × LineageReplaceStorageTransactionResult) :=
  [(.persistPending, .failPending), (.activateSuccessor, .failSuccessor),
    (.retirePredecessor, .failPredecessor), (.invalidateDependentState, .failInvalidations),
    (.clearPending, .failClear)]

namespace Rust

theorem evaluateAuthorized_eq_accept_iff {facts : LineageReplaceFacts} :
    evaluateAuthorizedLineageReplace .authorizedReplacement facts = .acceptSuccessor ↔
      facts.LifecycleHolds := by
  simp (disch := decide) only [evaluateAuthorizedLineageReplace, evaluateLineageReplace,
    ite_reject_iff, not_or, not_not, ne_eq, and_true, beq_self_eq_true]
  constructor
  · rintro ⟨h1, h2, h3, ⟨h4, h5⟩, h6, h7, h8, h9, h10⟩
    exact ⟨h1, h2, h3, h4, h5, h6, h7, h8, h9, h10⟩
  · rintro ⟨h1, h2, h3, h4, h5, h6, h7, h8, h9, h10⟩
    exact ⟨h1, h2, h3, ⟨h4, h5⟩, h6, h7, h8, h9, h10⟩

/-- With a complete plan the transaction asks for the steps in order. -/
theorem storageTransaction_eq_askInOrder {σ : Type} {plan : LineageReplacePlan}
    (hplan : planComplete plan = true) (apply : StorageAdapter σ) (s : σ) :
    executeLineageReplaceStorageTransaction (some plan) apply s =
      askInOrder .committed apply storageSteps s := by
  simp only [executeLineageReplaceStorageTransaction, hplan]
  refine guarded_eq_askInOrder (fun s => ?_) s
  refine guarded_eq_askInOrder (fun s => ?_) s
  refine guarded_eq_askInOrder (fun s => ?_) s
  refine guarded_eq_askInOrder (fun s => ?_) s
  refine guarded_eq_askInOrder (fun s => ?_) s
  rfl

section

variable {authContext : Option AuthV3Context}
  {sessionExpectation : Option LineageReplaceSessionBindingExpectation}
  {authorizationContext : Option IotCoreAuthorizationContextV1}
  {attribution : Option IotCoreAttributionRecordV1}
  {evidence : Option LineageReplaceVerifiedBoundAuthContextEvidence}
  {facts : Option LineageReplaceFacts}

/-- The phase after the transaction. -/
def storagePhase : LineageReplaceStorageTransactionResult → LineageReplaceVerifiedCommitPhase
  | .committed => .storageCommitted
  | .rejectPlan => .rejectPlan
  | _ => .storageFailed

theorem storagePhase_eq_committed_iff {result : LineageReplaceStorageTransactionResult} :
    storagePhase result = .storageCommitted ↔ result = .committed := by
  cases result with
  | committed => exact iff_of_true rfl rfl
  | _ => exact iff_of_false (by decide) (by decide)

/-- The gate is what the two classifiers in front of the plan decide. -/
theorem commitGate_iff :
    CommitGate authContext sessionExpectation authorizationContext attribution evidence facts ↔
      lineageReplaceAuthorizationFromVerifiedBoundIotCore authContext sessionExpectation
          authorizationContext attribution evidence = .authorizedReplacement ∧
        ∃ f, facts = some f ∧
          evaluateAuthorizedLineageReplace .authorizedReplacement f = .acceptSuccessor := by
  constructor
  · rintro ⟨a, x, c, r, e, f, ha, hx, hc, hr, he, hf, hauth, hlife⟩
    exact ⟨authorized_iff.mpr ⟨a, x, c, r, e, ha, hx, hc, hr, he, hauth⟩, f, hf,
      evaluateAuthorized_eq_accept_iff.mpr hlife⟩
  · rintro ⟨hauthorized, f, hf, haccept⟩
    obtain ⟨a, x, c, r, e, ha, hx, hc, hr, he, hauth⟩ := authorized_iff.mp hauthorized
    exact ⟨a, x, c, r, e, f, ha, hx, hc, hr, he, hf, hauth,
      evaluateAuthorized_eq_accept_iff.mp haccept⟩

/-- Behind the gate, an adapter is asked for the steps in order. -/
theorem verifiedCommit_of_gate {σ : Type}
    (h : CommitGate authContext sessionExpectation authorizationContext attribution evidence facts)
    (apply : StorageAdapter σ) (s : σ) :
    executeVerifiedBoundIotCoreLineageReplaceCommit authContext sessionExpectation
        authorizationContext attribution evidence facts (some apply) s =
      let stored := askInOrder .committed apply storageSteps s
      (⟨storagePhase stored.1, .authorizedReplacement, .acceptSuccessor, stored.1⟩, stored.2) := by
  obtain ⟨hauthorized, f, rfl, haccept⟩ := commitGate_iff.mp h
  have hplan : planComplete ⟨true, true, true, true, true, true, true, true⟩ = true := rfl
  simp only [executeVerifiedBoundIotCoreLineageReplaceCommit, hauthorized, haccept]
  rw [← storageTransaction_eq_askInOrder hplan]
  rfl

/-- In front of the gate the result does not depend on the adapter, and the state stays. -/
theorem verifiedCommit_of_not_gate
    (h : ¬ CommitGate authContext sessionExpectation authorizationContext attribution evidence
      facts) :
    ∃ result : LineageReplaceVerifiedCommitResult, result.phase ≠ .storageCommitted ∧
      ∀ {σ : Type} (apply : Option (StorageAdapter σ)) (s : σ),
        executeVerifiedBoundIotCoreLineageReplaceCommit authContext sessionExpectation
          authorizationContext attribution evidence facts apply s = (result, s) := by
  by_cases hauth : lineageReplaceAuthorizationFromVerifiedBoundIotCore authContext
      sessionExpectation authorizationContext attribution evidence = .authorizedReplacement
  · cases facts with
    | none =>
        refine ⟨⟨.rejectDecision, .authorizedReplacement, .rejectStorage, .rejectPlan⟩, nofun,
          fun apply s => ?_⟩
        simp only [executeVerifiedBoundIotCoreLineageReplaceCommit, hauth]
        rfl
    | some f =>
        have hdecision : evaluateAuthorizedLineageReplace .authorizedReplacement f ≠
            .acceptSuccessor :=
          fun haccept => h (commitGate_iff.mpr ⟨hauth, f, rfl, haccept⟩)
        refine ⟨⟨.rejectDecision, .authorizedReplacement,
          evaluateAuthorizedLineageReplace .authorizedReplacement f, .rejectPlan⟩, nofun,
          fun apply s => ?_⟩
        simp only [executeVerifiedBoundIotCoreLineageReplaceCommit, hauth]
        rw [if_neg (by decide), if_pos hdecision]
        rfl
  · refine ⟨⟨.rejectAuthorization, lineageReplaceAuthorizationFromVerifiedBoundIotCore authContext
      sessionExpectation authorizationContext attribution evidence, .rejectAuthority, .rejectPlan⟩,
      nofun, fun apply s => ?_⟩
    simp only [executeVerifiedBoundIotCoreLineageReplaceCommit]
    rw [if_pos hauth]
    rfl

/-- Without an adapter nothing is committed, and the state stays. -/
theorem verifiedCommit_of_no_adapter :
    ∃ result : LineageReplaceVerifiedCommitResult, result.phase ≠ .storageCommitted ∧
      ∀ {σ : Type} (s : σ),
        executeVerifiedBoundIotCoreLineageReplaceCommit authContext sessionExpectation
          authorizationContext attribution evidence facts none s = (result, s) := by
  by_cases h : CommitGate authContext sessionExpectation authorizationContext attribution evidence
      facts
  · obtain ⟨hauthorized, f, rfl, haccept⟩ := commitGate_iff.mp h
    refine ⟨⟨.rejectStorageAdapter, .authorizedReplacement, .acceptSuccessor, .rejectPlan⟩, nofun,
      fun s => ?_⟩
    simp only [executeVerifiedBoundIotCoreLineageReplaceCommit, hauthorized, haccept]
    rfl
  · obtain ⟨result, hphase, hrun⟩ := verifiedCommit_of_not_gate h
    exact ⟨result, hphase, fun s => hrun none s⟩

end

end Rust

/-- Whatever is there or missing, the adapter is asked for something exactly when there is one and
the gate holds.  It is then asked for the five steps in order up to the first refusal, and the
commit is reported exactly when none was refused.  Otherwise it is asked for nothing and the state
stays.  C returns the same and asks for the same. -/
theorem verifiedCommit_gated {σ : Type} (authContext : Option AuthV3Context)
    (sessionExpectation : Option LineageReplaceSessionBindingExpectation)
    (authorizationContext : Option IotCoreAuthorizationContextV1)
    (attribution : Option IotCoreAttributionRecordV1)
    (evidence : Option LineageReplaceVerifiedBoundAuthContextEvidence)
    (facts : Option LineageReplaceFacts) (apply : Option (StorageAdapter σ)) (s : σ) :
    ∃ result s' trace,
      Rust.executeVerifiedBoundIotCoreLineageReplaceCommit authContext sessionExpectation
        authorizationContext attribution evidence facts apply s = (result, s') ∧
      Rust.executeVerifiedBoundIotCoreLineageReplaceCommit authContext sessionExpectation
        authorizationContext attribution evidence facts (apply.map Responder.logged) (s, []) =
          (result, s', trace) ∧
      (trace ≠ [] ↔ apply.isSome ∧ CommitGate authContext sessionExpectation authorizationContext
        attribution evidence facts) ∧
      (∀ adapter, apply = some adapter → trace ≠ [] →
        Asked adapter [.persistPending, .activateSuccessor, .retirePredecessor,
          .invalidateDependentState, .clearPending] s trace s') ∧
      (result.phase = .storageCommitted ↔ trace = [(.persistPending, true),
        (.activateSuccessor, true), (.retirePredecessor, true), (.invalidateDependentState, true),
        (.clearPending, true)]) ∧
      (trace = [] → s' = s) ∧
      C.lineageReplaceExecuteVerifiedBoundIotCoreCommit authContext sessionExpectation
        authorizationContext attribution evidence facts apply s = (result, s') ∧
      C.lineageReplaceExecuteVerifiedBoundIotCoreCommit authContext sessionExpectation
        authorizationContext attribution evidence facts (apply.map Responder.logged) (s, []) =
          (result, s', trace) := by
  simp only [verifiedCommit_same]
  -- An empty trace goes with a phase that reports no commit.
  have hquiet : ∀ result : LineageReplaceVerifiedCommitResult, result.phase ≠ .storageCommitted →
      (result.phase = .storageCommitted ↔ ([] : List (LineageReplaceStorageStep × Bool)) =
        [(.persistPending, true), (.activateSuccessor, true), (.retirePredecessor, true),
          (.invalidateDependentState, true), (.clearPending, true)]) :=
    fun _ hphase => iff_of_false hphase nofun
  by_cases hgate : CommitGate authContext sessionExpectation authorizationContext attribution
      evidence facts
  · cases apply with
    | none =>
        obtain ⟨result, hphase, hrun⟩ := Rust.verifiedCommit_of_no_adapter
        exact ⟨result, s, [], hrun s, hrun (s, []), by simp, nofun, hquiet result hphase,
          fun _ => rfl, hrun s, hrun (s, [])⟩
    | some adapter =>
        have hsteps : ∀ p ∈ storageSteps, p.2 ≠ .committed := by decide
        obtain ⟨r, s', trace, hrun, hlogged, hasked, hiff⟩ :=
          askInOrder_logged adapter hsteps s []
        have hcommit := Rust.verifiedCommit_of_gate hgate adapter s
        have hcommitLogged := Rust.verifiedCommit_of_gate hgate adapter.logged (s, [])
        simp only [hrun] at hcommit
        simp only [hlogged] at hcommitLogged
        have hne : trace ≠ [] := hasked.ne_nil
        refine ⟨_, s', trace, hcommit, hcommitLogged, iff_of_true hne ⟨rfl, hgate⟩, ?_, ?_,
          fun hnil => absurd hnil hne, hcommit, hcommitLogged⟩
        · intro _ hadapter _
          cases hadapter
          exact hasked
        · rw [Rust.storagePhase_eq_committed_iff, hiff]
          rfl
  · obtain ⟨result, hphase, hrun⟩ := Rust.verifiedCommit_of_not_gate hgate
    exact ⟨result, s, [], hrun apply s, hrun _ (s, []), by simp [hgate], nofun,
      hquiet result hphase, fun _ => rfl, hrun apply s, hrun _ (s, [])⟩

end ZkArche
