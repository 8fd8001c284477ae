import Mathlib.Data.Nat.Find
import Mathlib.Tactic.Tauto

/-!
# Reconciliation of a pair

Two peers observe the durable state of a replacement on both sides.  An observation is classified
(`classifyLineageReplaceReconciliation`), and a guard compares it with the observation before it
(`classifyLineageReplaceReconciliationTransition`).  The guard may activate the successor, resume
the predecessor, hold, or reject.

The guard sees two neighbouring observations.  So a property of a whole history depends on what the
observations in between let it forget.  A successor that was held for want of a confirmation is
activated when it is observed again.  A divergence, or a broken continuity, is forgotten after one
observation that only asks for reconciliation.

`activation_confirmed_iff` and `sticky_iff` say for which histories the guard keeps the two
properties all the same.
-/

namespace ZkArche

/-- `LineageReplaceState`. -/
inductive LineageReplaceState where
  | activePredecessor | replacementPending | activeSuccessorPredecessorRetired | continuityBroken
deriving DecidableEq

/-- `LineageReplaceAttemptDecision`. -/
inductive LineageReplaceAttemptDecision where
  | converged | awaitingConfirmation | unauthorized | attemptIdMismatch | predecessorMismatch
  | successorMismatch | contextMismatch
deriving DecidableEq

namespace Rust

/-! ## The classifiers -/

/-- `LineageReplaceReconciliationFacts`. -/
structure LineageReplaceReconciliationFacts where
  localAttempt : LineageReplaceAttemptDecision
  localState : LineageReplaceState
  peerAttempt : LineageReplaceAttemptDecision
  peerState : LineageReplaceState
  sameSuccessor : Bool

/-- `LineageReplaceReconciliationDecision`. -/
inductive LineageReplaceReconciliationDecision where
  | pairSuccessorReady | pairPredecessorReady | reconciliationRequired | pairContinuityBroken
  | successorDivergence
deriving DecidableEq

/-- `classify_lineage_replace_reconciliation`. -/
def classifyLineageReplaceReconciliation (facts : LineageReplaceReconciliationFacts) :
    LineageReplaceReconciliationDecision :=
  if facts.localState = .continuityBroken ∨ facts.peerState = .continuityBroken then
    .pairContinuityBroken
  else if facts.localState = .activeSuccessorPredecessorRetired ∧
      facts.peerState = .activeSuccessorPredecessorRetired then
    if ¬ facts.sameSuccessor then .successorDivergence
    else if facts.localAttempt = .converged ∧ facts.peerAttempt = .converged then
      .pairSuccessorReady
    else .reconciliationRequired
  else if facts.localState = .activePredecessor ∧ facts.peerState = .activePredecessor ∧
      facts.localAttempt ≠ .converged ∧ facts.peerAttempt ≠ .converged then
    .pairPredecessorReady
  else .reconciliationRequired

/-- `LineageReplaceAttemptEvidenceFacts`. -/
structure LineageReplaceAttemptEvidenceFacts where
  localAttemptId : Option UInt32
  peerAttemptId : Option UInt32
  localConfirmationAttemptId : Option UInt32
  peerConfirmationAttemptId : Option UInt32

/-- `LineageReplaceAttemptEvidenceDecision`. -/
inductive LineageReplaceAttemptEvidenceDecision where
  | freshCurrentAttempt | missingCurrentAttempt | attemptMismatch | localConfirmationMissing
  | peerConfirmationMissing
deriving DecidableEq

/-- `classify_lineage_replace_attempt_evidence`. -/
def classifyLineageReplaceAttemptEvidence (facts : LineageReplaceAttemptEvidenceFacts) :
    LineageReplaceAttemptEvidenceDecision :=
  match facts.localAttemptId, facts.peerAttemptId with
  | some localAttempt, some peerAttempt =>
      if localAttempt ≠ peerAttempt then .attemptMismatch
      else if facts.localConfirmationAttemptId ≠ some localAttempt then .localConfirmationMissing
      else if facts.peerConfirmationAttemptId ≠ some peerAttempt then .peerConfirmationMissing
      else .freshCurrentAttempt
  | _, _ => .missingCurrentAttempt

/-- `LineageReplaceReconciliationTransitionFacts`. -/
structure LineageReplaceReconciliationTransitionFacts where
  prior : LineageReplaceReconciliationDecision
  current : LineageReplaceReconciliationDecision
  attemptEvidence : LineageReplaceAttemptEvidenceDecision
  explicitCleanRetry : Bool

/-- `LineageReplaceReconciliationTransition`. -/
inductive LineageReplaceReconciliationTransition where
  | hold | activateSuccessor | resumePredecessor | rejectDivergence | continuityBroken
deriving DecidableEq

/-- `classify_lineage_replace_reconciliation_transition`. -/
def classifyLineageReplaceReconciliationTransition
    (facts : LineageReplaceReconciliationTransitionFacts) :
    LineageReplaceReconciliationTransition :=
  if facts.prior = .pairContinuityBroken ∨ facts.current = .pairContinuityBroken then
    .continuityBroken
  else if facts.current = .successorDivergence then .rejectDivergence
  else if facts.prior = .successorDivergence ∧ ¬ facts.explicitCleanRetry then .rejectDivergence
  else if facts.current = .pairSuccessorReady then
    if facts.prior = .pairSuccessorReady then .activateSuccessor
    else if facts.attemptEvidence = .freshCurrentAttempt ∧
        (facts.prior = .reconciliationRequired ∨
          (facts.prior = .successorDivergence ∧ facts.explicitCleanRetry)) then
      .activateSuccessor
    else .hold
  else if facts.current = .pairPredecessorReady ∧
      (facts.prior = .pairPredecessorReady ∨ facts.prior = .reconciliationRequired ∨
        (facts.prior = .successorDivergence ∧ facts.explicitCleanRetry)) then
    .resumePredecessor
  else .hold

/-! ## What one step does -/

namespace LineageReplaceReconciliationTransitionFacts

variable (f : LineageReplaceReconciliationTransitionFacts)

/-- The pair was unresolved, or diverged and is retried. -/
def Resolving : Prop :=
  f.prior = .reconciliationRequired ∨ (f.prior = .successorDivergence ∧ f.explicitCleanRetry)

/-- A step activates the successor when it was ready before, or is confirmed now. -/
theorem activates_iff :
    classifyLineageReplaceReconciliationTransition f = .activateSuccessor ↔
      f.current = .pairSuccessorReady ∧
        (f.prior = .pairSuccessorReady ∨
          (f.attemptEvidence = .freshCurrentAttempt ∧ f.Resolving)) := by
  obtain ⟨prior, current, evidence, retry⟩ := f
  cases retry <;> cases prior <;> cases current <;>
    simp [classifyLineageReplaceReconciliationTransition, Resolving]

/-- A step resumes the predecessor when it was ready before, or the pair is resolving. -/
theorem resumes_iff :
    classifyLineageReplaceReconciliationTransition f = .resumePredecessor ↔
      f.current = .pairPredecessorReady ∧ (f.prior = .pairPredecessorReady ∨ f.Resolving) := by
  obtain ⟨prior, current, evidence, retry⟩ := f
  by_cases hfresh : evidence = .freshCurrentAttempt <;> cases retry <;> cases prior <;>
    cases current <;> simp [classifyLineageReplaceReconciliationTransition, Resolving, hfresh]

end LineageReplaceReconciliationTransitionFacts

/-! ## Histories -/

/-- What is observed at one point, and what the guard is given besides. -/
structure Observation where
  pair : LineageReplaceReconciliationFacts
  attempt : LineageReplaceAttemptEvidenceFacts
  explicitCleanRetry : Bool

namespace Observation

/-- How the pair is classified. -/
def decision (x : Observation) : LineageReplaceReconciliationDecision :=
  classifyLineageReplaceReconciliation x.pair

/-- The attempt was confirmed by both peers. -/
def Fresh (x : Observation) : Prop :=
  classifyLineageReplaceAttemptEvidence x.attempt = .freshCurrentAttempt

/-- What the guard is given at an observation and the one before it. -/
def factsAfter (x prior : Observation) : LineageReplaceReconciliationTransitionFacts :=
  ⟨prior.decision, x.decision, classifyLineageReplaceAttemptEvidence x.attempt,
    x.explicitCleanRetry⟩

/-- The answer of the guard. -/
def transitionAfter (x prior : Observation) : LineageReplaceReconciliationTransition :=
  classifyLineageReplaceReconciliationTransition (x.factsAfter prior)

/-- The guard lets the pair be used. -/
def UsableAfter (x prior : Observation) : Prop :=
  x.transitionAfter prior = .activateSuccessor ∨ x.transitionAfter prior = .resumePredecessor

/-- A ready pair is observed where the observation before it was the same, or left the pair to be
resolved.  A successor needs a confirmation to resolve a pair. -/
def Follows (x prior : Observation) : Prop :=
  (x.decision = .pairSuccessorReady ∧
      (prior.decision = .pairSuccessorReady ∨ (x.Fresh ∧ (x.factsAfter prior).Resolving))) ∨
    (x.decision = .pairPredecessorReady ∧
      (prior.decision = .pairPredecessorReady ∨ (x.factsAfter prior).Resolving))

theorem usableAfter_iff {x prior : Observation} : x.UsableAfter prior ↔ x.Follows prior :=
  or_congr (x.factsAfter prior).activates_iff (x.factsAfter prior).resumes_iff

/-- Nothing is usable right after a broken continuity. -/
theorem not_usableAfter_broken {x prior : Observation} (h : prior.decision = .pairContinuityBroken) :
    ¬ x.UsableAfter prior := by
  rw [usableAfter_iff]
  simp [Follows, LineageReplaceReconciliationTransitionFacts.Resolving, factsAfter, h]

/-- Nothing is usable right after a divergence without a retry. -/
theorem not_usableAfter_divergence {x prior : Observation}
    (h : prior.decision = .successorDivergence) (hretry : x.explicitCleanRetry = false) :
    ¬ x.UsableAfter prior := by
  rw [usableAfter_iff]
  simp [Follows, LineageReplaceReconciliationTransitionFacts.Resolving, factsAfter, h, hretry]

end Observation

/-- The last point up to `i` where something fails. -/
theorem exists_last_not {P : ℕ → Prop} {i : ℕ} (h : ∃ j ≤ i, ¬ P j) :
    ∃ k ≤ i, ¬ P k ∧ ∀ j, k < j → j ≤ i → P j := by
  classical
  obtain ⟨j, hj, hnot⟩ := h
  refine ⟨Nat.findGreatest (fun k => ¬ P k) i, Nat.findGreatest_le i,
    Nat.findGreatest_spec (P := fun k => ¬ P k) hj hnot, ?_⟩
  intro k hk hki
  exact not_not.mp (Nat.findGreatest_is_greatest hk hki)

/-- In the history of the first `n` observations, whenever a step activates the successor after an
observation that was not ready, a confirmation was fresh at a step since the last such
observation. -/
def ActivationConfirmed (o : ℕ → Observation) (n : ℕ) : Prop :=
  ∀ i, i + 1 < n → (o (i + 1)).transitionAfter (o i) = .activateSuccessor →
    (∃ j ≤ i, (o j).decision ≠ .pairSuccessorReady) →
    ∃ k ≤ i + 1, (o k).Fresh ∧ ∀ j, k ≤ j → j ≤ i + 1 → (o j).decision = .pairSuccessorReady

/-- Activations are confirmed in exactly the histories in which a successor that is observed twice
after another observation is confirmed at one of the two. -/
theorem activation_confirmed_iff (o : ℕ → Observation) (n : ℕ) :
    ActivationConfirmed o n ↔
      ∀ k, k + 2 < n → (o k).decision ≠ .pairSuccessorReady →
        (o (k + 1)).decision = .pairSuccessorReady → (o (k + 2)).decision = .pairSuccessorReady →
        (o (k + 1)).Fresh ∨ (o (k + 2)).Fresh := by
  constructor
  · intro h k hk hfirst hsecond hthird
    have hactivate : (o (k + 2)).transitionAfter (o (k + 1)) = .activateSuccessor :=
      ((o (k + 2)).factsAfter (o (k + 1))).activates_iff.mpr ⟨hthird, .inl hsecond⟩
    obtain ⟨m, hm, hfresh, hready⟩ := h (k + 1) hk hactivate ⟨k, by omega, hfirst⟩
    have hkm : k < m := by
      by_contra hmk
      exact hfirst (hready k (by omega) (by omega))
    obtain rfl | rfl : m = k + 1 ∨ m = k + 2 := by omega
    · exact .inl hfresh
    · exact .inr hfresh
  · intro h i hi hactivate hnot
    obtain ⟨hcurrent, hprior⟩ := ((o (i + 1)).factsAfter (o i)).activates_iff.mp hactivate
    obtain ⟨k, hk, hlast, hready⟩ := exists_last_not hnot
    have hready : ∀ j, k < j → j ≤ i + 1 → (o j).decision = .pairSuccessorReady := by
      intro j hkj hj
      obtain hj | rfl : j ≤ i ∨ j = i + 1 := by omega
      · exact hready j hkj hj
      · exact hcurrent
    obtain rfl | hlt : k = i ∨ k + 2 ≤ i + 1 := by omega
    · -- the observation before is the last that was not ready, so the step itself is confirmed
      rcases hprior with hprior | ⟨hfresh, -⟩
      · exact absurd hprior hlast
      · exact ⟨k + 1, le_rfl, hfresh, fun j hj hji => hready j (by omega) hji⟩
    · rcases h k (by omega) hlast (hready (k + 1) (by omega) (by omega))
          (hready (k + 2) (by omega) hlt) with hfresh | hfresh
      · exact ⟨k + 1, by omega, hfresh, fun j hj hji => hready j (by omega) hji⟩
      · exact ⟨k + 2, hlt, hfresh, fun j hj hji => hready j (by omega) hji⟩

/-! ### Two observations -/

/-- Both peers have the successor and it is the same, with a confirmation or without. -/
def demoSuccessor (attempt : LineageReplaceAttemptEvidenceFacts) : Observation where
  pair := ⟨.converged, .activeSuccessorPredecessorRetired, .converged,
    .activeSuccessorPredecessorRetired, true⟩
  attempt := attempt
  explicitCleanRetry := false

/-- One peer has a pending replacement. -/
def demoPending : Observation where
  pair := ⟨.awaitingConfirmation, .replacementPending, .unauthorized, .activePredecessor, false⟩
  attempt := ⟨none, none, none, none⟩
  explicitCleanRetry := false

/-- A successor that was never confirmed is activated when it is observed again. -/
theorem activation_unconfirmed :
    ¬ ∀ (o : ℕ → Observation) (n : ℕ), ActivationConfirmed o n := by
  intro h
  let o : ℕ → Observation := fun
    | 0 => demoPending
    | _ => demoSuccessor ⟨none, none, none, none⟩
  have hfresh := (activation_confirmed_iff o 3).mp (h o 3) 0 (by decide) (by decide) (by decide)
    (by decide)
  revert hfresh
  simp only [Observation.Fresh]
  decide

/-! ## Divergence and broken continuity -/

/-- In the history of the first `n` observations, no pair is usable after a divergence without a
later retry, nor after a broken continuity. -/
structure Sticky (o : ℕ → Observation) (n : ℕ) : Prop where
  divergence : ∀ k i, k ≤ i → i + 1 < n → (o k).decision = .successorDivergence →
    (∀ j, k < j → j ≤ i + 1 → (o j).explicitCleanRetry = false) →
    ¬ (o (i + 1)).UsableAfter (o i)
  continuity : ∀ k i, k ≤ i → i + 1 < n → (o k).decision = .pairContinuityBroken →
    ¬ (o (i + 1)).UsableAfter (o i)

/-- In the history of the first `n` observations, behind a divergence without a later retry and
behind a broken continuity, no ready pair follows the same or a pair to be resolved. -/
structure NotForgotten (o : ℕ → Observation) (n : ℕ) : Prop where
  divergence : ∀ k i, k < i → i + 1 < n → (o k).decision = .successorDivergence →
    (∀ j, k < j → j ≤ i + 1 → (o j).explicitCleanRetry = false) → ¬ (o (i + 1)).Follows (o i)
  continuity : ∀ k i, k < i → i + 1 < n → (o k).decision = .pairContinuityBroken →
    ¬ (o (i + 1)).Follows (o i)

/-- Divergence and broken continuity last in exactly the histories that do not let the guard forget
them. -/
theorem sticky_iff (o : ℕ → Observation) (n : ℕ) : Sticky o n ↔ NotForgotten o n := by
  constructor
  · rintro ⟨hdiv, hbroken⟩
    refine ⟨fun k i hk hi hd hretry => ?_, fun k i hk hi hd => ?_⟩
    · rw [← Observation.usableAfter_iff]
      exact hdiv k i (Nat.le_of_lt hk) hi hd hretry
    · rw [← Observation.usableAfter_iff]
      exact hbroken k i (Nat.le_of_lt hk) hi hd
  · rintro ⟨hdiv, hbroken⟩
    refine ⟨fun k i hk hi hd hretry => ?_, fun k i hk hi hd => ?_⟩
    · obtain rfl | hlt := Nat.eq_or_lt_of_le hk
      · exact Observation.not_usableAfter_divergence hd (hretry (k + 1) (by omega) le_rfl)
      · rw [Observation.usableAfter_iff]
        exact hdiv k i hlt hi hd hretry
    · obtain rfl | hlt := Nat.eq_or_lt_of_le hk
      · exact Observation.not_usableAfter_broken hd
      · rw [Observation.usableAfter_iff]
        exact hbroken k i hlt hi hd

/-- Both peers have the predecessor and no attempt. -/
def demoPredecessor : Observation where
  pair := ⟨.unauthorized, .activePredecessor, .unauthorized, .activePredecessor, false⟩
  attempt := ⟨none, none, none, none⟩
  explicitCleanRetry := false

/-- The peers have different successors. -/
def demoDivergence : Observation where
  pair := ⟨.converged, .activeSuccessorPredecessorRetired, .converged,
    .activeSuccessorPredecessorRetired, false⟩
  attempt := ⟨none, none, none, none⟩
  explicitCleanRetry := false

/-- One peer has lost its continuity. -/
def demoBroken : Observation where
  pair := ⟨.unauthorized, .continuityBroken, .unauthorized, .activePredecessor, false⟩
  attempt := ⟨none, none, none, none⟩
  explicitCleanRetry := false

/-- After one pending observation the predecessor is resumed, whatever came before. -/
theorem divergence_and_continuity_forgotten :
    (¬ ∀ (o : ℕ → Observation) (n : ℕ), Sticky o n) ∧
      ∀ first ∈ [demoDivergence, demoBroken],
        demoPending.transitionAfter first ∈ [.rejectDivergence, .continuityBroken] ∧
          demoPredecessor.transitionAfter demoPending = .resumePredecessor := by
  refine ⟨fun h => ?_, by decide⟩
  let o : ℕ → Observation := fun
    | 0 => demoDivergence
    | 1 => demoPending
    | _ => demoPredecessor
  refine (h o 3).divergence 0 1 (by decide) (by decide) (by decide) ?_ (.inr (by decide))
  intro j hj hj2
  obtain rfl | rfl : j = 1 ∨ j = 2 := by omega
  · rfl
  · rfl

end Rust

end ZkArche
