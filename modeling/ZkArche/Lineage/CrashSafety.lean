import Mathlib.Logic.Relation
import ZkArche.Lineage.Reconciliation
import ZkArche.Lineage.VerifiedCommit

/-!
# Crashes, rollbacks and recovery

A lineage replacement is stored as one record with a generation, beside a trusted high-water
generation.  The first section has the classifiers of the crate: what a restart makes of the
record (`recover_lineage_replace`), of the two generations
(`classify_lineage_replace_freshness`), and of both.

The second section is the storage below the transaction.  For every step of the transaction the
adapter writes the record with a larger generation, and then advances the high-water to it.  It
may stop anywhere on the way, answer no, or die with the machine.  The record may be replaced by
any older one whose generation is below the high-water, at any time and also during a
transaction.  The storage contract wants the earlier effects represented when a later one is
written.  So the adapter writes what the transaction has made of the record so far, whatever the
disk says by then, or it reads the record back and finds it current.

Three facts carry the invariant (`StorageInv`).  The generations of the written records grow.
The high-water is that of the last written record, or that of the one before it when a write was
cut off from its advance.  The record on the disk is the last written one, or its generation is
below the high-water.  So a recovery that is not refused sees the last written record, and this
record has the facts of the write cut the last transaction has reached.
-/

namespace ZkArche

/-! ## The classifiers -/

namespace Rust

/-- `LineageReplaceRecoveryFacts`. -/
structure LineageReplaceRecoveryFacts where
  recordIntegrityValid : Bool
  predecessorActive : Bool
  replacementPending : Bool
  successorActive : Bool
  predecessorRetired : Bool
  invalidationsComplete : Bool
deriving DecidableEq

/-- `recover_lineage_replace`. -/
def recoverLineageReplace (facts : LineageReplaceRecoveryFacts) : LineageReplaceState :=
  if !facts.recordIntegrityValid then .continuityBroken
  else if facts.predecessorActive && !facts.replacementPending && !facts.successorActive &&
      !facts.predecessorRetired && !facts.invalidationsComplete then .activePredecessor
  else if !facts.predecessorActive && !facts.replacementPending && facts.successorActive &&
      facts.predecessorRetired && facts.invalidationsComplete then
    .activeSuccessorPredecessorRetired
  else .continuityBroken

/-- `LineageReplaceFreshnessFacts`. -/
structure LineageReplaceFreshnessFacts where
  anchorAvailable : Bool
  anchorIntegrityValid : Bool
  anchorBindingValid : Bool
  recordGeneration : UInt64
  trustedHighWaterGeneration : UInt64

/-- `LineageReplaceFreshnessDecision`. -/
inductive LineageReplaceFreshnessDecision where
  | current | anchorUnavailable | anchorInvalid | bindingMismatch | rollbackDetected
  | generationAhead
deriving DecidableEq

/-- `classify_lineage_replace_freshness`. -/
def classifyLineageReplaceFreshness (facts : LineageReplaceFreshnessFacts) :
    LineageReplaceFreshnessDecision :=
  if !facts.anchorIntegrityValid then .anchorInvalid
  else if !facts.anchorAvailable then .anchorUnavailable
  else if !facts.anchorBindingValid then .bindingMismatch
  else if facts.recordGeneration < facts.trustedHighWaterGeneration then .rollbackDetected
  else if facts.recordGeneration > facts.trustedHighWaterGeneration then .generationAhead
  else .current

/-- `recover_lineage_replace_with_freshness`. -/
def recoverLineageReplaceWithFreshness (recovery : LineageReplaceRecoveryFacts)
    (freshness : LineageReplaceFreshnessFacts) : LineageReplaceState :=
  if classifyLineageReplaceFreshness freshness ≠ .current then .continuityBroken
  else recoverLineageReplace recovery

/-- `LineageReplaceWriteCut`. -/
inductive LineageReplaceWriteCut where
  | beforeBegin | afterPendingMarker | afterSuccessorActivation | afterPredecessorRetirement
  | afterInvalidations | afterCommitMarkerClear
deriving DecidableEq

/-- `facts_at_write_cut`. -/
def factsAtWriteCut : LineageReplaceWriteCut → LineageReplaceRecoveryFacts
  | .beforeBegin => ⟨true, true, false, false, false, false⟩
  | .afterPendingMarker => ⟨true, true, true, false, false, false⟩
  | .afterSuccessorActivation => ⟨true, true, true, true, false, false⟩
  | .afterPredecessorRetirement => ⟨true, false, true, true, true, false⟩
  | .afterInvalidations => ⟨true, false, true, true, true, true⟩
  | .afterCommitMarkerClear => ⟨true, false, false, true, true, true⟩

/-- Only equal generations are current. -/
theorem generation_eq_of_current {freshness : LineageReplaceFreshnessFacts}
    (h : classifyLineageReplaceFreshness freshness = .current) :
    freshness.recordGeneration = freshness.trustedHighWaterGeneration := by
  unfold classifyLineageReplaceFreshness at h
  split at h
  next => cases h
  split at h
  next => cases h
  split at h
  next => cases h
  split at h
  next => cases h
  split at h
  next => cases h
  next hlt hgt => grind

/-- A restart never finds the replacement pending. -/
theorem recoverLineageReplace_cases (facts : LineageReplaceRecoveryFacts) :
    recoverLineageReplace facts = .activePredecessor ∨
      recoverLineageReplace facts = .activeSuccessorPredecessorRetired ∨
      recoverLineageReplace facts = .continuityBroken := by
  unfold recoverLineageReplace
  split
  next => exact .inr (.inr rfl)
  split
  next => exact .inl rfl
  split
  next => exact .inr (.inl rfl)
  next => exact .inr (.inr rfl)

theorem recoverWithFreshness_cases (recovery : LineageReplaceRecoveryFacts)
    (freshness : LineageReplaceFreshnessFacts) :
    recoverLineageReplaceWithFreshness recovery freshness = .activePredecessor ∨
      recoverLineageReplaceWithFreshness recovery freshness
        = .activeSuccessorPredecessorRetired ∨
      recoverLineageReplaceWithFreshness recovery freshness = .continuityBroken := by
  unfold recoverLineageReplaceWithFreshness
  split
  next => exact .inr (.inr rfl)
  next => exact recoverLineageReplace_cases recovery

/-- What is recovered without a break is a current record. -/
theorem recoverWithFreshness_unbroken {recovery : LineageReplaceRecoveryFacts}
    {freshness : LineageReplaceFreshnessFacts}
    (h : recoverLineageReplaceWithFreshness recovery freshness ≠ .continuityBroken) :
    freshness.recordGeneration = freshness.trustedHighWaterGeneration ∧
      recoverLineageReplaceWithFreshness recovery freshness = recoverLineageReplace recovery := by
  unfold recoverLineageReplaceWithFreshness at h ⊢
  split at h
  next => exact absurd rfl h
  next hcurrent =>
    rw [ne_eq, not_not] at hcurrent
    exact ⟨generation_eq_of_current hcurrent, if_neg (not_not_intro hcurrent)⟩

end Rust

/-! ## The storage -/

open Rust

/-- What a step changes in the record. -/
def LineageReplaceStorageStep.effect (facts : LineageReplaceRecoveryFacts) :
    LineageReplaceStorageStep → LineageReplaceRecoveryFacts
  | .persistPending => { facts with replacementPending := true }
  | .activateSuccessor => { facts with successorActive := true }
  | .retirePredecessor => { facts with predecessorActive := false, predecessorRetired := true }
  | .invalidateDependentState => { facts with invalidationsComplete := true }
  | .clearPending => { facts with replacementPending := false }

/-- The steps of the transaction, in order. -/
def transactionSteps : List LineageReplaceStorageStep := storageSteps.map Prod.fst

/-- The cut after a number of steps. -/
def cutAfter : ℕ → LineageReplaceWriteCut
  | 0 => .beforeBegin
  | 1 => .afterPendingMarker
  | 2 => .afterSuccessorActivation
  | 3 => .afterPredecessorRetirement
  | 4 => .afterInvalidations
  | _ => .afterCommitMarkerClear

/-- The durable record. -/
structure LineageRecord where
  facts : LineageReplaceRecoveryFacts
  generation : UInt64
deriving DecidableEq

/-- What a transaction did: the steps whose record was written, and those whose generation the
high-water has reached as well. -/
structure Attempt where
  written : List LineageReplaceStorageStep
  anchored : List LineageReplaceStorageStep
deriving DecidableEq

/-- Where the running transaction is.  The list starts with the step that was asked for, and the
record is the one the transaction wrote last. -/
inductive StoragePhase where
  | idle
  /-- The step was asked for. -/
  | asked (steps : List LineageReplaceStorageStep) (copy : LineageRecord)
  /-- Its record is written. -/
  | written (steps : List LineageReplaceStorageStep) (copy : LineageRecord)
  /-- The high-water is advanced. -/
  | anchored (steps : List LineageReplaceStorageStep) (copy : LineageRecord)
deriving DecidableEq

/-- After a yes: the next step is asked for, if there is one. -/
def StoragePhase.resume : List LineageReplaceStorageStep → LineageRecord → StoragePhase
  | [], _ => .idle
  | steps, copy => .asked steps copy

/-- The storage with its history: every record ever written, and the transactions, both newest
first. -/
structure LineageStorage where
  record : LineageRecord
  highWater : UInt64
  phase : StoragePhase
  snapshots : List LineageRecord
  attempts : List Attempt
deriving DecidableEq

/-- What a restart knows about the anchor, besides the generation. -/
structure AnchorState where
  available : Bool
  integrityValid : Bool
  bindingValid : Bool

namespace LineageStorage

/-- A storage that holds its first record. -/
def start (record : LineageRecord) : LineageStorage :=
  ⟨record, record.generation, .idle, [record], []⟩

/-- What a restart recovers. -/
def recovered (s : LineageStorage) (anchor : AnchorState) : LineageReplaceState :=
  recoverLineageReplaceWithFreshness s.record.facts
    ⟨anchor.available, anchor.integrityValid, anchor.bindingValid, s.record.generation,
      s.highWater⟩

/-- A transaction starts with the record on the disk. -/
def begun (s : LineageStorage) : LineageStorage :=
  { s with phase := .resume transactionSteps s.record, attempts := ⟨[], []⟩ :: s.attempts }

/-- Change the last transaction. -/
def noting (s : LineageStorage) (f : Attempt → Attempt) : List Attempt :=
  s.attempts.modifyHead f

/-- The record of a step is written. -/
def wrote (s : LineageStorage) (step : LineageReplaceStorageStep)
    (rest : List LineageReplaceStorageStep) (record : LineageRecord) : LineageStorage where
  record := record
  highWater := s.highWater
  phase := .written (step :: rest) record
  snapshots := record :: s.snapshots
  attempts := s.noting fun a => { a with written := a.written ++ [step] }

/-- The high-water is advanced to it. -/
def advanced (s : LineageStorage) (step : LineageReplaceStorageStep)
    (rest : List LineageReplaceStorageStep) (copy : LineageRecord) : LineageStorage where
  record := s.record
  highWater := copy.generation
  phase := .anchored (step :: rest) copy
  snapshots := s.snapshots
  attempts := s.noting fun a => { a with anchored := a.anchored ++ [step] }

end LineageStorage

/-- What happens to the storage during a call of the adapter. -/
inductive StorageMove : LineageStorage → LineageStorage → Prop where
  /-- The record of the step is written, with a larger generation.  It is made from the record
  the transaction wrote last, or from the one on the disk if that is current. -/
  | write {s : LineageStorage} {step : LineageReplaceStorageStep}
      {rest : List LineageReplaceStorageStep} {copy base : LineageRecord} (generation : UInt64) :
      s.phase = .asked (step :: rest) copy →
      (base = copy ∨ (base = s.record ∧ s.record.generation = s.highWater)) →
      base.generation < generation →
      StorageMove s (s.wrote step rest ⟨step.effect base.facts, generation⟩)
  /-- The high-water is advanced to it. -/
  | advance {s : LineageStorage} {step : LineageReplaceStorageStep}
      {rest : List LineageReplaceStorageStep} {copy : LineageRecord} :
      s.phase = .written (step :: rest) copy → StorageMove s (s.advanced step rest copy)
  /-- The record is replaced by an older one. -/
  | replace {s : LineageStorage} {snapshot : LineageRecord} : snapshot ∈ s.snapshots →
      snapshot.generation < s.highWater → StorageMove s { s with record := snapshot }

/-- What happens to the storage. -/
inductive StorageStep : LineageStorage → LineageStorage → Prop where
  /-- A transaction starts, since a restart would recover the predecessor. -/
  | begin {s : LineageStorage} (anchor : AnchorState) : s.phase = .idle →
      s.recovered anchor = .activePredecessor → StorageStep s s.begun
  | move {s s' : LineageStorage} : StorageMove s s' → StorageStep s s'
  /-- The adapter answers yes to a step that is durable. -/
  | accept {s : LineageStorage} {step : LineageReplaceStorageStep}
      {rest : List LineageReplaceStorageStep} {copy : LineageRecord} :
      s.phase = .anchored (step :: rest) copy → StorageStep s { s with phase := .resume rest copy }
  /-- The adapter answers no, wherever it is. -/
  | refuse {s : LineageStorage} : s.phase ≠ .idle → StorageStep s { s with phase := .idle }
  /-- The machine dies and is started again. -/
  | crash {s : LineageStorage} : StorageStep s { s with phase := .idle }

/-- The states of all runs from a first record. -/
def StorageReachable (first : LineageRecord) (s : LineageStorage) : Prop :=
  Relation.ReflTransGen StorageStep (.start first) s

/-! ## Write cuts -/

/-- The facts after a number of steps are recovered only at the two ends. -/
theorem recover_cutAfter : ∀ k ≤ 5, recoverLineageReplace (factsAtWriteCut (cutAfter k)) =
    if k = 0 then .activePredecessor
    else if k = 5 then .activeSuccessorPredecessorRetired else .continuityBroken := by
  decide

/-- The steps that are left start with the next one. -/
theorem take_succ_of_drop {i : ℕ} {step : LineageReplaceStorageStep}
    {rest : List LineageReplaceStorageStep} (h : transactionSteps.drop i = step :: rest) :
    i < 5 ∧ transactionSteps.drop (i + 1) = rest ∧
      transactionSteps.take (i + 1) = transactionSteps.take i ++ [step] := by
  have hlt : i < transactionSteps.length := by
    by_contra hge
    rw [List.drop_of_length_le (Nat.le_of_not_lt hge)] at h
    cases h
  rw [List.drop_eq_getElem_cons hlt, List.cons.injEq] at h
  obtain ⟨rfl, hrest⟩ := h
  exact ⟨hlt, hrest, List.take_succ_eq_append_getElem hlt⟩

/-- The step after a cut leads to the next one. -/
theorem effect_cutAfter {k : ℕ} {step : LineageReplaceStorageStep}
    {rest : List LineageReplaceStorageStep} (h : transactionSteps.drop k = step :: rest) :
    step.effect (factsAtWriteCut (cutAfter k)) = factsAtWriteCut (cutAfter (k + 1)) := by
  match k, h with
  | 0, h | 1, h | 2, h | 3, h | 4, h =>
      cases h
      rfl
  | k + 5, h => simp [transactionSteps, storageSteps] at h

/-- The facts after each prefix of the steps are those of the cut. -/
theorem foldl_effect_cutAfter {k : ℕ} (hk : k ≤ 5) :
    (transactionSteps.take k).foldl LineageReplaceStorageStep.effect (factsAtWriteCut .beforeBegin)
      = factsAtWriteCut (cutAfter k) := by
  induction k with
  | zero => rfl
  | succ k ih =>
      have hlt : k < transactionSteps.length := hk
      rw [List.take_succ_eq_append_getElem hlt, List.foldl_append, ih (Nat.le_of_succ_le hk)]
      exact effect_cutAfter (List.drop_eq_getElem_cons hlt)

/-! ## The invariant -/

/-- The last transaction has written `k` steps and anchored `j` of them, and no transaction
before it has written anything. -/
def Attempted (k j : ℕ) (attempts : List Attempt) : Prop :=
  (attempts = [] ∧ k = 0 ∧ j = 0) ∨
    ∃ old, attempts = ⟨transactionSteps.take k, transactionSteps.take j⟩ :: old ∧
      ∀ a ∈ old, a = ⟨[], []⟩

/-- Before the first step no transaction has written anything. -/
theorem Attempted.untouched {attempts : List Attempt} (h : Attempted 0 0 attempts) :
    ∀ a ∈ attempts, a = ⟨[], []⟩ := by
  rcases h with ⟨rfl, -⟩ | ⟨old, rfl, hold⟩
  · simp
  · exact List.forall_mem_cons.mpr ⟨rfl, hold⟩

/-- The running transaction is at the step `k`, and its record is the newest. -/
def PhaseAt (k j : ℕ) (newest : LineageRecord) : StoragePhase → Prop
  | .idle => True
  | .asked steps copy => copy = newest ∧ j = k ∧ steps = transactionSteps.drop k
  | .written steps copy => copy = newest ∧ j + 1 = k ∧ steps = transactionSteps.drop j
  | .anchored steps copy =>
      copy = newest ∧ j = k ∧ ∃ i, k = i + 1 ∧ steps = transactionSteps.drop i

/-- The state of the storage after `k` written and `j` anchored steps. -/
structure StorageInv (s : LineageStorage) (newest : LineageRecord) (older : List LineageRecord)
    (k j : ℕ) : Prop where
  snapshots : s.snapshots = newest :: older
  growing : ∀ r ∈ older, r.generation < newest.generation
  disk : s.record = newest ∨ s.record.generation < s.highWater
  facts : newest.facts = factsAtWriteCut (cutAfter k)
  count : k ≤ 5
  highWater : (j = k ∧ s.highWater = newest.generation) ∨
    (j + 1 = k ∧ s.highWater < newest.generation)
  attempts : Attempted k j s.attempts
  running : s.phase ≠ .idle → s.attempts ≠ []
  phase : PhaseAt k j newest s.phase

namespace StorageInv

variable {s : LineageStorage} {newest : LineageRecord} {older : List LineageRecord} {k j : ℕ}

theorem start {first : LineageRecord} (h : first.facts = factsAtWriteCut .beforeBegin) :
    StorageInv (.start first) first [] 0 0 where
  snapshots := rfl
  growing := by simp
  disk := .inl rfl
  facts := h
  count := by decide
  highWater := .inl ⟨rfl, rfl⟩
  attempts := .inl ⟨rfl, rfl, rfl⟩
  running := fun h => absurd rfl h
  phase := trivial

/-- A record with the generation of the high-water is the newest one. -/
theorem record_of_current (h : StorageInv s newest older k j)
    (hgen : s.record.generation = s.highWater) : s.record = newest := by
  rcases h.disk with hd | hd
  · exact hd
  · rw [hgen] at hd
    exact absurd hd (UInt64.lt_irrefl _)

/-- A recovery that is not refused sees the newest record. -/
theorem of_unbroken (h : StorageInv s newest older k j) {anchor : AnchorState}
    (hr : s.recovered anchor ≠ .continuityBroken) :
    s.record = newest ∧ j = k ∧
      s.recovered anchor = recoverLineageReplace (factsAtWriteCut (cutAfter k)) := by
  obtain ⟨hgen, heq⟩ := recoverWithFreshness_unbroken hr
  have hgen : s.record.generation = s.highWater := hgen
  have hdisk := h.record_of_current hgen
  refine ⟨hdisk, ?_, ?_⟩
  · rcases h.highWater with ⟨hj, -⟩ | ⟨-, hlt⟩
    · exact hj
    · rw [← hgen, hdisk] at hlt
      exact absurd hlt (UInt64.lt_irrefl _)
  · rw [← h.facts, ← hdisk]
    exact heq

/-- The predecessor is recovered only before the first step. -/
theorem count_of_predecessor (h : StorageInv s newest older k j) {anchor : AnchorState}
    (hr : s.recovered anchor = .activePredecessor) : s.record = newest ∧ k = 0 ∧ j = 0 := by
  have hne : s.recovered anchor ≠ .continuityBroken := by
    rw [hr]
    decide
  obtain ⟨hdisk, hj, heq⟩ := h.of_unbroken hne
  rw [hr, recover_cutAfter k h.count] at heq
  split at heq
  next hk => exact ⟨hdisk, hk, hj.trans hk⟩
  split at heq
  next => cases heq
  next => cases heq

/-- The successor is recovered only after the last step. -/
theorem count_of_successor (h : StorageInv s newest older k j) {anchor : AnchorState}
    (hr : s.recovered anchor = .activeSuccessorPredecessorRetired) : k = 5 ∧ j = 5 := by
  have hne : s.recovered anchor ≠ .continuityBroken := by
    rw [hr]
    decide
  obtain ⟨-, hj, heq⟩ := h.of_unbroken hne
  rw [hr, recover_cutAfter k h.count] at heq
  split at heq
  next => cases heq
  split at heq
  next hk => exact ⟨hk, hj.trans hk⟩
  next => cases heq

/-- A transaction that starts meets the first record. -/
theorem begun (h : StorageInv s newest older k j) {anchor : AnchorState}
    (hr : s.recovered anchor = .activePredecessor) : StorageInv s.begun newest older 0 0 := by
  obtain ⟨hdisk, rfl, rfl⟩ := h.count_of_predecessor hr
  exact { h with
    attempts := .inr ⟨s.attempts, rfl, h.attempts.untouched⟩
    running := fun _ => List.cons_ne_nil _ _
    phase := ⟨hdisk, rfl, rfl⟩ }

/-- A transaction that ends leaves everything else as it is. -/
theorem idle (h : StorageInv s newest older k j) :
    StorageInv { s with phase := .idle } newest older k j :=
  { h with
    running := fun hne => absurd rfl hne
    phase := trivial }

/-- The last transaction, while one is running. -/
theorem last_attempt (h : StorageInv s newest older k j) (hne : s.phase ≠ .idle) :
    ∃ old, s.attempts = ⟨transactionSteps.take k, transactionSteps.take j⟩ :: old ∧
      ∀ a ∈ old, a = ⟨[], []⟩ := by
  rcases h.attempts with ⟨hnil, -⟩ | hlast
  · exact absurd hnil (h.running hne)
  · exact hlast

/-- The record of the next step is written. -/
theorem wrote (h : StorageInv s newest older k j) {step : LineageReplaceStorageStep}
    {rest : List LineageReplaceStorageStep} {copy : LineageRecord} {generation : UInt64}
    (hphase : s.phase = .asked (step :: rest) copy) (hgen : copy.generation < generation) :
    StorageInv (s.wrote step rest ⟨step.effect copy.facts, generation⟩)
      ⟨step.effect copy.facts, generation⟩ (newest :: older) (k + 1) j := by
  have hat := h.phase
  rw [hphase] at hat
  obtain ⟨rfl, rfl, hsteps⟩ := hat
  obtain ⟨hlt, -, htake⟩ := take_succ_of_drop hsteps.symm
  obtain ⟨old, hlast, hold⟩ := h.last_attempt (by simp [hphase])
  have hattempts : (s.wrote step rest ⟨step.effect copy.facts, generation⟩).attempts
      = ⟨transactionSteps.take (j + 1), transactionSteps.take j⟩ :: old := by
    simp [LineageStorage.wrote, LineageStorage.noting, hlast, htake]
  -- the high-water is that of the record before this one
  have hhw : s.highWater = copy.generation := by
    rcases h.highWater with ⟨-, heq⟩ | ⟨hlt, -⟩
    · exact heq
    · omega
  refine
    { snapshots := congrArg (_ :: ·) h.snapshots
      growing := ?_
      disk := .inl rfl
      facts := ?_
      count := hlt
      highWater := .inr ⟨rfl, hhw ▸ hgen⟩
      attempts := .inr ⟨old, hattempts, hold⟩
      running := fun _ => by simp [hattempts]
      phase := ⟨rfl, rfl, hsteps⟩ }
  · intro r hr
    rcases List.mem_cons.mp hr with rfl | hr
    · exact hgen
    · exact UInt64.lt_trans (h.growing r hr) hgen
  · show step.effect copy.facts = _
    rw [h.facts]
    exact effect_cutAfter hsteps.symm

/-- The high-water is advanced to the newest record. -/
theorem advanced (h : StorageInv s newest older k j) {step : LineageReplaceStorageStep}
    {rest : List LineageReplaceStorageStep} {copy : LineageRecord}
    (hphase : s.phase = .written (step :: rest) copy) :
    StorageInv (s.advanced step rest copy) newest older k k := by
  have hat := h.phase
  rw [hphase] at hat
  obtain ⟨rfl, rfl, hsteps⟩ := hat
  obtain ⟨-, -, htake⟩ := take_succ_of_drop hsteps.symm
  obtain ⟨old, hlast, hold⟩ := h.last_attempt (by simp [hphase])
  have hattempts : (s.advanced step rest copy).attempts
      = ⟨transactionSteps.take (j + 1), transactionSteps.take (j + 1)⟩ :: old := by
    simp [LineageStorage.advanced, LineageStorage.noting, hlast, htake]
  have hhw : s.highWater < copy.generation := by
    rcases h.highWater with ⟨heq, -⟩ | ⟨-, hlt⟩
    · omega
    · exact hlt
  refine { h with
    disk := ?_
    highWater := .inl ⟨rfl, rfl⟩
    attempts := .inr ⟨old, hattempts, hold⟩
    running := fun _ => by simp [hattempts]
    phase := ⟨rfl, rfl, j, rfl, hsteps⟩ }
  rcases h.disk with hd | hd
  · exact .inl hd
  · exact .inr (UInt64.lt_trans hd hhw)

/-- After a yes the transaction goes on with the next step. -/
theorem accepted (h : StorageInv s newest older k j) {step : LineageReplaceStorageStep}
    {rest : List LineageReplaceStorageStep} {copy : LineageRecord}
    (hphase : s.phase = .anchored (step :: rest) copy) :
    StorageInv { s with phase := .resume rest copy } newest older k j := by
  have hat := h.phase
  rw [hphase] at hat
  obtain ⟨rfl, rfl, i, rfl, hsteps⟩ := hat
  obtain ⟨-, hrest, -⟩ := take_succ_of_drop hsteps.symm
  cases rest with
  | nil => exact h.idle
  | cons next rest =>
      exact { h with
        running := fun _ => h.running (by simp [hphase])
        phase := ⟨rfl, rfl, hrest.symm⟩ }

end StorageInv

/-- The storage is as after some number of steps. -/
def StorageSound (s : LineageStorage) : Prop :=
  ∃ newest older k j, StorageInv s newest older k j

theorem StorageSound.move {s s' : LineageStorage} (h : StorageSound s) (hm : StorageMove s s') :
    StorageSound s' := by
  obtain ⟨newest, older, k, j, h⟩ := h
  cases hm with
  | @write step rest copy base generation hphase hbase hgen =>
      have hcopy : base = copy := by
        rcases hbase with hbase | ⟨hbase, hcurrent⟩
        · exact hbase
        · have hat := h.phase
          rw [hphase] at hat
          rw [hbase, h.record_of_current hcurrent, hat.1]
      subst hcopy
      exact ⟨_, _, _, _, h.wrote hphase hgen⟩
  | advance hphase => exact ⟨_, _, _, _, h.advanced hphase⟩
  | replace _ hlt => exact ⟨newest, older, k, j, { h with disk := .inr hlt }⟩

/-- One step of the storage keeps it sound. -/
theorem StorageSound.step {s s' : LineageStorage} (h : StorageSound s) (hs : StorageStep s s') :
    StorageSound s' := by
  cases hs with
  | begin anchor _ hr =>
      obtain ⟨_, _, _, _, h⟩ := h
      exact ⟨_, _, _, _, h.begun hr⟩
  | move hm => exact h.move hm
  | accept hphase =>
      obtain ⟨_, _, _, _, h⟩ := h
      exact ⟨_, _, _, _, h.accepted hphase⟩
  | refuse _ =>
      obtain ⟨_, _, _, _, h⟩ := h
      exact ⟨_, _, _, _, h.idle⟩
  | crash =>
      obtain ⟨_, _, _, _, h⟩ := h
      exact ⟨_, _, _, _, h.idle⟩

/-- Every run that starts with an untouched predecessor keeps the storage sound. -/
theorem StorageReachable.sound {first : LineageRecord} {s : LineageStorage}
    (hfirst : first.facts = factsAtWriteCut .beforeBegin) (h : StorageReachable first s) :
    StorageSound s := by
  induction h with
  | refl => exact ⟨_, _, _, _, .start hfirst⟩
  | tail _ hstep ih => exact ih.step hstep

/-! ## Transactions -/

/-- An adapter whose calls are moves of the storage and an answer.  It may answer yes when the
step is durable, and no at any time. -/
def Obedient (apply : StorageAdapter LineageStorage) : Prop :=
  ∀ s step rest copy, s.phase = .asked (step :: rest) copy →
    ∃ m, Relation.ReflTransGen StorageMove s m ∧
      (((apply step s).1 = true ∧ ∃ copy', m.phase = .anchored (step :: rest) copy' ∧
          (apply step s).2 = { m with phase := .resume rest copy' }) ∨
        ((apply step s).1 = false ∧ m.phase ≠ .idle ∧
          (apply step s).2 = { m with phase := .idle }))

/-- Asking an obedient adapter for the steps that are left is a run of the storage. -/
theorem askInOrder_reaches {apply : StorageAdapter LineageStorage} (ho : Obedient apply)
    {done : LineageReplaceStorageTransactionResult}
    {steps : List (LineageReplaceStorageStep × LineageReplaceStorageTransactionResult)}
    {s : LineageStorage} {copy : LineageRecord}
    (hphase : s.phase = .resume (steps.map Prod.fst) copy) :
    Relation.ReflTransGen StorageStep s (askInOrder done apply steps s).2 := by
  induction steps generalizing s copy with
  | nil => exact .refl
  | cons p steps ih =>
      obtain ⟨step, refused⟩ := p
      obtain ⟨m, hmoves, hanswer⟩ := ho s step (steps.map Prod.fst) copy hphase
      have hreach : Relation.ReflTransGen StorageStep s m :=
        Relation.ReflTransGen.mono (fun _ _ hm => .move hm) _ _ hmoves
      rcases happly : apply step s with ⟨answer, s'⟩
      rw [happly] at hanswer
      rcases hanswer with ⟨rfl, copy', hm, rfl⟩ | ⟨rfl, hm, rfl⟩
      · simp only [askInOrder, happly]
        exact (hreach.tail (.accept hm)).trans (ih rfl)
      · simp only [askInOrder, happly]
        exact hreach.tail (.refuse hm)

/-- The transaction of the crate stays within the runs of the storage. -/
theorem StorageReachable.transaction {first : LineageRecord} {s : LineageStorage}
    {anchor : AnchorState} {plan : LineageReplacePlan} {apply : StorageAdapter LineageStorage}
    (h : StorageReachable first s) (hidle : s.phase = .idle)
    (hr : s.recovered anchor = .activePredecessor) (hplan : planComplete plan = true)
    (ho : Obedient apply) :
    StorageReachable first (executeLineageReplaceStorageTransaction (some plan) apply s.begun).2 := by
  rw [storageTransaction_eq_askInOrder hplan]
  exact (h.tail (.begin anchor hidle hr)).trans (askInOrder_reaches ho rfl)

/-- An adapter that does every step, as long as there is a larger generation. -/
def plainAdapter : StorageAdapter LineageStorage := fun step s =>
  match s.phase with
  | .asked (_ :: rest) copy =>
      if copy.generation < copy.generation + 1 then
        let record := ⟨step.effect copy.facts, copy.generation + 1⟩
        (true, { (s.wrote step rest record).advanced step rest record with
          phase := .resume rest record })
      else (false, { s with phase := .idle })
  | _ => (false, { s with phase := .idle })

theorem plainAdapter_obedient : Obedient plainAdapter := by
  intro s step rest copy hphase
  simp only [plainAdapter, hphase]
  by_cases hgen : copy.generation < copy.generation + 1
  · rw [if_pos hgen]
    refine ⟨_, .tail (.single (.write _ hphase (.inl rfl) hgen)) (.advance rfl), .inl ⟨rfl, _, rfl, rfl⟩⟩
  · rw [if_neg hgen]
    exact ⟨s, .refl, .inr ⟨rfl, by simp [hphase], rfl⟩⟩

/-- The plan of an accepted replacement. -/
def acceptedPlan : LineageReplacePlan := ⟨true, true, true, true, true, true, true, true⟩

example : ∃ s, StorageReachable ⟨factsAtWriteCut .beforeBegin, 7⟩ s ∧
    s.recovered ⟨true, true, true⟩ = .activeSuccessorPredecessorRetired := by
  have hstart : (LineageStorage.start ⟨factsAtWriteCut .beforeBegin, 7⟩).recovered
      ⟨true, true, true⟩ = .activePredecessor := by decide
  have hplan : planComplete acceptedPlan = true := rfl
  exact ⟨_, StorageReachable.transaction .refl rfl hstart hplan plainAdapter_obedient,
    by decide +kernel⟩

/-! ## The main result -/

/-- What a restart may make of the storage, given what happened to it. -/
structure CrashSafe (s : LineageStorage) (anchor : AnchorState) : Prop where
  predecessor : s.recovered anchor = .activePredecessor →
    ∀ a ∈ s.attempts, .persistPending ∉ a.written
  successor : s.recovered anchor = .activeSuccessorPredecessorRetired →
    ∃ a ∈ s.attempts, a.written = transactionSteps ∧ a.anchored = transactionSteps
  broken : s.recovered anchor ≠ .activePredecessor →
    s.recovered anchor ≠ .activeSuccessorPredecessorRetired →
    s.recovered anchor = .continuityBroken
  cut : ∀ a old, s.attempts = a :: old →
    a.written = transactionSteps.take a.written.length ∧
    ∃ r, s.snapshots.head? = some r ∧ r.facts = factsAtWriteCut (cutAfter a.written.length)

theorem StorageInv.crashSafe {s : LineageStorage} {newest : LineageRecord}
    {older : List LineageRecord} {k j : ℕ} (h : StorageInv s newest older k j)
    (anchor : AnchorState) : CrashSafe s anchor := by
  have hlength : (transactionSteps.take k).length = k := by
    rw [List.length_take]
    exact Nat.min_eq_left h.count
  refine ⟨?_, ?_, ?_, ?_⟩
  · intro hr a ha
    obtain ⟨-, rfl, rfl⟩ := h.count_of_predecessor hr
    rw [h.attempts.untouched a ha]
    exact List.not_mem_nil
  · intro hr
    obtain ⟨rfl, rfl⟩ := h.count_of_successor hr
    rcases h.attempts with ⟨-, hk, -⟩ | ⟨old, hcons, -⟩
    · cases hk
    · exact ⟨_, by rw [hcons]; exact List.mem_cons_self, rfl, rfl⟩
  · intro hp hs
    rcases recoverWithFreshness_cases s.record.facts _ with hr | hr | hr
    · exact absurd hr hp
    · exact absurd hr hs
    · exact hr
  · intro a old ha
    rcases h.attempts with ⟨hnil, -⟩ | ⟨old', hcons, -⟩
    · rw [hnil] at ha
      cases ha
    · rw [hcons] at ha
      obtain ⟨rfl, -⟩ := List.cons_eq_cons.mp ha
      rw [hlength]
      exact ⟨rfl, newest, by rw [h.snapshots]; rfl, h.facts⟩

/-- In every state of every run, with any number of transactions, crashes and replaced records, a
restart recovers the predecessor only if no pending marker was ever written, the successor only
if one transaction made all its steps durable, and otherwise finds the continuity broken.  The
record written last has the facts of the cut its transaction has reached.  The runs contain the
transactions of the crate with every obedient adapter. -/
theorem lineage_crash_safe :
    (∀ first s, first.facts = factsAtWriteCut .beforeBegin → StorageReachable first s →
      ∀ anchor, CrashSafe s anchor) ∧
    (∀ k ≤ 5, (transactionSteps.take k).foldl LineageReplaceStorageStep.effect
      (factsAtWriteCut .beforeBegin) = factsAtWriteCut (cutAfter k)) ∧
    (∀ first s anchor plan apply, StorageReachable first s → s.phase = .idle →
      s.recovered anchor = .activePredecessor → planComplete plan = true → Obedient apply →
      StorageReachable first
        (executeLineageReplaceStorageTransaction (some plan) apply s.begun).2) := by
  refine ⟨?_, fun k hk => foldl_effect_cutAfter hk, ?_⟩
  · intro first s hfirst hs anchor
    obtain ⟨newest, older, k, j, h⟩ := hs.sound hfirst
    exact h.crashSafe anchor
  · intro first s anchor plan apply hs hidle hr hplan ho
    exact hs.transaction hidle hr hplan ho

end ZkArche
