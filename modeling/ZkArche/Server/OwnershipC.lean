import ZkArche.Crypto.SmallSuite
import ZkArche.Server.LedgerC

/-!
# Slot ownership in the C server

`session_table.h` reserves a slot so that no other worker can claim it while its worker
verifies, and `dispatch` assumes that a slot still holds the session it looked up when it
releases it.
A release names only the index of a slot, so both depend on what the other workers do.

They hold as long as no worker looks up a slot that another worker has looked up and not
yet released (`Sole`).  `Owned` is the invariant and `slots_owned` the result for all
schedules.  Without the condition a late release frees a slot that a third worker has
reserved in the meantime (`slots_owned_fails`).
-/

namespace ZkArche.C

/-! ## Exclusive lookups -/

/-- The slot a worker has reserved, until it activates or releases it. -/
def Tok.ownedSlot : Tok → Option ℕ
  | .owns i => some i
  | _ => none

/-- The slot a worker looked up and will release. -/
def Tok.foundSlot : Tok → Option ℕ
  | .found i _ => some i
  | _ => none

theorem Tok.ownedSlot_eq_some {τ : Tok} {i : ℕ} : τ.ownedSlot = some i ↔ τ = .owns i := by
  cases τ <;> simp [Tok.ownedSlot]

theorem Tok.foundSlot_eq_some {τ : Tok} {i : ℕ} :
    τ.foundSlot = some i ↔ ∃ ok, τ = .found i ok := by
  cases τ <;> simp [Tok.foundSlot]

section

variable {q : ℕ} {G : Type} [AddCommGroup G] [Module (ZMod q) G] (S : Suite q G) (cap : ℕ)
  (cfg : ServerConfig)

/-- The section gives its worker no slot that another worker has already, in the sense of
`f`. -/
def Sole (f : Tok → Option ℕ) : Pool.Guard (serverSections S cap cfg) ℕ Job (List UInt8) :=
  fun s l w r => ∀ i, f ((tokens l w).next S r (execReq S cap cfg s r).2) = some i →
    ∀ w', w' ≠ w → f (tokens l w') ≠ some i

variable {S cap cfg}

/-- An invariant of the table, the ledger and the tokens, event by event. -/
theorem preserved_of_effects {f : Tok → Option ℕ}
    {Inv : SessionTable → Ledger → (ℕ → Tok) → Prop}
    (hstart : ∀ t L T w job, Inv t L T → T w = .idle →
      Inv t (L.forget w) (Function.update T w (.fresh job)))
    (heffect : ∀ t L T w t' L' τ, Inv t L T → Effect t L w (T w) t' L' τ →
      (∀ i, f τ = some i → ∀ w', w' ≠ w → f (T w') ≠ some i) →
      Inv t' L' (Function.update T w τ))
    (hfinish : ∀ t L T w out, Inv t L T → (T w).Fin out →
      Inv t ((L.send w out).forget w) (Function.update T w .idle)) :
    Pool.Preserved (serverProtocol S cap cfg) (Sole S cap cfg f)
      (fun s l => Inv s.sessions (ledger l) (tokens l)) := by
  refine ⟨?_, ?_, ?_⟩
  · intro s l w job hinv hidle
    rw [tokens, Protocol.tok_start]
    exact hstart _ _ _ w job hinv hidle
  · intro s l w r hinv hcan hok
    rw [tokens, Protocol.tok_act]
    exact heffect _ _ _ w _ _ _ hinv (effect_of_can hcan) hok
  · intro s l w out hinv hfin
    rw [tokens, Protocol.tok_finish]
    exact hfinish _ _ _ w out hinv hfin

/-- One worker alone never meets another. -/
theorem sole_of_worker {f : Tok → Option ℕ} (hf : f .idle = none) {w : ℕ}
    (registry : Registry) (capacity : ℕ) (cache : ReplayCache) {as : List (Turn ℕ Job)}
    (has : ∀ a ∈ as, a.worker = w) :
    Pool.Meets (dispatch S cap cfg) (Sole S cap cfg f)
      (serverStart S cap cfg registry capacity cache) as := by
  apply Pool.meets_of_worker (D := serverProtocol S cap cfg) (w := w) _ (fun w' _ => rfl) has
  intro s l r hidle i _ w' hw'
  have htok : tokens l w' = .idle := hidle w' hw'
  rw [htok, hf]
  exact nofun

end

/-! ## The ledger mirrors the table -/

/-- The slot holds a session. -/
def SessionTable.holds (t : SessionTable) (i : ℕ) : Bool :=
  match t[i]? with
  | some s => s.active
  | none => false

/-- The ledger knows a session of exactly the slots that hold one. -/
def Mirror (t : SessionTable) (L : Ledger) : Prop := ∀ i, (L.slot i).isSome = t.holds i

theorem SessionTable.holds_set (t : SessionTable) (i j : ℕ) (s : Slot) :
    SessionTable.holds (t.set i s) j =
      if i = j ∧ j < t.length then s.active else t.holds j := by
  unfold SessionTable.holds
  rw [getElem?_set_slot]
  by_cases h : i = j ∧ j < t.length
  · rw [if_pos h, if_pos h]
  · rw [if_neg h, if_neg h]

theorem SessionTable.holds_of_getElem? {t : SessionTable} {i : ℕ} {s : Slot}
    (h : t[i]? = some s) : t.holds i = s.active := by
  simp only [SessionTable.holds, h]

theorem SessionTable.holds_eq_false {t : SessionTable} {i : ℕ} (h : t.length ≤ i) :
    t.holds i = false := by
  simp only [SessionTable.holds, List.getElem?_eq_none h]

namespace Mirror

variable {t : SessionTable} {L : Ledger}

theorem clear (h : Mirror t L) (i : ℕ) {s : Slot} (hs : s.active = false) :
    Mirror (t.set i s) (L.clear i) := by
  intro j
  rw [SessionTable.holds_set]
  by_cases hij : i = j
  · subst hij
    by_cases hlt : i < t.length
    · simp [Ledger.clear, hlt, hs]
    · simp [Ledger.clear, hlt, SessionTable.holds_eq_false (not_lt.mp hlt)]
  · simp [Ledger.clear, hij, Function.update_of_ne (Ne.symm hij), h j]

theorem fill (h : Mirror t L) {i : ℕ} {s s' : Slot} (hi : t[i]? = some s')
    (hs : s.active = true) : Mirror (t.set i s) (L.fill i) := by
  have hlt : i < t.length := (List.getElem?_eq_some_iff.mp hi).1
  intro j
  rw [SessionTable.holds_set]
  by_cases hij : i = j
  · subst hij
    simp [Ledger.fill, hlt, hs]
  · simp [Ledger.fill, hij, Function.update_of_ne (Ne.symm hij), h j]

/-- The session of a slot that holds one. -/
theorem session (h : Mirror t L) {i : ℕ} {s : Slot} (hi : t[i]? = some s)
    (hs : s.active = true) : ∃ n, L.slot i = some n := by
  have hsome := h i
  rw [SessionTable.holds_of_getElem? hi, hs] at hsome
  exact Option.isSome_iff_exists.mp hsome

theorem noSession (h : Mirror t L) {i : ℕ} {s : Slot} (hi : t[i]? = some s)
    (hs : s.active = false) : L.slot i = none := by
  have hnone := h i
  rw [SessionTable.holds_of_getElem? hi, hs] at hnone
  simpa using hnone

/-- A section keeps the mirror. -/
theorem effect (h : Mirror t L) {w : ℕ} {τ τ' : Tok} {t' : SessionTable} {L' : Ledger}
    (he : Effect t L w τ t' L' τ') : Mirror t' L' := by
  cases he with
  | quiet _ => exact h
  | reserved _ => exact h.clear _ rfl
  | found ok _ _ => exact h
  | refused i => exact h
  | activated hi hs => exact h.fill hi hs
  | notActivated _ => exact h.clear _ rfl
  | releasedOwned => exact h.clear _ rfl
  | releasedFound => exact h.clear _ rfl
  | enrolled => exact Mirror.clear (L := L.write w) h _ rfl

/-- Nothing but a section changes the slots. -/
theorem of_slot_eq (h : Mirror t L) {L' : Ledger} (hs : L'.slot = L.slot) : Mirror t L' := by
  intro i
  rw [hs]
  exact h i

theorem init (capacity : ℕ) : Mirror (authSessionTableInit capacity) .empty := by
  intro i
  simp only [authSessionTableInit, SessionTable.holds, Ledger.empty, List.getElem?_replicate]
  split
  next s h =>
    split at h
    next =>
      cases h
      rfl
    next => cases h
  next => rfl

end Mirror

@[simp] theorem Ledger.slot_send (L : Ledger) (w : ℕ) (out : List UInt8) :
    (L.send w out).slot = L.slot := by
  unfold Ledger.send
  split
  · rfl
  split <;> rfl

@[simp] theorem Ledger.worker_send (L : Ledger) (w : ℕ) (out : List UInt8) :
    (L.send w out).worker = L.worker := by
  unfold Ledger.send
  split
  · rfl
  split <;> rfl

/-! ## Ownership -/

/-- Who holds which slot.  `T` gives the tokens of the workers. -/
structure Owned (t : SessionTable) (L : Ledger) (T : ℕ → Tok) : Prop where
  mirror : Mirror t L
  reserved : ∀ w i, T w = .owns i → t[i]? = some .reserved
  sole : ∀ w w' i, T w = .owns i → T w' = .owns i → w = w'
  session : ∀ w i ok, T w = .found i ok → ∃ n, L.worker w = some n ∧ L.slot i = some n
  apart : ∀ w w' i, (T w).foundSlot = some i → (T w').foundSlot = some i → w = w'

namespace Owned

variable {t : SessionTable} {L : Ledger} {T : ℕ → Tok}

/-- A slot that is looked up is not reserved. -/
theorem found_ne (h : Owned t L T) {w i : ℕ} {ok : Bool} (hw : T w = .found i ok) {s : Slot}
    (hs : s.active = false) : t[i]? ≠ some s := by
  intro hi
  obtain ⟨n, -, hn⟩ := h.session w i ok hw
  rw [h.mirror.noSession hi hs] at hn
  cases hn

/-- The tokens of a worker that no longer holds anything.  The others keep what they have,
if their slots are as before. -/
theorem let_go (h : Owned t L T) {t' : SessionTable} {L' : Ledger} {w : ℕ} (τ : Tok)
    (ho : ∀ i, τ ≠ .owns i) (hf : ∀ i ok, τ ≠ .found i ok) (hm : Mirror t' L')
    (hr : ∀ w' i, w' ≠ w → T w' = .owns i → t'[i]? = t[i]?)
    (hs : ∀ w' i ok, w' ≠ w → T w' = .found i ok →
      L'.worker w' = L.worker w' ∧ L'.slot i = L.slot i) :
    Owned t' L' (Function.update T w τ) := by
  have hne : ∀ {w' : ℕ}, (∃ i, Function.update T w τ w' = .owns i) ∨
      (∃ i ok, Function.update T w τ w' = .found i ok) → w' ≠ w := by
    rintro w' (⟨i, h1⟩ | ⟨i, ok, h1⟩) rfl
    · exact ho i (by simpa using h1)
    · exact hf i ok (by simpa using h1)
  have hfound : ∀ {w' i}, (Function.update T w τ w').foundSlot = some i →
      w' ≠ w ∧ (T w').foundSlot = some i := by
    intro w' i h1
    cases htok : Function.update T w τ w' with
    | found j ok =>
        have hw' : w' ≠ w := hne (.inr ⟨j, ok, htok⟩)
        rw [Function.update_of_ne hw'] at h1
        exact ⟨hw', h1⟩
    | _ => rw [htok] at h1; cases h1
  refine ⟨hm, ?_, ?_, ?_, ?_⟩
  · intro w' i h1
    have hw' := hne (.inl ⟨i, h1⟩)
    rw [Function.update_of_ne hw'] at h1
    rw [hr w' i hw' h1]
    exact h.reserved w' i h1
  · intro w' w'' i h1 h2
    have hw' := hne (.inl ⟨i, h1⟩)
    have hw'' := hne (.inl ⟨i, h2⟩)
    rw [Function.update_of_ne hw'] at h1
    rw [Function.update_of_ne hw''] at h2
    exact h.sole w' w'' i h1 h2
  · intro w' i ok h1
    have hw' := hne (.inr ⟨i, ok, h1⟩)
    rw [Function.update_of_ne hw'] at h1
    obtain ⟨hwk, hsl⟩ := hs w' i ok hw' h1
    rw [hwk, hsl]
    exact h.session w' i ok h1
  · intro w' w'' i h1 h2
    exact h.apart w' w'' i (hfound h1).2 (hfound h2).2

/-- The slot of a worker that owns it is nobody else's. -/
theorem owner_alone (h : Owned t L T) {w i : ℕ} (hw : T w = .owns i) {w' : ℕ} (hne : w' ≠ w) :
    T w' ≠ .owns i ∧ ∀ ok, T w' ≠ .found i ok :=
  ⟨fun h' => hne (h.sole w' w i h' hw),
    fun _ h' => h.found_ne h' rfl (h.reserved w i hw)⟩

/-- The slot of a worker that found it is nobody else's. -/
theorem finder_alone (h : Owned t L T) {w i : ℕ} {ok : Bool} (hw : T w = .found i ok) {w' : ℕ}
    (hne : w' ≠ w) : T w' ≠ .owns i ∧ ∀ ok', T w' ≠ .found i ok' := by
  refine ⟨fun h' => h.found_ne hw rfl (h.reserved w' i h'), fun ok' h' => hne ?_⟩
  apply h.apart w' w i
  · rw [h', Tok.foundSlot]
  · rw [hw, Tok.foundSlot]

/-- A worker gives up the slot that is its own. -/
theorem give_up (h : Owned t L T) {w i : ℕ} {s : Slot} {L' : Ledger} (b : Bool)
    (halone : ∀ w', w' ≠ w → T w' ≠ .owns i ∧ ∀ ok, T w' ≠ .found i ok)
    (hm : Mirror (t.set i s) L') (hworker : L'.worker = L.worker)
    (hslot : ∀ j, j ≠ i → L'.slot j = L.slot j) :
    Owned (t.set i s) L' (Function.update T w (.done b)) := by
  apply h.let_go (.done b) nofun nofun hm
  · intro w' j hw' h'
    have hij : i ≠ j := by
      rintro rfl
      exact (halone w' hw').1 h'
    exact List.getElem?_set_ne hij
  · intro w' j ok hw' h'
    have hji : j ≠ i := by
      rintro rfl
      exact (halone w' hw').2 ok h'
    rw [hworker]
    exact ⟨rfl, hslot j hji⟩

theorem reserve (h : Owned t L T) {w i : ℕ} (hi : t[i]? = some .free) :
    Owned (t.set i .reserved) (L.clear i) (Function.update T w (.owns i)) := by
  have hlt : i < t.length := (List.getElem?_eq_some_iff.mp hi).1
  have hown : ∀ w' j, T w' = .owns j → i ≠ j := by
    rintro w' j h' rfl
    rw [h.reserved w' i h'] at hi
    cases hi
  have hfnd : ∀ w' j ok, T w' = .found j ok → j ≠ i := by
    rintro w' j ok h' rfl
    exact h.found_ne h' rfl hi
  have hfs : ∀ w' j, (Function.update T w (.owns i) w').foundSlot = some j →
      (T w').foundSlot = some j := by
    intro w' j h1
    by_cases hw' : w' = w
    · subst hw'
      simp [Tok.foundSlot] at h1
    · rwa [Function.update_of_ne hw'] at h1
  refine ⟨h.mirror.clear i rfl, ?_, ?_, ?_, ?_⟩
  · intro w' j h1
    by_cases hw' : w' = w
    · subst hw'
      rw [Function.update_self] at h1
      cases h1
      exact List.getElem?_set_self hlt
    · rw [Function.update_of_ne hw'] at h1
      rw [List.getElem?_set_ne (hown w' j h1)]
      exact h.reserved w' j h1
  · intro w' w'' j h1 h2
    by_cases hw' : w' = w
    · by_cases hw'' : w'' = w
      · rw [hw', hw'']
      · subst hw'
        rw [Function.update_self] at h1
        rw [Function.update_of_ne hw''] at h2
        cases h1
        exact absurd rfl (hown w'' i h2)
    · by_cases hw'' : w'' = w
      · subst hw''
        rw [Function.update_self] at h2
        rw [Function.update_of_ne hw'] at h1
        cases h2
        exact absurd rfl (hown w' i h1)
      · rw [Function.update_of_ne hw'] at h1
        rw [Function.update_of_ne hw''] at h2
        exact h.sole w' w'' j h1 h2
  · intro w' j ok h1
    by_cases hw' : w' = w
    · subst hw'
      rw [Function.update_self] at h1
      cases h1
    · rw [Function.update_of_ne hw'] at h1
      simp only [Ledger.clear, Function.update_of_ne (hfnd w' j ok h1)]
      exact h.session w' j ok h1
  · intro w' w'' j h1 h2
    exact h.apart w' w'' j (hfs w' j h1) (hfs w'' j h2)

theorem find (h : Owned t L T) {w i : ℕ} {s : Slot} (ok : Bool) (hi : t[i]? = some s)
    (hs : s.active = true) (hsole : ∀ w', w' ≠ w → (T w').foundSlot ≠ some i) :
    Owned t (L.look w i) (Function.update T w (.found i ok)) := by
  have hown : ∀ w' j, Function.update T w (.found i ok) w' = .owns j → T w' = .owns j := by
    intro w' j h1
    by_cases hw' : w' = w
    · subst hw'
      simp at h1
    · rwa [Function.update_of_ne hw'] at h1
  refine ⟨h.mirror, ?_, ?_, ?_, ?_⟩
  · intro w' j h1
    exact h.reserved w' j (hown w' j h1)
  · intro w' w'' j h1 h2
    exact h.sole w' w'' j (hown w' j h1) (hown w'' j h2)
  · intro w' j ok' h1
    by_cases hw' : w' = w
    · subst hw'
      rw [Function.update_self] at h1
      cases h1
      obtain ⟨n, hn⟩ := h.mirror.session hi hs
      exact ⟨n, by simp [Ledger.look, hn], hn⟩
    · rw [Function.update_of_ne hw'] at h1
      simp only [Ledger.look, Function.update_of_ne hw']
      exact h.session w' j ok' h1
  · intro w' w'' j h1 h2
    by_cases hw' : w' = w
    · by_cases hw'' : w'' = w
      · rw [hw', hw'']
      · subst hw'
        rw [Function.update_self, Tok.foundSlot, Option.some.injEq] at h1
        rw [Function.update_of_ne hw''] at h2
        subst h1
        exact absurd h2 (hsole w'' hw'')
    · by_cases hw'' : w'' = w
      · subst hw''
        rw [Function.update_self, Tok.foundSlot, Option.some.injEq] at h2
        rw [Function.update_of_ne hw'] at h1
        subst h2
        exact absurd h1 (hsole w' hw')
      · rw [Function.update_of_ne hw'] at h1
        rw [Function.update_of_ne hw''] at h2
        exact h.apart w' w'' j h1 h2

/-- A section keeps the ownership, unless it looks up a slot that another worker has found. -/
theorem effect (h : Owned t L T) {w : ℕ} {τ τ' : Tok} {t' : SessionTable} {L' : Ledger}
    (hτ : T w = τ) (he : Effect t L w τ t' L' τ')
    (hsole : ∀ i, τ'.foundSlot = some i → ∀ w', w' ≠ w → (T w').foundSlot ≠ some i) :
    Owned t' L' (Function.update T w τ') := by
  have hm := h.mirror.effect he
  cases he with
  | quiet hq =>
      rcases hq with ⟨rfl, -⟩ | rfl
      · rw [← hτ, Function.update_eq_self]
        exact h
      · exact h.let_go (.done false) nofun nofun hm (fun _ _ _ _ => rfl)
          (fun _ _ _ _ _ => ⟨rfl, rfl⟩)
  | reserved hi => exact h.reserve hi
  | found ok hi hs => exact h.find ok hi hs (hsole _ rfl)
  | refused i =>
      apply h.let_go (.done false) nofun nofun hm (fun _ _ _ _ => rfl)
      intro w' j ok hw' _
      exact ⟨by simp [Ledger.look, Function.update_of_ne hw'], rfl⟩
  | activated hi hs =>
      apply h.give_up false (fun w' => h.owner_alone hτ) hm rfl
      intro j hj
      simp [Ledger.fill, Function.update_of_ne hj]
  | @notActivated i hi => exact absurd (h.reserved w i hτ) hi
  | releasedOwned =>
      apply h.give_up false (fun w' => h.owner_alone hτ) hm rfl
      intro j hj
      simp [Ledger.clear, Function.update_of_ne hj]
  | @releasedFound i ok =>
      apply h.give_up ok (fun w' => h.finder_alone hτ) hm rfl
      intro j hj
      simp [Ledger.clear, Function.update_of_ne hj]
  | enrolled =>
      apply h.give_up true (fun w' => h.finder_alone hτ) hm rfl
      intro j hj
      simp [Ledger.clear, Ledger.write, Function.update_of_ne hj]

theorem init (capacity : ℕ) :
    Owned (authSessionTableInit capacity) .empty (fun _ => .idle) :=
  ⟨Mirror.init capacity, nofun, nofun, nofun, nofun⟩

end Owned

section

variable {q : ℕ} {G : Type} [AddCommGroup G] [Module (ZMod q) G] {S : Suite q G} {cap : ℕ}
  {cfg : ServerConfig}

theorem owned_preserved :
    Pool.Preserved (serverProtocol S cap cfg) (Sole S cap cfg Tok.foundSlot)
      (fun s l => Owned s.sessions (ledger l) (tokens l)) := by
  apply preserved_of_effects
  · intro t L T w job h _
    refine h.let_go (.fresh job) nofun nofun (h.mirror.of_slot_eq rfl) (fun _ _ _ _ => rfl) ?_
    intro w' i ok hw' _
    exact ⟨by simp [Ledger.forget, Function.update_of_ne hw'], rfl⟩
  · intro t L T w t' L' τ h he hsole
    exact h.effect rfl he hsole
  · intro t L T w out h _
    have hs : ((L.send w out).forget w).slot = L.slot := L.slot_send w out
    refine h.let_go .idle nofun nofun (h.mirror.of_slot_eq hs) (fun _ _ _ _ => rfl) ?_
    intro w' i ok hw' _
    exact ⟨by simp [Ledger.forget, Function.update_of_ne hw'], by rw [hs]⟩

/-! ## All schedules -/

/-- The slot a section activates. -/
def Req.activates : Req → Option ℕ
  | .activateSetup i _ => some i
  | .activateAuth i _ => some i
  | _ => none

/-- The slot a section frees. -/
def Req.frees : Req → Option ℕ
  | .release i => some i
  | .enroll i _ _ => some i
  | _ => none

/-- The event is an activation that failed. -/
def activationFailed : Event (serverSections S cap cfg) ℕ Job (List UInt8) → Bool
  | .act _ (.activateSetup ..) a => !succeeds (a : Except AuthErr Unit)
  | .act _ (.activateAuth ..) a => !succeeds (a : Except AuthErr Unit)
  | _ => false

/-- Slots are owned: what the contract of the session table promises, in one state of the
server and for the log that led to it. -/
structure SlotsOwned (P : ServerPool S cap cfg) : Prop where
  /-- A slot that a worker reserved is reserved until that worker is done with it. -/
  reserved : ∀ w i, (tokens P.log w).ownedSlot = some i →
    P.shared.sessions[i]? = some .reserved
  /-- No two workers have reserved one slot. -/
  sole : ∀ w w' i, (tokens P.log w).ownedSlot = some i → (tokens P.log w').ownedSlot = some i →
    w = w'
  /-- A slot that a worker looked up and will free holds the session it looked up. -/
  session : ∀ w i, (tokens P.log w).foundSlot = some i →
    ∃ n, (ledger P.log).worker w = some n ∧ (ledger P.log).slot i = some n
  /-- The next section of a worker activates only the slot it reserved. -/
  activates : ∀ w r k, P.work w = some (.req r k) → ∀ i, r.activates = some i →
    (tokens P.log w).ownedSlot = some i
  /-- The next section of a worker frees only the slot it reserved or looked up. -/
  frees : ∀ w r k, P.work w = some (.req r k) → ∀ i, r.frees = some i →
    (tokens P.log w).ownedSlot = some i ∨ (tokens P.log w).foundSlot = some i
  /-- No activation has failed. -/
  activated : ∀ e ∈ P.log, activationFailed e = false

/-- An activation by the owner of a reserved slot succeeds. -/
theorem activation_succeeds {s : ServerState} {L : Ledger} {T : ℕ → Tok}
    (h : Owned s.sessions L T) {w : ℕ} {r : Req} (hcan : (T w).Can r) :
    activationFailed (.act w r (execReq S cap cfg s r).2 :
      Event (serverSections S cap cfg) ℕ Job (List UInt8)) = false := by
  have hok : ∀ i slot, T w = .owns i → succeeds (activateOrRelease s i slot).2 = true := by
    intro i slot hi
    simp only [activateOrRelease, activate, h.reserved w i hi, if_true, succeeds]
  generalize hτ : T w = τ at hcan
  cases hcan with
  | activateSetup i p => simp only [activationFailed, execReq, hok i (.setup p) hτ, Bool.not_true]
  | activateAuth i p => simp only [activationFailed, execReq, hok i (.auth p) hτ, Bool.not_true]
  | _ => rfl

theorem can_activates {τ : Tok} {r : Req} (h : τ.Can r) {i : ℕ} (hi : r.activates = some i) :
    τ.ownedSlot = some i := by
  cases h with
  | activateSetup j p => exact hi
  | activateAuth j p => exact hi
  | _ => cases hi

theorem can_frees {τ : Tok} {r : Req} (h : τ.Can r) {i : ℕ} (hi : r.frees = some i) :
    τ.ownedSlot = some i ∨ τ.foundSlot = some i := by
  cases h with
  | releaseOwned j => exact .inl hi
  | releaseFound j ok => exact .inr hi
  | enroll j p save => exact .inr hi
  | _ => cases hi

theorem owned_activated_preserved :
    Pool.Preserved (serverProtocol S cap cfg) (Sole S cap cfg Tok.foundSlot)
      (fun s l => Owned s.sessions (ledger l) (tokens l) ∧
        ∀ e ∈ l, activationFailed e = false) := by
  refine ⟨?_, ?_, ?_⟩
  · intro s l w job h hidle
    refine ⟨owned_preserved.start s l w job h.1 hidle, ?_⟩
    exact List.forall_mem_cons.mpr ⟨rfl, h.2⟩
  · intro s l w r h hcan hok
    refine ⟨owned_preserved.act s l w r h.1 hcan hok, ?_⟩
    exact List.forall_mem_cons.mpr ⟨activation_succeeds h.1 hcan, h.2⟩
  · intro s l w out h hfin
    refine ⟨owned_preserved.finish s l w out h.1 hfin, ?_⟩
    exact List.forall_mem_cons.mpr ⟨rfl, h.2⟩

/-- Slots are owned after every schedule in which no worker looks up a slot that another
worker has looked up and will still release. -/
theorem slots_owned (S : Suite q G) (cap : ℕ) (cfg : ServerConfig) (registry : Registry)
    (capacity : ℕ) (cache : ReplayCache) (as : List (Turn ℕ Job))
    (hsole : Pool.Meets (dispatch S cap cfg) (Sole S cap cfg Tok.foundSlot)
      (serverStart S cap cfg registry capacity cache) as) :
    SlotsOwned (serverRun S cap cfg (serverStart S cap cfg registry capacity cache) as) := by
  have hinit : Owned (authSessionTableInit capacity) .empty (fun _ => .idle) ∧
      ∀ e ∈ ([] : ServerLog S cap cfg), activationFailed e = false :=
    ⟨.init capacity, List.forall_mem_nil _⟩
  have hconf := Pool.conforms_fresh (D := serverProtocol S cap cfg) (W := ℕ)
    ⟨registry, authSessionTableInit capacity, cache⟩
  obtain ⟨⟨h, hact⟩, hconf⟩ := Pool.invariant owned_activated_preserved dispatch_follows
    (P := serverStart S cap cfg registry capacity cache) hinit hconf hsole
  refine ⟨?_, ?_, ?_, ?_, ?_, hact⟩
  · intro w i hw
    exact h.reserved w i (Tok.ownedSlot_eq_some.mp hw)
  · intro w w' i hw hw'
    exact h.sole w w' i (Tok.ownedSlot_eq_some.mp hw) (Tok.ownedSlot_eq_some.mp hw')
  · intro w i hw
    obtain ⟨ok, hok⟩ := Tok.foundSlot_eq_some.mp hw
    exact h.session w i ok hok
  · intro w r k hw i hi
    exact can_activates (hconf.busy w _ hw).1 hi
  · intro w r k hw i hi
    exact can_frees (hconf.busy w _ hw).1 hi

end

/-! ## A late release -/

/-- A server with the key 5 that asks for no pairing token. -/
def demoConfig : ServerConfig := ⟨byteString 31 5, byteString 31 5, none, [1]⟩

/-- A job with fixed random bytes and a registry file that can be written. -/
def demoJob (input : List UInt8) : Job :=
  ⟨input, ⟨byteString 31 8, byteString 15 6, byteString 63 2⟩,
    fun _ => ⟨byteString 63 4, byteString 31 8, byteString 63 2⟩, .ok ()⟩

/-- A SETUP_1 of the device with the key 3. -/
def demoSetup1 : Job :=
  demoJob (frame pktSetup1 (byteString 15 7) 1
    (Setup1.bytes ⟨[], byteString 31 1, byteString 31 3, byteString 31 9, byteString 31 4⟩))

/-- The SETUP_3 that completes it. -/
def demoSetup3 : Job :=
  match authProveSetupClient smallSuite (byteString 63 2) (byteString 31 3) (byteString 31 1)
      (byteString 31 3) (byteString 31 5) (byteString 31 9) (byteString 31 8)
      (byteString 15 6) with
  | .ok proof => demoJob (frame pktSetup3 (byteString 15 7) 2 (Setup3.bytes ⟨proof⟩))
  | .error _ => demoJob []

/-- A server with two slots after a schedule. -/
def demoRun (as : List (Turn ℕ Job)) : ServerPool smallSuite 4 demoConfig :=
  serverRun smallSuite 4 demoConfig
    (serverStart smallSuite 4 demoConfig [] 2 authReplayCacheInit) as

/-- One worker enrolls the device. -/
theorem slots_owned_one_worker :
    (∀ a ∈ [Turn.start 0 demoSetup1, .step 0, .step 0, .start 0 demoSetup3, .step 0],
      a.worker = 0) ∧
    SlotsOwned (demoRun [.start 0 demoSetup1, .step 0, .step 0, .start 0 demoSetup3, .step 0]) ∧
    (tokens (demoRun [.start 0 demoSetup1, .step 0, .step 0, .start 0 demoSetup3, .step 0]).log
      0).foundSlot = some 0 := by
  have hworker : ∀ a ∈ [Turn.start 0 demoSetup1, .step 0, .step 0, .start 0 demoSetup3, .step 0],
      a.worker = 0 := by simp [Turn.worker]
  refine ⟨hworker, ?_, by decide +kernel⟩
  exact slots_owned smallSuite 4 demoConfig [] 2 authReplayCacheInit _
    (sole_of_worker rfl [] 2 authReplayCacheInit hworker)

/-- Two copies of a SETUP_3 are looked up before either is enrolled.  When the first has
released the slot, a third worker reserves it for a new SETUP_1. -/
def lateRelease : List (Turn ℕ Job) :=
  [.start 0 demoSetup1, .step 0, .step 0, .start 1 demoSetup3, .step 1, .start 2 demoSetup3,
    .step 2, .step 1, .start 3 demoSetup1, .step 3, .step 2]

/-- The second copy frees the slot the third worker has reserved, and the activation that
follows fails. -/
theorem slots_owned_fails :
    ((tokens (demoRun lateRelease).log 3).ownedSlot = some 0 ∧
      (demoRun lateRelease).shared.sessions[0]? = some .free ∧
      ¬ SlotsOwned (demoRun lateRelease)) ∧
    ∃ e ∈ (demoRun (lateRelease ++ [.step 3])).log, activationFailed e = true := by
  have hrun : (tokens (demoRun lateRelease).log 3).ownedSlot = some 0 ∧
      (demoRun lateRelease).shared.sessions[0]? = some .free ∧
      (demoRun (lateRelease ++ [.step 3])).log.any activationFailed = true := by
    decide +kernel
  obtain ⟨howned, hfree, hfailed⟩ := hrun
  refine ⟨⟨howned, hfree, ?_⟩, List.any_eq_true.mp hfailed⟩
  intro h
  have hreserved := h.reserved 3 0 howned
  rw [hfree] at hreserved
  cases hreserved

end ZkArche.C
