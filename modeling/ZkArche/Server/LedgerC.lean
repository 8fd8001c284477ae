import ZkArche.Server.TokensC

/-!
# Sessions of the C server

A session is what an accepted SETUP_1 or AUTH_1 activates in a slot.  Slots are reused and
session identifiers may repeat, so a session is told apart by the activation itself: the
`n`-th activation of the log is session `n`.

The *ledger* is what an observer of the log writes down.  It knows which session each slot
holds and which session each worker looked up, and it counts, for every session, the
registry writes and the acknowledgements made for it.  A write or acknowledgement by a
worker that looked nothing up would be a stray.

`Effect` lists what one critical section can do to the session table, the ledger and the
token of the worker.
-/

namespace ZkArche.C

/-! ## The ledger -/

/-- The books of an observer of the log. -/
structure Ledger where
  /-- The number of sessions activated so far. -/
  next : ℕ
  /-- The session a slot holds. -/
  slot : ℕ → Option ℕ
  /-- The session a worker looked up. -/
  worker : ℕ → Option ℕ
  /-- Registry writes made for a session. -/
  writes : ℕ → ℕ
  /-- SETUP_ACK packets sent for a session. -/
  setupAcks : ℕ → ℕ
  /-- AUTH_ACK packets sent for a session. -/
  authAcks : ℕ → ℕ
  /-- Writes and acknowledgements by workers that looked nothing up. -/
  strays : ℕ

/-- Count one more for a session. -/
def bump (f : ℕ → ℕ) (n : Option ℕ) : ℕ → ℕ := fun m => if n = some m then f m + 1 else f m

/-- One more stray, unless a session is known. -/
def bumpStray (k : ℕ) (n : Option ℕ) : ℕ := if n = none then k + 1 else k

namespace Ledger

/-- Before anything happened. -/
def empty : Ledger := ⟨0, fun _ => none, fun _ => none, fun _ => 0, fun _ => 0, fun _ => 0, 0⟩

/-- A slot is emptied. -/
def clear (L : Ledger) (i : ℕ) : Ledger := { L with slot := Function.update L.slot i none }

/-- A new session is activated in a slot. -/
def fill (L : Ledger) (i : ℕ) : Ledger :=
  { L with slot := Function.update L.slot i (some L.next), next := L.next + 1 }

/-- A worker looks a slot up. -/
def look (L : Ledger) (w i : ℕ) : Ledger :=
  { L with worker := Function.update L.worker w (L.slot i) }

/-- A worker writes the registry. -/
def write (L : Ledger) (w : ℕ) : Ledger :=
  { L with writes := bump L.writes (L.worker w), strays := bumpStray L.strays (L.worker w) }

/-- A worker forgets what it looked up. -/
def forget (L : Ledger) (w : ℕ) : Ledger :=
  { L with worker := Function.update L.worker w none }

/-- A worker sends a packet. -/
def send (L : Ledger) (w : ℕ) (out : List UInt8) : Ledger :=
  if pktTypeOf out = pktAuthAck then
    { L with
      authAcks := bump L.authAcks (L.worker w)
      strays := bumpStray L.strays (L.worker w) }
  else if pktTypeOf out = pktSetupAck then
    { L with
      setupAcks := bump L.setupAcks (L.worker w)
      strays := bumpStray L.strays (L.worker w) }
  else L

/-- An attempt to activate a slot. -/
def activation (L : Ledger) (i : ℕ) : Except AuthErr Unit → Ledger
  | .ok () => L.fill i
  | .error _ => L.clear i

/-- What a critical section means for the books. -/
def act (L : Ledger) (w : ℕ) : (r : Req) → Ans r → Ledger
  | .reserve, a =>
      match (a : Option ℕ) with
      | some i => L.clear i
      | none => L
  | .activateSetup i _, a => L.activation i a
  | .activateAuth i _, a => L.activation i a
  | .release i, _ => L.clear i
  | .findSetup _, a =>
      match (a : Option (ℕ × PendingSetup)) with
      | some (i, _) => L.look w i
      | none => L
  | .findAuth _, a =>
      match (a : Option (ℕ × PendingAuth)) with
      | some (i, _) => L.look w i
      | none => L
  | .enroll i _ _, _ => (L.write w).clear i
  | .registryCount, _ => L
  | .registryEntry _, _ => L
  | .guardedAuth1 .., _ => L

end Ledger

section

variable {q : ℕ} {G : Type} [AddCommGroup G] [Module (ZMod q) G] {S : Suite q G} {cap : ℕ}
  {cfg : ServerConfig}

/-- The log of the server. -/
abbrev ServerLog (S : Suite q G) (cap : ℕ) (cfg : ServerConfig) :=
  List (Event (serverSections S cap cfg) ℕ Job (List UInt8))

/-- The books after a log, newest event first. -/
def ledger : ServerLog S cap cfg → Ledger
  | [] => .empty
  | .start w _ :: l => (ledger l).forget w
  | .act w r a :: l => (ledger l).act w r a
  | .finish w out :: l => ((ledger l).send w out).forget w

/-- What the workers hold after a log. -/
abbrev tokens (l : ServerLog S cap cfg) : ℕ → Tok := (serverProtocol S cap cfg).tok l

end

/-! ## What a section does -/

/-- A slot that holds a session. -/
def Slot.active : Slot → Bool
  | .setup _ => true
  | .auth _ => true
  | _ => false

/-- What one section of the worker `w` can do: to the session table, the ledger, and the
token of `w`. -/
inductive Effect (t : SessionTable) (L : Ledger) (w : ℕ) : Tok → SessionTable → Ledger → Tok →
    Prop where
  | quiet {τ τ' : Tok} : (τ' = τ ∧ ∃ i, τ = .owns i) ∨ τ' = .done false → Effect t L w τ t L τ'
  | reserved {τ : Tok} {i : ℕ} : t[i]? = some .free →
      Effect t L w τ (t.set i .reserved) (L.clear i) (.owns i)
  | found {τ : Tok} {i : ℕ} {s : Slot} (ok : Bool) : t[i]? = some s → s.active = true →
      Effect t L w τ t (L.look w i) (.found i ok)
  | refused {τ : Tok} (i : ℕ) : Effect t L w τ t (L.look w i) (.done false)
  | activated {i : ℕ} {s : Slot} : t[i]? = some .reserved → s.active = true →
      Effect t L w (.owns i) (t.set i s) (L.fill i) (.done false)
  | notActivated {i : ℕ} : t[i]? ≠ some .reserved →
      Effect t L w (.owns i) (t.set i .free) (L.clear i) (.done false)
  | releasedOwned {i : ℕ} : Effect t L w (.owns i) (t.set i .free) (L.clear i) (.done false)
  | releasedFound {i : ℕ} {ok : Bool} :
      Effect t L w (.found i ok) (t.set i .free) (L.clear i) (.done ok)
  | enrolled {i : ℕ} :
      Effect t L w (.found i true) (t.set i .free) ((L.write w).clear i) (.done true)

section

variable {q : ℕ} {G : Type} [AddCommGroup G] [Module (ZMod q) G] {S : Suite q G} {cap : ℕ}
  {cfg : ServerConfig}

theorem activateOrRelease_effect (s : ServerState) (L : Ledger) (w i : ℕ) {slot : Slot}
    (hs : slot.active = true) :
    Effect s.sessions L w (.owns i) (activateOrRelease s i slot).1.sessions
      (L.activation i (activateOrRelease s i slot).2) (.done false) := by
  unfold activateOrRelease activate
  split
  next t' h =>
    split at h
    next hr =>
      cases h
      exact .activated hr hs
    next => cases h
  next t' e h =>
    split at h
    next => cases h
    next hr =>
      cases h
      exact .notActivated hr

theorem enroll_sessions (s : ServerState) (i : ℕ) (p : PendingSetup)
    (save : Except AuthErr Unit) : (enroll s i p save).1.sessions = s.sessions.set i .free := by
  unfold enroll
  dsimp only
  split <;> rfl

/-- Every section a token permits has one of the listed effects. -/
theorem effect_of_can {s : ServerState} {L : Ledger} {w : ℕ} {τ : Tok} {r : Req}
    (h : τ.Can r) :
    Effect s.sessions L w τ (execReq S cap cfg s r).1.sessions
      (L.act w r (execReq S cap cfg s r).2) (τ.next S r (execReq S cap cfg s r).2) := by
  cases h with
  | reserve job =>
      simp only [execReq, Ledger.act, Tok.next]
      cases hr : authSessionTableReserve s.sessions with
      | mk t' slot =>
          cases slot with
          | none =>
              rw [reserve_eq_none hr]
              exact .quiet (.inr rfl)
          | some i =>
              obtain ⟨hfree, rfl⟩ := reserve_eq_some hr
              exact .reserved hfree
  | findSetup job sid =>
      simp only [execReq, Ledger.act, Tok.next]
      cases hf : lookupSetup s.sessions sid with
      | none => exact .quiet (.inr rfl)
      | some r =>
          obtain ⟨i, p⟩ := r
          dsimp only
          split
          · exact .found true (lookupSetup_eq_some hf).1 rfl
          · exact .refused i
  | findAuth job sid =>
      simp only [execReq, Ledger.act, Tok.next]
      cases hf : lookupAuth s.sessions sid with
      | none => exact .quiet (.inr rfl)
      | some r =>
          obtain ⟨i, p⟩ := r
          exact .found _ (lookupAuth_eq_some hf).1 rfl
  | count i => exact .quiet (.inl ⟨rfl, i, rfl⟩)
  | entry i k => exact .quiet (.inl ⟨rfl, i, rfl⟩)
  | guarded i sid seq payload cand draws => exact .quiet (.inl ⟨rfl, i, rfl⟩)
  | activateSetup i p =>
      have hs : (Slot.setup p).active = true := rfl
      exact activateOrRelease_effect s L w i hs
  | activateAuth i p =>
      have hs : (Slot.auth p).active = true := rfl
      exact activateOrRelease_effect s L w i hs
  | releaseOwned i => exact .releasedOwned
  | releaseFound i ok => exact .releasedFound
  | enroll i p save =>
      simp only [execReq, Ledger.act, Tok.next, enroll_sessions]
      exact .enrolled

end

end ZkArche.C
