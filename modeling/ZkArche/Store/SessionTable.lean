import ZkArche.Proto.ServerC

/-!
# The session table of the C server

`session_table.c`: a fixed array of slots.  A slot is free, reserved by a worker that is
still verifying, or holds a pending SETUP or AUTH.  A new session reserves the first free
slot, and a lookup finds the first slot of its kind with the session identifier.

Each operation has one lemma that says what it does to the slots.
-/

namespace ZkArche.C

/-- `auth_session_slot_t`. -/
inductive Slot where
  | free
  | reserved
  | setup (p : PendingSetup)
  | auth (p : PendingAuth)
deriving DecidableEq

/-- `auth_session_table_t`. -/
abbrev SessionTable := List Slot

/-- `auth_session_table_init`. -/
def authSessionTableInit (cap : ℕ) : SessionTable := List.replicate cap .free

/-- `auth_session_table_reserve`: the first free slot. -/
def authSessionTableReserve (t : SessionTable) : SessionTable × Option ℕ :=
  match t.findIdx? (· = .free) with
  | some i => (t.set i .reserved, some i)
  | none => (t, none)

/-- Fill a slot that must be reserved. -/
def activate (t : SessionTable) (i : ℕ) (s : Slot) : SessionTable × Except AuthErr Unit :=
  if t[i]? = some .reserved then (t.set i s, .ok ()) else (t, .error .invalidArgument)

/-- The slot holds a SETUP session with the identifier. -/
def Slot.isSetup (sid : SessionId) : Slot → Bool
  | .setup p => decide (p.sessionId = sid)
  | _ => false

/-- The slot holds an AUTH session with the identifier. -/
def Slot.isAuth (sid : SessionId) : Slot → Bool
  | .auth p => decide (p.sessionId = sid)
  | _ => false

/-- `auth_session_table_find_setup`. -/
def authSessionTableFindSetup (t : SessionTable) (sid : SessionId) : Option ℕ :=
  t.findIdx? (Slot.isSetup sid)

/-- `auth_session_table_find_auth`. -/
def authSessionTableFindAuth (t : SessionTable) (sid : SessionId) : Option ℕ :=
  t.findIdx? (Slot.isAuth sid)

/-- `auth_session_table_release`.  A slot outside the table is an error nobody looks at. -/
def authSessionTableRelease (t : SessionTable) (i : ℕ) : SessionTable := t.set i .free

/-- `find_setup` and the copy of the record, as `dispatch` makes them in one section. -/
def lookupSetup (t : SessionTable) (sid : SessionId) : Option (ℕ × PendingSetup) :=
  match authSessionTableFindSetup t sid with
  | none => none
  | some i =>
      match t[i]? with
      | some (.setup p) => some (i, p)
      | _ => none

/-- `find_auth` and the copy of the record. -/
def lookupAuth (t : SessionTable) (sid : SessionId) : Option (ℕ × PendingAuth) :=
  match authSessionTableFindAuth t sid with
  | none => none
  | some i =>
      match t[i]? with
      | some (.auth p) => some (i, p)
      | _ => none

/-! ## What the operations do -/

/-- A reservation takes a free slot. -/
theorem reserve_eq_some {t t' : SessionTable} {i : ℕ}
    (h : authSessionTableReserve t = (t', some i)) :
    t[i]? = some .free ∧ t' = t.set i .reserved := by
  unfold authSessionTableReserve at h
  split at h
  next j hj =>
    cases h
    obtain ⟨hlt, hp, -⟩ := List.findIdx?_eq_some_iff_getElem.mp hj
    refine ⟨?_, rfl⟩
    rw [List.getElem?_eq_getElem hlt]
    simpa using hp
  next => cases h

theorem reserve_eq_none {t t' : SessionTable} (h : authSessionTableReserve t = (t', none)) :
    t' = t := by
  unfold authSessionTableReserve at h
  split at h
  next => cases h
  next =>
    cases h
    rfl

/-- A SETUP lookup returns a slot and what it holds. -/
theorem lookupSetup_eq_some {t : SessionTable} {sid : SessionId} {i : ℕ} {p : PendingSetup}
    (h : lookupSetup t sid = some (i, p)) :
    t[i]? = some (.setup p) ∧ p.sessionId = sid := by
  unfold lookupSetup at h
  split at h
  next => cases h
  next j hj =>
    split at h
    next p' hp =>
      cases h
      obtain ⟨hlt, hs, -⟩ := List.findIdx?_eq_some_iff_getElem.mp hj
      refine ⟨hp, ?_⟩
      rw [List.getElem?_eq_getElem hlt, Option.some.injEq] at hp
      rw [hp] at hs
      simpa [Slot.isSetup] using hs
    next => cases h

/-- An AUTH lookup returns a slot and what it holds. -/
theorem lookupAuth_eq_some {t : SessionTable} {sid : SessionId} {i : ℕ} {p : PendingAuth}
    (h : lookupAuth t sid = some (i, p)) :
    t[i]? = some (.auth p) ∧ p.sessionId = sid := by
  unfold lookupAuth at h
  split at h
  next => cases h
  next j hj =>
    split at h
    next p' hp =>
      cases h
      obtain ⟨hlt, hs, -⟩ := List.findIdx?_eq_some_iff_getElem.mp hj
      refine ⟨hp, ?_⟩
      rw [List.getElem?_eq_getElem hlt, Option.some.injEq] at hp
      rw [hp] at hs
      simpa [Slot.isAuth] using hs
    next => cases h

/-- The slot after a write. -/
theorem getElem?_set_slot (t : SessionTable) (i j : ℕ) (s : Slot) :
    (t.set i s)[j]? = if i = j ∧ j < t.length then some s else t[j]? := by
  rw [List.getElem?_set]
  by_cases hij : i = j
  · subst hij
    by_cases hlt : i < t.length
    · simp [hlt]
    · simp [hlt]
  · simp [hij]

/-- Writing something else into a slot changes the table. -/
theorem set_slot_ne {t : SessionTable} {i : ℕ} {s s' : Slot} (h : t[i]? = some s) (hs : s' ≠ s) :
    t.set i s' ≠ t := by
  intro heq
  obtain ⟨hlt, -⟩ := List.getElem?_eq_some_iff.mp h
  rw [← heq, getElem?_set_slot, if_pos ⟨rfl, hlt⟩, Option.some.injEq] at h
  exact hs h

end ZkArche.C
