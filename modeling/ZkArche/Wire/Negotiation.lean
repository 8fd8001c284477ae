import ZkArche.Wire.Errors

/-!
# Negotiation

Two peers hold the adverts of both.  Each computes the version, the suite and the capabilities of
the session, with its own advert as the *local* one.

The version and the capabilities are symmetric, and so are the three ways to fail and their order.
The suite is not.  Each peer takes the first suite of its own list that the other lists.  When the
lists have their common suites in another order, the peers end with different suites.
-/

namespace ZkArche

/-! ## Capabilities -/

/-- `AUTH_CAP_AUTH_V2` / `AUTH_V2`. -/
def capAuthV2 : UInt64 := (1 : UInt64) <<< 0
/-- `AUTH_CAP_ROLE_RERAND` / `ROLE_RERAND`. -/
def capRoleRerand : UInt64 := (1 : UInt64) <<< 1
/-- `AUTH_CAP_ROLE_SET_MEMBERSHIP` / `ROLE_SET_MEMBERSHIP`. -/
def capRoleSetMembership : UInt64 := (1 : UInt64) <<< 2
/-- `AUTH_CAP_PROFILE_STANDARD` / `PROFILE_STANDARD`. -/
def capProfileStandard : UInt64 := (1 : UInt64) <<< 9
/-- `AUTH_CAPS_BASELINE` / `BASELINE`. -/
def capsBaseline : UInt64 :=
  capAuthV2 ||| capRoleRerand ||| capRoleSetMembership ||| capProfileStandard

/-- `CapsAdvert`, and the arguments of `auth_negotiate` for one side. -/
structure CapsAdvert where
  version : UInt8
  minVersion : UInt8
  suites : List UInt16
  caps : UInt64
deriving DecidableEq

/-- `auth_negotiated_t` / `Negotiated`. -/
structure Negotiated where
  version : UInt8
  suite : UInt16
  caps : UInt64
deriving DecidableEq

/-! ## The two functions -/

namespace Rust

/-- `negotiate`. -/
def negotiate (loc peer : CapsAdvert) : Except ProtoError Negotiated :=
  let version := min loc.version peer.version
  if version < loc.minVersion ∨ version < peer.minVersion then
    .error (.wire .unsupportedVersion "no mutually-supported protocol version")
  else
    match loc.suites.find? fun s => peer.suites.contains s with
    | none => .error (.wire .unsupportedSuite "no mutually-supported cipher suite")
    | some suite =>
        let caps := loc.caps &&& peer.caps
        if caps &&& capsBaseline ≠ capsBaseline then
          .error (.wire .capabilityMismatch "baseline capabilities not mutually supported")
        else .ok ⟨version, suite, caps⟩

end Rust

namespace C

/-- The inner loop of `auth_negotiate`. -/
def listsSuite (s : UInt16) : List UInt16 → Bool
  | [] => false
  | p :: peerSuites => if s = p then true else listsSuite s peerSuites

/-- The outer loop of `auth_negotiate`. -/
def chooseSuite (peerSuites : List UInt16) : List UInt16 → Option UInt16
  | [] => none
  | s :: localSuites =>
      if listsSuite s peerSuites then some s else chooseSuite peerSuites localSuites

/-- `auth_negotiate`. -/
def authNegotiate (loc peer : CapsAdvert) : Except AuthErr Negotiated :=
  let v := if loc.version < peer.version then loc.version else peer.version
  let floor := if loc.minVersion > peer.minVersion then loc.minVersion else peer.minVersion
  if v < floor then .error .unsupportedVersion
  else
    match chooseSuite peer.suites loc.suites with
    | none => .error .unsupportedSuite
    | some chosen =>
        let caps := loc.caps &&& peer.caps
        if caps &&& capsBaseline ≠ capsBaseline then .error .capMismatch
        else .ok ⟨v, chosen, caps⟩

end C

/-! ## What a peer ends with -/

/-- The implementation a peer runs. -/
inductive Impl where
  | rust | c
deriving DecidableEq

/-- The code of a Rust error, as the server sends it. -/
def Rust.ProtoError.sentCode (e : Rust.ProtoError) : ℕ := (Rust.wireCodeAndMsg e).1.asU16

/-- The outcome of a peer: what it negotiated, or the code of its error. -/
def Impl.negotiate (i : Impl) (loc peer : CapsAdvert) : Except ℕ Negotiated :=
  match i with
  | .rust => (Rust.negotiate loc peer).mapError Rust.ProtoError.sentCode
  | .c => (C.authNegotiate loc peer).mapError C.AuthErr.code

/-! ### Versions -/

/-- The smaller of two versions, as C takes it. -/
theorem min_version (x y : UInt8) : min x y = if x < y then x else y := by
  rw [show min x y = if x ≤ y then x else y from rfl]
  by_cases hlt : x < y
  · rw [if_pos hlt, if_pos (UInt8.le_of_lt hlt)]
  · rw [if_neg hlt]
    split
    next hle => exact UInt8.le_antisymm hle (UInt8.not_lt.mp hlt)
    next => rfl

theorem min_version_comm (x y : UInt8) : min x y = min y x := by
  rw [min_version, show min y x = if y ≤ x then y else x from rfl]
  by_cases hlt : x < y
  · rw [if_pos hlt, if_neg (UInt8.not_le.mpr hlt)]
  · rw [if_neg hlt, if_pos (UInt8.not_lt.mp hlt)]

/-- A version below the larger of two floors is below one of them. -/
theorem lt_floor_iff (v x y : UInt8) : v < (if x > y then x else y) ↔ v < x ∨ v < y := by
  split
  next h => exact ⟨.inl, fun hv => hv.elim id fun hy => UInt8.lt_trans hy h⟩
  next h => exact ⟨.inr, fun hv => hv.elim (fun hx => UInt8.lt_of_lt_of_le hx (UInt8.not_lt.mp h)) id⟩

namespace CapsAdvert

/-- The first suite of the first advert that the second lists. -/
def firstCommon (a b : CapsAdvert) : Option UInt16 := a.suites.find? fun s => decide (s ∈ b.suites)

/-- Why two adverts cannot be combined. -/
def refusal (a b : CapsAdvert) : Option Rust.ErrorCode :=
  if min a.version b.version < a.minVersion ∨ min a.version b.version < b.minVersion then
    some .unsupportedVersion
  else if (firstCommon a b).isNone then some .unsupportedSuite
  else if (a.caps &&& b.caps) &&& capsBaseline ≠ capsBaseline then some .capabilityMismatch
  else none

theorem firstCommon_eq_none_iff {a b : CapsAdvert} :
    firstCommon a b = none ↔ ∀ s ∈ a.suites, s ∉ b.suites := by
  simp [firstCommon]

/-- Both sides refuse alike. -/
theorem refusal_comm (a b : CapsAdvert) : refusal a b = refusal b a := by
  have hsuites : (firstCommon a b).isNone = true ↔ (firstCommon b a).isNone = true := by
    rw [Option.isNone_iff_eq_none, Option.isNone_iff_eq_none, firstCommon_eq_none_iff,
      firstCommon_eq_none_iff]
    exact ⟨fun h s hb ha => h s ha hb, fun h s ha hb => h s hb ha⟩
  have hversion : (min a.version b.version < a.minVersion ∨ min a.version b.version < b.minVersion)
      ↔ min b.version a.version < b.minVersion ∨ min b.version a.version < a.minVersion := by
    rw [min_version_comm a.version, or_comm]
  simp only [refusal, UInt64.and_comm a.caps, hsuites, hversion]

theorem firstCommon_mem {a b : CapsAdvert} {s : UInt16} (h : firstCommon a b = some s) :
    s ∈ a.suites ∧ s ∈ b.suites := by
  have hmem := List.find?_some h
  exact ⟨List.mem_of_find?_eq_some h, of_decide_eq_true hmem⟩

/-- Adverts that are not refused have a suite in common. -/
theorem exists_firstCommon {a b : CapsAdvert} (h : refusal a b = none) :
    ∃ s, firstCommon a b = some s := by
  cases hs : firstCommon a b with
  | some s => exact ⟨s, rfl⟩
  | none =>
      unfold refusal at h
      rw [if_pos (Option.isNone_iff_eq_none.mpr hs)] at h
      split at h <;> cases h

end CapsAdvert

/-- The C loops find the first common suite. -/
theorem C.chooseSuite_eq (a b : CapsAdvert) :
    C.chooseSuite b.suites a.suites = a.firstCommon b := by
  have hlists : ∀ (s : UInt16) (l : List UInt16), C.listsSuite s l = decide (s ∈ l) := by
    intro s l
    induction l with
    | nil => rfl
    | cons p l ih =>
        rw [C.listsSuite, ih]
        by_cases hsp : s = p <;> simp [hsp]
  rw [CapsAdvert.firstCommon]
  induction a.suites with
  | nil => rfl
  | cons s l ih =>
      rw [C.chooseSuite, hlists, ih, List.find?_cons]
      by_cases hs : s ∈ b.suites <;> simp [hs]

theorem Rust.find_suite_eq (a b : CapsAdvert) :
    (a.suites.find? fun s => b.suites.contains s) = a.firstCommon b := by
  simp only [CapsAdvert.firstCommon, List.contains_eq_mem]

/-! ### Outcomes -/

/-- The implementation does not matter. -/
theorem Impl.negotiate_eq_rust (i : Impl) (a b : CapsAdvert) :
    i.negotiate a b = Impl.rust.negotiate a b := by
  cases i with
  | rust => rfl
  | c =>
      have hfloor := lt_floor_iff (min a.version b.version) a.minVersion b.minVersion
      simp only [Impl.negotiate, C.authNegotiate, Rust.negotiate, ← min_version, hfloor,
        C.chooseSuite_eq, Rust.find_suite_eq]
      split
      next => rfl
      next =>
        split
        next => rfl
        next => split <;> rfl

/-- What a refusal sends. -/
theorem Impl.negotiate_of_refusal {i : Impl} {a b : CapsAdvert} {e : Rust.ErrorCode}
    (h : a.refusal b = some e) : i.negotiate a b = .error e.asU16 := by
  rw [i.negotiate_eq_rust]
  simp only [Impl.negotiate, Rust.negotiate, Rust.find_suite_eq]
  simp only [CapsAdvert.refusal, Option.isNone_iff_eq_none] at h
  split at h
  next hv =>
    cases h
    rw [if_pos hv]
    rfl
  next hv =>
    rw [if_neg hv]
    split at h
    next hs =>
      cases h
      rw [hs]
      rfl
    next hs =>
      obtain ⟨s, hs⟩ := Option.ne_none_iff_exists'.mp hs
      split at h
      next hcaps =>
        cases h
        simp only [hs, if_pos hcaps]
        rfl
      next => cases h

/-- What adverts that are not refused give. -/
theorem Impl.negotiate_of_common {i : Impl} {a b : CapsAdvert} {s : UInt16}
    (h : a.refusal b = none) (hs : a.firstCommon b = some s) :
    i.negotiate a b = .ok ⟨min a.version b.version, s, a.caps &&& b.caps⟩ := by
  rw [i.negotiate_eq_rust]
  simp only [Impl.negotiate, Rust.negotiate, Rust.find_suite_eq, hs]
  unfold CapsAdvert.refusal at h
  split at h
  next => cases h
  next hv =>
    split at h
    next => cases h
    next =>
      split at h
      next => cases h
      next hcaps =>
        rw [if_neg hv, if_neg hcaps]
        rfl

/-- Two peers, whatever each runs, fail with one code, or agree on the version and the
capabilities.  Then each has the first suite of its own list that the other lists.  So the suites
are the same exactly when these are, as when the lists share one suite only. -/
theorem negotiation_agrees (i j : Impl) (a b : CapsAdvert) :
    (∃ e, i.negotiate a b = .error e ∧ j.negotiate b a = .error e) ∨
      ∃ n m, i.negotiate a b = .ok n ∧ j.negotiate b a = .ok m ∧
        n.version = m.version ∧ n.caps = m.caps ∧
        a.firstCommon b = some n.suite ∧ b.firstCommon a = some m.suite ∧
        (n.suite ∈ a.suites ∧ n.suite ∈ b.suites) ∧ (m.suite ∈ a.suites ∧ m.suite ∈ b.suites) ∧
        (n = m ↔ a.firstCommon b = b.firstCommon a) ∧
        ((∀ s t, s ∈ a.suites → s ∈ b.suites → t ∈ a.suites → t ∈ b.suites → s = t) → n = m) := by
  cases hr : a.refusal b with
  | some e =>
      refine .inl ⟨e.asU16, i.negotiate_of_refusal hr, j.negotiate_of_refusal ?_⟩
      rw [← hr, CapsAdvert.refusal_comm]
  | none =>
      have hr' : b.refusal a = none := by rw [← hr, CapsAdvert.refusal_comm]
      obtain ⟨s, hs⟩ := CapsAdvert.exists_firstCommon hr
      obtain ⟨t, ht⟩ := CapsAdvert.exists_firstCommon hr'
      obtain ⟨hsa, hsb⟩ := CapsAdvert.firstCommon_mem hs
      obtain ⟨htb, hta⟩ := CapsAdvert.firstCommon_mem ht
      have hnm : (⟨min a.version b.version, s, a.caps &&& b.caps⟩ : Negotiated) =
          ⟨min b.version a.version, t, b.caps &&& a.caps⟩ ↔ s = t := by
        rw [min_version_comm a.version, UInt64.and_comm a.caps, Negotiated.mk.injEq]
        exact ⟨fun h => h.2.1, fun h => ⟨rfl, h, rfl⟩⟩
      refine .inr ⟨_, _, i.negotiate_of_common hr hs, j.negotiate_of_common hr' ht,
        min_version_comm _ _, UInt64.and_comm _ _, hs, ht, ⟨hsa, hsb⟩, ⟨hta, htb⟩, ?_, ?_⟩
      · rw [hnm, hs, ht, Option.some.injEq]
      · exact fun honly => hnm.mpr (honly s t hsa hsb hta htb)

/-- An advert of the baseline with the suites given. -/
def advertOf (suites : List UInt16) : CapsAdvert := ⟨2, 2, suites, capsBaseline⟩

/-- Peers that prefer different suites end with different suites. -/
theorem negotiated_suites_differ :
    ¬ ∀ (i j : Impl) (a b : CapsAdvert), i.negotiate a b = j.negotiate b a := by
  intro h
  have hsuite := h .rust .c (advertOf [1, 2]) (advertOf [2, 1])
  revert hsuite
  decide

end ZkArche
