import ZkArche.Lib.Keyed
import ZkArche.Wire.PayloadsC

/-!
# The registry of the C server

`auth_registry_t` of `store_fs.c`, in memory: an array of at most 256 records, one per
device identifier.  Putting a record overwrites the one with the same identifier, in place,
or appends.  So the registry is a map, and it has in each place what was put there last
(`get_putAll`).
-/

namespace ZkArche.C

/-- `AUTH_REGISTRY_MAX_ENTRIES`. -/
def registryMaxEntries : ℕ := 256

/-- `auth_registry_entry_t`. -/
structure RegistryEntry where
  deviceId : Bytes 32
  devicePub : Bytes 32
  roleCommitment : Bytes 32
deriving DecidableEq, Inhabited

/-- `auth_registry_t`, without its path. -/
abbrev Registry := List RegistryEntry

/-- `auth_registry_put`. -/
def authRegistryPut (reg : Registry) (e : RegistryEntry) : Except AuthErr Registry :=
  match reg.findIdx? (fun r => r.deviceId = e.deviceId) with
  | some i => .ok (reg.set i e)
  | none =>
      if reg.length ≥ registryMaxEntries then .error .tooManyActive
      else .ok (reg ++ [e])

/-- `auth_registry_get`: the key and the commitment of a device. -/
def authRegistryGet (reg : Registry) (deviceId : Bytes 32) : Except AuthErr (Bytes 32 × Bytes 32) :=
  match reg.find? fun r => r.deviceId = deviceId with
  | some r => .ok (r.devicePub, r.roleCommitment)
  | none => .error .unknownDevice

theorem authRegistryPut_eq (reg : Registry) (e : RegistryEntry) :
    authRegistryPut reg e =
      if e.deviceId ∉ reg.map RegistryEntry.deviceId ∧ registryMaxEntries ≤ reg.length then
        .error .tooManyActive
      else .ok (Keyed.upsert RegistryEntry.deviceId reg e) := by
  unfold authRegistryPut
  cases hi : reg.findIdx? fun r => r.deviceId = e.deviceId with
  | some i =>
      obtain ⟨hlt, hp, -⟩ := List.findIdx?_eq_some_iff_getElem.mp hi
      have hmem : e.deviceId ∈ reg.map RegistryEntry.deviceId :=
        List.mem_map.mpr ⟨reg[i], List.getElem_mem hlt, by simpa using hp⟩
      simp only [hmem, not_true_eq_false, false_and, if_false, Keyed.upsert_of_findIdx? hi]
  | none =>
      have hnew : e.deviceId ∉ reg.map RegistryEntry.deviceId := by
        simpa using hi
      simp only [hnew, not_false_eq_true, true_and, Keyed.upsert_of_new hnew, ge_iff_le]

/-! ## Sequences of puts -/

/-- The registry after a sequence of puts, and those of them that succeeded. -/
def putAll : Registry → List RegistryEntry → Registry × List RegistryEntry
  | reg, [] => (reg, [])
  | reg, e :: puts =>
      match authRegistryPut reg e with
      | .ok reg' => ((putAll reg' puts).1, e :: (putAll reg' puts).2)
      | .error _ => putAll reg puts

/-- At most 256 entries, one for each device. -/
structure Registry.WellFormed (reg : Registry) : Prop where
  bounded : reg.length ≤ registryMaxEntries
  distinct : (reg.map RegistryEntry.deviceId).Nodup

theorem Registry.wellFormed_nil : Registry.WellFormed [] := ⟨Nat.zero_le _, List.nodup_nil⟩

theorem Registry.WellFormed.put {reg reg' : Registry} (h : reg.WellFormed) {e : RegistryEntry}
    (hput : authRegistryPut reg e = .ok reg') : reg'.WellFormed := by
  rw [authRegistryPut_eq] at hput
  split at hput
  next => cases hput
  next hroom =>
    cases hput
    refine ⟨?_, Keyed.nodup_upsert h.distinct⟩
    rw [Keyed.length_upsert]
    split
    next => exact h.bounded
    next hnew => exact Nat.not_le.mp fun hfull => hroom ⟨hnew, hfull⟩

theorem Registry.WellFormed.putAll {reg : Registry} (h : reg.WellFormed)
    (puts : List RegistryEntry) : (C.putAll reg puts).1.WellFormed := by
  induction puts generalizing reg with
  | nil => exact h
  | cons e puts ih =>
      unfold C.putAll
      split
      next reg' hput => exact ih (h.put hput)
      next => exact ih h

/-- The entry of a device is the last one that was put for it, or the one from before. -/
theorem get_putAll (reg : Registry) (puts : List RegistryEntry) (id : Bytes 32) :
    Keyed.get RegistryEntry.deviceId (putAll reg puts).1 id =
      ((putAll reg puts).2.reverse.find? fun e => e.deviceId = id).or
        (Keyed.get RegistryEntry.deviceId reg id) := by
  induction puts generalizing reg with
  | nil => rfl
  | cons e puts ih =>
      unfold putAll
      split
      next reg' hput =>
        rw [authRegistryPut_eq] at hput
        split at hput
        next => cases hput
        next =>
          cases hput
          rw [ih, Keyed.get_upsert, List.reverse_cons, List.find?_append, Option.or_assoc]
          congr 1
          by_cases he : e.deviceId = id <;> simp [he]
      next => exact ih reg

/-- More puts. -/
theorem putAll_append (reg : Registry) (puts more : List RegistryEntry) :
    (putAll reg (puts ++ more)).1 = (putAll (putAll reg puts).1 more).1 := by
  induction puts generalizing reg with
  | nil => rfl
  | cons d puts ih =>
      simp only [List.cons_append, putAll]
      cases authRegistryPut reg d with
      | ok reg' => exact ih reg'
      | error _ => exact ih reg

theorem putAll_one_ok {reg reg' : Registry} {e : RegistryEntry}
    (h : authRegistryPut reg e = .ok reg') : (putAll reg [e]).1 = reg' := by
  simp only [putAll, h]

theorem putAll_one_error {reg : Registry} {e : RegistryEntry} {err : AuthErr}
    (h : authRegistryPut reg e = .error err) : (putAll reg [e]).1 = reg := by
  simp only [putAll, h]

theorem authRegistryGet_eq (reg : Registry) (id : Bytes 32) :
    authRegistryGet reg id = ((Keyed.get RegistryEntry.deviceId reg id).map fun r =>
      (r.devicePub, r.roleCommitment)).elim (.error .unknownDevice) .ok := by
  unfold authRegistryGet Keyed.get
  cases reg.find? fun r => r.deviceId = id <;> rfl

end ZkArche.C
