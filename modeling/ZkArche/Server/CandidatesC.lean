import ZkArche.Proto.ValidationC
import ZkArche.Server.SequentialC
import ZkArche.Wire.Auth1Faults

/-!
# What the candidate loop decides

Before an AUTH_1 is compared with a candidate it is decoded, looked up in the replay cache,
and two of its points are checked.  All of that is the same for every candidate (`precheck`).

A candidate then passes or does not pass the client proof, the pseudonym and the
rerandomization proof (`passes`).  The role proof does not depend on the candidate.  So the
loop ends in one of three ways (`search_cases`).  When the role proof fails, every candidate
passes the AUTH_1 on and the error is that of the last one.  When it verifies, the first
candidate that passes is answered, and when no candidate passes the error is a failed proof.
-/

namespace ZkArche.C

/-! ## The search -/

/-- A verdict passes the AUTH_1 on. -/
def PassesOn {α : Type} (v : Except AuthErr α) : Prop := ∃ e, v = .error e ∧ e.passesOn = true

/-- A verdict that does not pass the AUTH_1 on ends the search. -/
theorem search_first {α : Type} {l : List (Except AuthErr α)} {last : AuthErr} {j : ℕ}
    {v : Except AuthErr α} (hj : l[j]? = some v)
    (hbefore : ∀ i < j, ∀ w, l[i]? = some w → PassesOn w) (hv : ¬ PassesOn v) :
    search l last = v := by
  induction l generalizing last j with
  | nil => cases hj
  | cons w l ih =>
      cases j with
      | zero =>
          rw [List.getElem?_cons_zero, Option.some.injEq] at hj
          subst hj
          cases w with
          | ok r => rfl
          | error e =>
              have hp : e.passesOn = false := by
                rw [Bool.eq_false_iff]
                exact fun h => hv ⟨e, rfl, h⟩
              simp [search, hp]
      | succ j =>
          obtain ⟨e, rfl, hp⟩ := hbefore 0 (Nat.succ_pos j) w rfl
          rw [List.getElem?_cons_succ] at hj
          rw [search, if_pos hp]
          refine ih hj fun i hi w hw => hbefore (i + 1) (Nat.succ_lt_succ hi) w ?_
          rwa [List.getElem?_cons_succ]

/-- When every verdict passes the AUTH_1 on, the search ends with the last one. -/
theorem search_last {α : Type} {l : List (Except AuthErr α)} {last : AuthErr}
    {v : Except AuthErr α} (hall : ∀ w ∈ l, PassesOn w) (hv : l.getLast? = some v) :
    search l last = v := by
  induction l generalizing last with
  | nil => cases hv
  | cons w l ih =>
      obtain ⟨e, rfl, hp⟩ := hall w List.mem_cons_self
      rw [search, if_pos hp]
      cases l with
      | nil =>
          rw [List.getLast?_singleton, Option.some.injEq] at hv
          rw [← hv, search]
      | cons w' l =>
          rw [List.getLast?_cons_cons] at hv
          exact ih (fun w hw => hall w (List.mem_cons_of_mem _ hw)) hv

variable {q : ℕ} {G : Type} [AddCommGroup G] [Module (ZMod q) G]

/-! ## One candidate -/

/-- The checks of an AUTH_1 that do not depend on the candidate. -/
def precheck (S : Suite q G) (cache : ReplayCache) (payload : List UInt8) :
    Except AuthErr Auth1 := do
  let a1 ← authAuth1Decode payload
  ensure (authReplayCacheContains cache (authReplayKey S a1.pid a1.nonceC a1.ephC) = false)
    .replayDetected
  authCheckPoint S a1.ephC
  checkPointOrIdentity S a1.cPrime
  return a1

/-- A candidate passes the client proof, the pseudonym and the rerandomization proof. -/
def passes (S : Suite q G) (cfg : ServerConfig) (a1 : Auth1) (e : RegistryEntry) : Bool :=
  authVerifyAuthClient S a1.clientProof e.devicePub a1.pid a1.nonceC a1.ephC
    && decide (authComputePid S e.devicePub a1.nonceC a1.ephC cfg.serverPub = a1.pid)
    && authVerifyRerandomization S a1.rerandProof e.roleCommitment a1.cPrime a1.pid a1.nonceC
      a1.ephC

/-- The role proof verifies. -/
def rolePasses (S : Suite q G) (cfg : ServerConfig) (a1 : Auth1) : Bool :=
  authVerifyRoleSetMembership S a1.branches cfg.allowedRoles a1.cPrime a1.pid a1.nonceC a1.ephC

variable {S : Suite q G} {cap : ℕ} {cfg : ServerConfig} {st : ServerState} {hdr : Header}
  {payload : List UInt8} {draws : ℕ → Auth2Draws} {a1 : Auth1}

theorem precheck_eq_ok_iff {cache : ReplayCache} :
    precheck S cache payload = .ok a1 ↔ authAuth1Decode payload = .ok a1 ∧
      authReplayCacheContains cache (authReplayKey S a1.pid a1.nonceC a1.ephC) = false ∧
      authCheckPoint S a1.ephC = .ok () ∧ checkPointOrIdentity S a1.cPrime = .ok () := by
  simp only [precheck, Except.bind_eq_ok_iff, ensure_eq_ok_iff, Except.pure_eq_ok,
    Except.ok.injEq]
  constructor
  · rintro ⟨m, hd, -, hk, ⟨⟩, he, ⟨⟩, hc, rfl⟩
    exact ⟨hd, hk, he, hc⟩
  · rintro ⟨hd, hk, he, hc⟩
    exact ⟨a1, hd, (), hk, (), he, (), hc, rfl⟩

/-- What the checks before the candidates can find. -/
def PrecheckFault (e : AuthErr) : Prop :=
  e ∈ [AuthErr.payloadTooShort, .malformedPacket, .replayDetected, .identityPoint, .invalidPoint]

theorem precheck_fails (cache : ReplayCache) (payload : List UInt8) :
    FailsWith PrecheckFault (precheck S cache payload) := by
  have hpoint : ∀ p, FailsWith PrecheckFault (authCheckPoint S p) := by
    intro p
    refine .bind (.of_ensure fun _ => ?_) fun _ _ => .of_ensure fun _ => ?_
    · simp [PrecheckFault]
    · simp [PrecheckFault]
  unfold precheck
  refine .bind ?_ fun m _ => .bind (.of_ensure fun _ => by simp [PrecheckFault]) fun _ _ => ?_
  · intro e he
    rcases authAuth1Decode_fails payload e he with rfl | rfl
    · simp [PrecheckFault]
    · simp [PrecheckFault]
  · refine .bind (hpoint _) fun _ _ => .bind ?_ fun _ _ => .ok _
    intro e he
    unfold checkPointOrIdentity at he
    split at he
    next => cases he
    next => exact hpoint _ e he

theorem PrecheckFault.not_passesOn {e : AuthErr} (h : PrecheckFault e) : e.passesOn = false := by
  simp only [PrecheckFault, List.mem_cons, List.not_mem_nil, or_false] at h
  rcases h with rfl | rfl | rfl | rfl | rfl <;> rfl

/-- The verdict of a candidate. -/
def candidate (S : Suite q G) (cfg : ServerConfig) (sid : SessionId) (seq : UInt32) (a1 : Auth1)
    (e : RegistryEntry) (draws : Auth2Draws) : Except AuthErr (PendingAuth × List UInt8) :=
  if passes S cfg a1 e then
    if rolePasses S cfg a1 then auth1Respond S cfg sid seq e.devicePub a1 draws maxDatagram
    else .error .roleNotPermitted
  else .error .proofVerify

/-- The checks of `auth_server_handle_auth1` that depend on the candidate. -/
theorem candidate_eq (sid : SessionId) (seq : UInt32) (a1 : Auth1) (e : RegistryEntry)
    (draws : Auth2Draws) :
    candidate S cfg sid seq a1 e draws = (do
      ensure (authVerifyAuthClient S a1.clientProof e.devicePub a1.pid a1.nonceC a1.ephC)
        .proofVerify
      ensure (authComputePid S e.devicePub a1.nonceC a1.ephC cfg.serverPub = a1.pid) .proofVerify
      ensure (authVerifyRerandomization S a1.rerandProof e.roleCommitment a1.cPrime a1.pid
        a1.nonceC a1.ephC) .proofVerify
      ensure (authVerifyRoleSetMembership S a1.branches cfg.allowedRoles a1.cPrime a1.pid
        a1.nonceC a1.ephC) .roleNotPermitted
      auth1Respond S cfg sid seq e.devicePub a1 draws maxDatagram) := by
  unfold candidate passes rolePasses
  by_cases h1 : authVerifyAuthClient S a1.clientProof e.devicePub a1.pid a1.nonceC a1.ephC = true
  case neg => simp [h1]
  by_cases h2 : authComputePid S e.devicePub a1.nonceC a1.ephC cfg.serverPub = a1.pid
  case neg => simp [h1, h2]
  by_cases h3 : authVerifyRerandomization S a1.rerandProof e.roleCommitment a1.cPrime a1.pid
      a1.nonceC a1.ephC = true
  case neg => simp [h1, h2, h3]
  by_cases h4 : authVerifyRoleSetMembership S a1.branches cfg.allowedRoles a1.cPrime a1.pid
      a1.nonceC a1.ephC = true
  case neg => simp [h1, h2, h3, h4]
  simp [h1, h2, h3, h4]

/-- A fresh AUTH_1 is answered by its handler. -/
theorem verdict_of_fresh {j : ℕ} (hd : authAuth1Decode payload = .ok a1)
    (hk : authReplayCacheContains st.replayCache (authReplayKey S a1.pid a1.nonceC a1.ephC)
      = false) :
    verdict S cap cfg st hdr payload draws j =
      authServerHandleAuth1 S cfg hdr.sessionId hdr.seq payload
        (.ok ((st.registry.getD j default).devicePub,
          (st.registry.getD j default).roleCommitment)) (draws j) maxDatagram := by
  obtain ⟨e, hg⟩ | ⟨key, r, -, -, ha, hg⟩ := authServerHandleAuth1Guarded_cases (S := S) cap
    st.replayCache cfg hdr.sessionId hdr.seq payload
    (.ok ((st.registry.getD j default).devicePub, (st.registry.getD j default).roleCommitment))
    (draws j) maxDatagram
  · have hg' := hg
    unfold authServerHandleAuth1Guarded at hg'
    simp only [hd, hk, if_neg (show ¬ false = true by decide)] at hg'
    rw [verdict, hg]
    split at hg'
    next err he => rw [he, (Prod.mk.inj hg').2]
    next r hr =>
      -- the key is new, so the insertion does not fail
      have hnew := ReplayCache.insert_snd cap hk
      split at hg'
      next hins =>
        rw [hins] at hnew
        cases hnew
      next => cases hg'
  · rw [verdict, hg, ha]

/-- A verdict is the precheck followed by the comparison with the candidate. -/
theorem verdict_eq (j : ℕ) :
    verdict S cap cfg st hdr payload draws j =
      (precheck S st.replayCache payload >>= fun a1 => candidate S cfg hdr.sessionId hdr.seq a1
        (st.registry.getD j default) (draws j)) := by
  cases hd : authAuth1Decode payload with
  | error e => simp [verdict, authServerHandleAuth1Guarded, precheck, hd]
  | ok a1 =>
      cases hk : authReplayCacheContains st.replayCache
          (authReplayKey S a1.pid a1.nonceC a1.ephC) with
      | true => simp [verdict, authServerHandleAuth1Guarded, precheck, hd, hk]
      | false =>
          rw [verdict_of_fresh hd hk]
          simp only [authServerHandleAuth1, precheck, hd, hk, Except.ok_bind',
            ensure_pos trivial, candidate_eq, bind_assoc, Except.pure_eq_ok]

/-- A candidate that passes is verified by the AUTH_1. -/
theorem verifies_of_passes {cache : ReplayCache} {e : RegistryEntry}
    (hpre : precheck S cache payload = .ok a1) (hp : passes S cfg a1 e = true)
    (hr : rolePasses S cfg a1 = true) :
    Auth1Verifies S cfg e.devicePub e.roleCommitment a1 := by
  obtain ⟨-, -, heph, hcp⟩ := precheck_eq_ok_iff.mp hpre
  simp only [passes, Bool.and_eq_true, decide_eq_true_eq] at hp
  exact ⟨heph, hcp, hp.1.1, hp.1.2, hp.2, hr⟩

/-! ## The answer -/

/-- No product of the answer to an AUTH_1 is the identity. -/
structure AnswerRegular (S : Suite q G) (sk : ZMod q) (ephC : G) (draws : Auth2Draws) : Prop where
  eph : (scalarOf draws.eph : ZMod q) • S.base ≠ 0
  nonce : (scalarOf draws.proof : ZMod q) • S.base ≠ 0
  key : sk • S.base ≠ 0
  shared : (scalarOf draws.eph : ZMod q) • ephC ≠ 0

/-- All that can go wrong with an answer is a multiplication. -/
theorem auth1Respond_fails (sid : SessionId) (seq : UInt32) (pub : Bytes 32) (a1 : Auth1)
    (d : Auth2Draws) :
    FailsWith (· = .invalidPoint) (auth1Respond S cfg sid seq pub a1 d maxDatagram) := by
  have hbase : ∀ s, FailsWith (· = .invalidPoint) (authScalarmultBase S s) := by
    intro s
    exact .bind (.of_ensure fun _ => rfl) fun _ _ => .ok _
  have hmult : ∀ s p, FailsWith (· = .invalidPoint) (authScalarmult S s p) := by
    intro s p
    unfold authScalarmult
    split
    next => exact .error rfl
    next => exact .bind (.of_ensure fun _ => rfl) fun _ _ => .ok _
  have hchal : ∀ pub a ephS, ∃ c, authServerChallenge S pub d.nonce ephS a = .ok c := by
    intro pub a ephS
    refine ⟨_, challenge_eq S (by decide) (by simp) ?_⟩
    intro f hf
    simp only [List.mem_cons, List.not_mem_nil, or_false] at hf
    obtain rfl | rfl | rfl | rfl := hf <;> exact field_short (by decide) (by simp)
  have hprove : ∀ ephS, FailsWith (· = .invalidPoint)
      (authProveAuthServer S d.proof cfg.serverSk d.nonce ephS) := by
    intro ephS
    refine .bind (hbase _) fun a _ => .bind (.bind (hbase _) fun pub _ => ?_) fun _ _ => .ok _
    obtain ⟨c, hc⟩ := hchal pub a ephS
    rw [hc]
    exact .ok c
  unfold auth1Respond
  refine .bind (hbase _) fun ephS _ => .bind (hprove ephS) fun proof _ => ?_
  refine .bind (.bind (hmult _ _) fun _ _ => .ok _) fun key _ => ?_
  rw [authKcTranscriptHash_eq S _ _ _ _ _ _ _ _ key, Except.ok_bind']
  dsimp only
  rw [authAuth2Encode, emit_eq_ok_iff.mpr ⟨by rw [Auth2.bytes_length]; decide, rfl⟩,
    Except.ok_bind', authPacketBuild_eq_ok_iff.mpr
      ⟨by rw [Auth2.bytes_length]; decide, by rw [Auth2.bytes_length]; decide, rfl⟩]
  exact .ok _

/-- An AUTH_1 of a verified device is answered exactly when the answer is regular. -/
theorem auth1Respond_ok_iff [NeZero q] {sk : ZMod q} {E : G} (hsk : cfg.serverSk = encScalar sk)
    (hE : a1.ephC = S.encPoint E) (sid : SessionId) (seq : UInt32) (pub : Bytes 32)
    (d : Auth2Draws) :
    (∃ r, auth1Respond S cfg sid seq pub a1 d maxDatagram = .ok r) ↔ AnswerRegular S sk E d := by
  simp only [Prod.exists, auth1Respond_eq_ok_iff, hsk, hE, authScalarFromWide_eq,
    authScalarmultBase_eq_ok_iff, authScalarmult_encPoint_iff, clamped_encScalar S.order_le]
  constructor
  · rintro ⟨p, pkt, -, ephS, proof, shared, ⟨heph, rfl⟩, hprove, ⟨hsh, -⟩, -, -⟩
    simp only [authProveAuthServer, proveSchnorr, Except.bind_eq_ok_iff, authScalarFromWide_eq,
      authScalarmultBase_eq_ok_iff, clamped_encScalar S.order_le] at hprove
    obtain ⟨a, ⟨hnonce, -⟩, c, ⟨pub', ⟨hkey, -⟩, -⟩, -⟩ := hprove
    exact ⟨heph, hnonce, hkey, hsh⟩
  · rintro ⟨heph, hnonce, hkey, hsh⟩
    exact ⟨_, _, by decide, _, _, _, ⟨heph, rfl⟩,
      authProveAuthServer_eq S d.nonce _ hnonce hkey, ⟨hsh, rfl⟩, rfl, rfl⟩

theorem auth1Respond_devicePub {sid : SessionId} {seq : UInt32} {pub : Bytes 32} {d : Auth2Draws}
    {outCap : ℕ} {r : PendingAuth × List UInt8}
    (h : auth1Respond S cfg sid seq pub a1 d outCap = .ok r) : r.1.devicePub = pub := by
  obtain ⟨p, pkt⟩ := r
  obtain ⟨-, ephS, proof, shared, -, -, -, rfl, -⟩ := auth1Respond_eq_ok_iff.mp h
  rfl

/-! ## The loop -/

theorem getElem?_verdicts (j : ℕ) {e : RegistryEntry} (he : st.registry[j]? = some e) :
    (verdicts S cap cfg st hdr payload draws)[j]? =
      some (precheck S st.replayCache payload >>= fun a1 =>
        candidate S cfg hdr.sessionId hdr.seq a1 e (draws j)) := by
  obtain ⟨hlt, -⟩ := List.getElem?_eq_some_iff.mp he
  rw [verdicts, List.getElem?_map, List.getElem?_range hlt, Option.map_some, verdict_eq,
    List.getD_eq_getElem?_getD, he, Option.getD_some]

/-- What a verdict is, when the AUTH_1 passes the precheck. -/
theorem mem_verdicts (hpre : precheck S st.replayCache payload = .ok a1)
    {v : Except AuthErr (PendingAuth × List UInt8)}
    (hv : v ∈ verdicts S cap cfg st hdr payload draws) :
    ∃ j e, st.registry[j]? = some e ∧
      v = candidate S cfg hdr.sessionId hdr.seq a1 e (draws j) := by
  obtain ⟨j, hj, rfl⟩ := List.mem_map.mp hv
  have he := List.getElem?_eq_getElem (List.mem_range.mp hj)
  refine ⟨j, _, he, ?_⟩
  have h := @getElem?_verdicts q G _ _ S cap cfg st hdr payload draws j _ he
  rw [hpre, verdicts, List.getElem?_map, List.getElem?_range (List.mem_range.mp hj)] at h
  exact Option.some.inj h

theorem candidate_fails_proof {sid : SessionId} {seq : UInt32} {e : RegistryEntry}
    {d : Auth2Draws} (h : passes S cfg a1 e = false) :
    candidate S cfg sid seq a1 e d = .error .proofVerify := by
  simp [candidate, h]

theorem candidate_fails_role {sid : SessionId} {seq : UInt32} {e : RegistryEntry}
    {d : Auth2Draws} (hr : rolePasses S cfg a1 = false) :
    candidate S cfg sid seq a1 e d
      = .error (if passes S cfg a1 e then .roleNotPermitted else .proofVerify) := by
  unfold candidate
  split <;> simp [hr]

/-- A fault found before the candidates ends the search at the first of them. -/
theorem search_of_fault {e : AuthErr} (hpre : precheck S st.replayCache payload = .error e)
    (hne : st.registry ≠ []) :
    search (verdicts S cap cfg st hdr payload draws) .unknownDevice = .error e := by
  have hfirst : st.registry[0]? = some (st.registry.head hne) := by
    rw [← List.head?_eq_getElem?, List.head?_eq_some_head hne]
  refine search_first (j := 0) ?_ (fun i hi => absurd hi (Nat.not_lt_zero i)) ?_
  · rw [getElem?_verdicts 0 hfirst, hpre]
    rfl
  · rintro ⟨e', he', hp⟩
    cases he'
    rw [(precheck_fails _ _ e hpre).not_passesOn] at hp
    cases hp

/-- When the role proof fails, the error is that of the last candidate. -/
theorem search_of_role (hpre : precheck S st.replayCache payload = .ok a1)
    (hr : rolePasses S cfg a1 = false) {e : RegistryEntry} (he : st.registry.getLast? = some e) :
    search (verdicts S cap cfg st hdr payload draws) .unknownDevice
      = .error (if passes S cfg a1 e then .roleNotPermitted else .proofVerify) := by
  refine search_last ?_ ?_
  · intro v hv
    obtain ⟨j, e', -, rfl⟩ := mem_verdicts hpre hv
    rw [candidate_fails_role hr]
    refine ⟨_, rfl, ?_⟩
    split <;> rfl
  · have hlast := he
    rw [List.getLast?_eq_getElem?] at hlast
    rw [List.getLast?_eq_getElem?, verdicts, List.length_map, List.length_range, ← verdicts,
      getElem?_verdicts _ hlast, hpre, Except.ok_bind', candidate_fails_role hr]

/-- When no candidate passes, the error is a failed proof. -/
theorem search_of_none (hpre : precheck S st.replayCache payload = .ok a1)
    (hne : st.registry ≠ []) (hnone : ∀ e ∈ st.registry, passes S cfg a1 e = false) :
    search (verdicts S cap cfg st hdr payload draws) .unknownDevice = .error .proofVerify := by
  refine search_last ?_ ?_
  · intro v hv
    obtain ⟨j, e', he', rfl⟩ := mem_verdicts hpre hv
    rw [candidate_fails_proof (hnone e' (List.mem_of_getElem? he'))]
    exact ⟨_, rfl, rfl⟩
  · have hlast := List.getLast?_eq_some_getLast hne
    have hmem := List.getLast_mem hne
    rw [List.getLast?_eq_getElem?] at hlast
    rw [List.getLast?_eq_getElem?, verdicts, List.length_map, List.length_range, ← verdicts,
      getElem?_verdicts _ hlast, hpre, Except.ok_bind', candidate_fails_proof (hnone _ hmem)]

/-- The first candidate that passes is answered, when the role proof verifies. -/
theorem search_of_pass (hpre : precheck S st.replayCache payload = .ok a1)
    (hr : rolePasses S cfg a1 = true) {j : ℕ} {e : RegistryEntry}
    (hj : st.registry.findIdx? (passes S cfg a1) = some j) (he : st.registry[j]? = some e) :
    search (verdicts S cap cfg st hdr payload draws) .unknownDevice
      = auth1Respond S cfg hdr.sessionId hdr.seq e.devicePub a1 (draws j) maxDatagram := by
  obtain ⟨hlt, hpass, hbefore⟩ := List.findIdx?_eq_some_iff_getElem.mp hj
  have hej : st.registry[j] = e := by
    rw [List.getElem?_eq_getElem hlt] at he
    exact Option.some.inj he
  rw [hej] at hpass
  have hcand : candidate S cfg hdr.sessionId hdr.seq a1 e (draws j)
      = auth1Respond S cfg hdr.sessionId hdr.seq e.devicePub a1 (draws j) maxDatagram := by
    simp [candidate, hpass, hr]
  refine search_first (j := j) ?_ ?_ ?_
  · rw [getElem?_verdicts j he, hpre, Except.ok_bind', hcand]
  · intro i hi w hw
    have hei := List.getElem?_eq_getElem (Nat.lt_trans hi hlt)
    have hnot : passes S cfg a1 st.registry[i] = false := by simpa using hbefore i hi
    rw [getElem?_verdicts i hei, hpre, Except.ok_bind', candidate_fails_proof hnot,
      Option.some.injEq] at hw
    exact ⟨_, hw.symm, rfl⟩
  · rintro ⟨err, herr, hp⟩
    rw [auth1Respond_fails _ _ _ _ _ err herr] at hp
    cases hp

/-- How the search of the C server ends for an AUTH_1 that passed the precheck. -/
theorem search_cases (hpre : precheck S st.replayCache payload = .ok a1)
    (hne : st.registry ≠ []) :
    search (verdicts S cap cfg st hdr payload draws) .unknownDevice = .error .proofVerify ∨
    search (verdicts S cap cfg st hdr payload draws) .unknownDevice
      = .error .roleNotPermitted ∨
    ∃ j e, passes S cfg a1 e = true ∧ rolePasses S cfg a1 = true ∧
      search (verdicts S cap cfg st hdr payload draws) .unknownDevice
        = auth1Respond S cfg hdr.sessionId hdr.seq e.devicePub a1 (draws j) maxDatagram := by
  cases hr : rolePasses S cfg a1 with
  | false =>
      rw [search_of_role hpre hr (List.getLast?_eq_some_getLast hne)]
      split
      next => exact .inr (.inl rfl)
      next => exact .inl rfl
  | true =>
      cases hj : st.registry.findIdx? (passes S cfg a1) with
      | none => exact .inl (search_of_none hpre hne (List.findIdx?_eq_none_iff.mp hj))
      | some j =>
          obtain ⟨hlt, hpass, -⟩ := List.findIdx?_eq_some_iff_getElem.mp hj
          exact .inr (.inr ⟨j, st.registry[j], hpass, rfl,
            search_of_pass hpre hr hj (List.getElem?_eq_getElem hlt)⟩)

end ZkArche.C
