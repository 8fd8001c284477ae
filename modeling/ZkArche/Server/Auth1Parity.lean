import ZkArche.Crypto.RoleParity
import ZkArche.Server.Auth1Refused
import ZkArche.Server.EnrollmentAtomicity

/-!
# The decisions of the two servers on an AUTH_1

A C server and a Rust server with the same key, registry, roles and replay cache receive the
same payload.  The decision of a server is the device it accepts or the code of its ERROR
packet.

The servers differ in several ways.

* The C server looks at the payload only for a candidate, so an empty registry answers every
  payload with *unknown device*.
* The Rust decoder validates every field and the C decoder none, so the servers refuse a
  payload at different fields, and the C server may not refuse it at all.  `RefusedAlike` lists
  the payloads that both refuse for the same reason.
* The C server tries every registry entry and answers an unknown pseudonym with a failed proof.
  The Rust server looks the pseudonym up first, and answers with *unknown device*.
* A failed role proof passes the AUTH_1 on to the next entry of the C server, so the last entry
  decides between the two errors.
* The C verifiers reject a product that is the identity.

`Auth1Agreeable` lists the cases in which none of this shows, and the servers agree in these
cases and no others (`auth1_decisions_agree_iff`).
-/

namespace ZkArche

/-- What a server decides about an AUTH_1. -/
inductive Decision where
  | accept (devicePub : Bytes 32)
  | reject (code : ℕ)
  | stopped
deriving DecidableEq

variable {q : ℕ} {G : Type} [AddCommGroup G] [Module (ZMod q) G]

/-! ## The C server -/

namespace C

/-- The pending authentication in a slot. -/
def Slot.auth? : Slot → Option PendingAuth
  | .auth p => some p
  | _ => none

/-- The decision of `try_handle_auth1`: the device in the slot that was filled, or the error. -/
def auth1Decision (S : Suite q G) (cap : ℕ) (cfg : ServerConfig) (st : ServerState) (job : Job)
    (hdr : Header) (payload : List UInt8) : Decision :=
  let r := (tryHandleAuth1 S cap cfg job hdr payload).run st
  match r.2 with
  | .error e => .reject e.code
  | .ok _ =>
      match (st.sessions.findIdx? (· = .free)).bind fun i => r.1.sessions[i]?.bind Slot.auth? with
      | some p => .accept p.devicePub
      | none => .stopped

/-- The decision that the outcome of the search stands for. -/
def decisionOf : Except AuthErr (PendingAuth × List UInt8) → Decision
  | .ok r => .accept r.1.devicePub
  | .error e => .reject e.code

/-- With a free slot, the decision is that of the search. -/
theorem auth1Decision_eq {S : Suite q G} {cap : ℕ} {cfg : ServerConfig} {st : ServerState}
    {job : Job} {hdr : Header} {payload : List UInt8} {i : ℕ}
    (hfree : st.sessions.findIdx? (· = .free) = some i) :
    auth1Decision S cap cfg st job hdr payload
      = decisionOf (search (verdicts S cap cfg st hdr payload job.auth) .unknownDevice) := by
  have hlt := (List.findIdx?_eq_some_iff_getElem.mp hfree).1
  rw [auth1Decision, tryHandleAuth1_run, serveAuth1, hfree]
  dsimp only
  cases search (verdicts S cap cfg st hdr payload job.auth) .unknownDevice with
  | error e => rfl
  | ok r =>
      obtain ⟨p, pkt⟩ := r
      simp [hlt, Slot.auth?, decisionOf]

end C

/-! ## The Rust server -/

namespace Rust

variable [DecidableEq G]

/-- The client proof and the rerandomization proof verify against a record. -/
def proofsVerify (S : Suite q G) (a1 : Auth1 q G) (rec : DeviceRecord G) : Bool :=
  verifyAuthClient S rec.pubkey a1.pid a1.nonceC a1.ephC a1.clientProof
    && verifyRerandomization S rec.roleCommitment a1.cPrime a1.pid a1.nonceC a1.ephC
      a1.rerandProof

/-- The role proof verifies. -/
def roleVerifies (S : Suite q G) (allowedRoles : List UInt64) (a1 : Auth1 q G) : Bool :=
  verifyRoleSetMembership S ⟨allowedRoles, a1.cPrime, a1.pid, a1.nonceC, a1.ephC⟩ a1.branches

/-- The decision of `handle_auth_1`: the key of the device it names, or the error. -/
def auth1Decision (S : Suite q G) (sk : ZMod q) (records : List (Bytes 32 × DeviceRecord G))
    (replay : MemoryReplayCache) (allowedRoles : List UInt64) (sid : SessionId) (seq : UInt32)
    (payload : List UInt8) (draws : Auth2Draws) : Decision :=
  match (handleAuth1 S (.ok sk) records replay allowedRoles sid seq payload draws).2 with
  | .error (.err e) => .reject (errorCode e)
  | .error (.panic _) => .stopped
  | .ok p =>
      match records.find? fun r => r.1 = p.deviceId with
      | some r => .accept (S.encPoint r.2.pubkey)
      | none => .stopped

/-- The decision on an AUTH_1 that passed the checks before the registry. -/
def decisionOn (S : Suite q G) (sk : ZMod q) (records : List (Bytes 32 × DeviceRecord G))
    (allowedRoles : List UInt64) (a1 : Auth1 q G) : Decision :=
  match findDevice S records (sk • S.base) a1 with
  | none => .reject ErrorCode.unknownDevice.asU16
  | some m =>
      if proofsVerify S a1 m.2 then
        if roleVerifies S allowedRoles a1 then .accept (S.encPoint m.2.pubkey)
        else .reject ErrorCode.roleNotPermitted.asU16
      else .reject ErrorCode.proofVerifyFailed.asU16

variable {S : Suite q G} {sk : ZMod q} {records : List (Bytes 32 × DeviceRecord G)}
  {replay : MemoryReplayCache} {allowedRoles : List UInt64} {sid : SessionId} {seq : UInt32}
  {payload : List UInt8} {draws : Auth2Draws}

theorem auth1Decision_of_fault {e : ProtoError} (h : precheck S replay payload = .error e) :
    auth1Decision S sk records replay allowedRoles sid seq payload draws
      = .reject (errorCode e) := by
  have haccept : auth1Accept S (.ok sk) records replay allowedRoles sid seq payload draws
      = .error (.err e) := by
    unfold precheck at h
    unfold auth1Accept
    cases hd : Auth1.decode S payload with
    | error e' =>
        rw [hd] at h
        cases h
        rfl
    | ok a1 =>
        rw [hd, Except.ok_bind'] at h
        rw [orStop, Except.ok_bind']
        dsimp only
        by_cases hk : replay.contains (replayKey S a1.pid a1.nonceC a1.ephC) = false
        · rw [ensure_pos hk] at h
          cases h
        · rw [ensure_neg hk] at h ⊢
          cases h
          rfl
  simp only [auth1Decision, handleAuth1, haccept]

theorem auth1Decision_of_pass {a1 : Auth1 q G} (hids : (records.map Prod.fst).Nodup)
    (h : precheck S replay payload = .ok a1) :
    auth1Decision S sk records replay allowedRoles sid seq payload draws
      = decisionOn S sk records allowedRoles a1 := by
  obtain ⟨hd, hk⟩ := precheck_eq_ok_iff.mp h
  unfold auth1Decision handleAuth1 decisionOn auth1Accept
  rw [hd, orStop, Except.ok_bind']
  dsimp only
  rw [ensure_pos hk, Except.ok_bind', orStop, Except.ok_bind']
  cases hf : findDevice S records (sk • S.base) a1 with
  | none => rfl
  | some m =>
      obtain ⟨id, rec⟩ := m
      -- the identifier names the record, since a map holds it once
      have hfind : records.find? (fun r => r.1 = id) = some (id, rec) := by
        have hmem := List.mem_of_find?_eq_some hf
        cases hg : records.find? (fun r => r.1 = id) with
        | none => simpa using List.find?_eq_none.mp hg _ hmem
        | some r =>
            have hid : r.1 = id := by simpa using List.find?_some hg
            rw [List.inj_on_of_nodup_map hids (List.mem_of_find?_eq_some hg) hmem hid]
      dsimp only [proofsVerify, roleVerifies]
      by_cases h1 : verifyAuthClient S rec.pubkey a1.pid a1.nonceC a1.ephC a1.clientProof = true
      case neg => simp [h1, Stop.wire, errorCode, wireCodeAndMsg]
      by_cases h2 : verifyRerandomization S rec.roleCommitment a1.cPrime a1.pid a1.nonceC a1.ephC
          a1.rerandProof = true
      case neg => simp [h1, h2, Stop.wire, errorCode, wireCodeAndMsg]
      by_cases h3 : verifyRoleSetMembership S
          ⟨allowedRoles, a1.cPrime, a1.pid, a1.nonceC, a1.ephC⟩ a1.branches = true
      case neg => simp [h1, h2, h3, Stop.wire, errorCode, wireCodeAndMsg]
      simp [h1, h2, h3, auth1Pending_eq, pendingOf, hfind]

end Rust

/-! ## The same server twice -/

/-- A device record as the C registry holds it. -/
def entryOf (S : Suite q G) (r : Bytes 32 × Rust.DeviceRecord G) : C.RegistryEntry :=
  ⟨r.1, S.encPoint r.2.pubkey, S.encPoint r.2.roleCommitment⟩

/-- A C server and a Rust server with the same key, the same registry, the same replay keys and
one to eight allowed roles.  The Rust server iterates its registry in the order of `records`.
The C server has a free session slot. -/
structure Counterpart (S : Suite q G) (cfg : C.ServerConfig) (st : C.ServerState) (sk : ZMod q)
    (records : List (Bytes 32 × Rust.DeviceRecord G)) (replay : Rust.MemoryReplayCache) : Prop where
  serverSk : cfg.serverSk = encScalar sk
  serverPub : cfg.serverPub = S.encPoint (sk • S.base)
  registry : st.registry.Perm (records.map (entryOf S))
  ids : (records.map Prod.fst).Nodup
  replay : ∀ key, C.authReplayCacheContains st.replayCache key = replay.contains key
  someRole : cfg.allowedRoles.length ≠ 0
  fewRoles : cfg.allowedRoles.length ≤ maxRoles
  free : ∃ i, st.sessions.findIdx? (· = .free) = some i

section Agreement

variable (S : Suite q G) (cfg : C.ServerConfig) (st : C.ServerState)
  (draws : ℕ → C.Auth2Draws) (payload : List UInt8) (sk : ZMod q)
  (records : List (Bytes 32 × Rust.DeviceRecord G)) (replay : Rust.MemoryReplayCache)

/-- The last entry of the C registry passes. -/
def LastPasses (m : C.Auth1) : Prop :=
  ∃ e, st.registry.getLast? = some e ∧ C.passes S cfg m e = true

/-- The first entry of the C registry that passes has the given key, the role proof verifies, and
the answer is regular. -/
def FirstAnswers (m : C.Auth1) (ephC : G) (pub : Bytes 32) : Prop :=
  C.rolePasses S cfg m = true ∧ ∃ j e, st.registry.findIdx? (C.passes S cfg m) = some j ∧
    st.registry[j]? = some e ∧ e.devicePub = pub ∧ C.AnswerRegular S sk ephC (draws j)

variable [DecidableEq G]

/-- The decisions agree on an AUTH_1 that passed the checks before the registry on both sides.
The Rust server has committed to the first record with the pseudonym. -/
def ProofsAgreeable (a1 : Rust.Auth1 q G) : Prop :=
  match Rust.findDevice S records (sk • S.base) a1 with
  | none => False
  | some m =>
      if Rust.proofsVerify S a1 m.2 then
        if Rust.roleVerifies S cfg.allowedRoles a1 then
          FirstAnswers S cfg st draws sk (a1.wire S) a1.ephC (S.encPoint m.2.pubkey)
        else LastPasses S cfg st (a1.wire S)
      else if C.rolePasses S cfg (a1.wire S) then
        ∀ e ∈ st.registry, C.passes S cfg (a1.wire S) e = false
      else ¬ LastPasses S cfg st (a1.wire S)

/-- The decisions agree.  With an empty registry the payload must be well formed and fresh.
Otherwise both servers refuse it alike before the registry, or it passes both and the comparison
with the registry agrees. -/
def Auth1Agreeable : Prop :=
  if st.registry = [] then ∃ a1, Rust.precheck S replay payload = .ok a1
  else
    RefusedAlike S st.replayCache payload ∨
      ∃ a1, C.precheck S st.replayCache payload = .ok (a1.wire S) ∧
        Rust.precheck S replay payload = .ok a1 ∧ ProofsAgreeable S cfg st draws sk records a1

end Agreement

section

variable [DecidableEq G] [NeZero q] {S : Suite q G} {cfg : C.ServerConfig} {st : C.ServerState}
  {draws : ℕ → C.Auth2Draws} {payload : List UInt8} {sk : ZMod q}
  {records : List (Bytes 32 × Rust.DeviceRecord G)} {replay : Rust.MemoryReplayCache}
  {cap : ℕ} {hdr : Header} {a1 : Rust.Auth1 q G} {m : C.Auth1}

/-! ## What passes on both sides -/

/-- A role proof that the C verifier accepts is accepted by the Rust verifier. -/
theorem roleVerifies_of_rolePasses (h0 : cfg.allowedRoles.length ≠ 0)
    (h8 : cfg.allowedRoles.length ≤ maxRoles) (h : C.rolePasses S cfg (a1.wire S) = true) :
    Rust.roleVerifies S cfg.allowedRoles a1 = true := by
  have hacc : C.acceptsRoleSet S ⟨cfg.allowedRoles, a1.cPrime, a1.pid, a1.nonceC, a1.ephC⟩
      a1.branches = true := h
  exact verifyRoleSetMembership_iff.mpr ((C.acceptsRoleSet_iff h0 h8).mp hacc).1

omit [NeZero q] in
/-- The Rust decoder finds no invalid point in an AUTH_1 that verifies a candidate. -/
theorem decode_valueFault_of_passes {e : C.RegistryEntry}
    (hpre : C.precheck S st.replayCache payload = .ok m) (hp : C.passes S cfg m e = true)
    (hr : C.rolePasses S cfg m = true) :
    FailsWith Rust.ValueFault (Rust.Auth1.decode (q := q) S payload) := by
  have hchecked := (C.verifies_of_passes hpre hp hr).checked
  obtain ⟨hbytes, hcount⟩ := C.Auth1.bytes_of_decode (C.precheck_eq_ok_iff.mp hpre).1
  rw [← hbytes]
  refine Rust.decode_valueFault (Nat.lt_of_le_of_lt hcount (by decide)) fun p hm => ?_
  rcases List.mem_append.mp hm with hm | hm
  · obtain ⟨P, hP, -⟩ := hchecked.keys p hm
    exact ⟨P, hP⟩
  · exact hchecked.points p hm

/-! ## The comparison with the registry -/

/-- The C decision on an AUTH_1 that the Rust server refuses before the registry. -/
theorem decision_ne_of_fault {e : Rust.ProtoError}
    (hreplay : ∀ key, C.authReplayCacheContains st.replayCache key = replay.contains key)
    (hpre : C.precheck S st.replayCache payload = .ok m) (hne : st.registry ≠ [])
    (hR : Rust.precheck S replay payload = .error e) :
    C.decisionOf (C.search (C.verdicts S cap cfg st hdr payload draws) .unknownDevice)
      ≠ .reject (Rust.errorCode e) := by
  obtain ⟨hdec, hfresh, -, -⟩ := C.precheck_eq_ok_iff.mp hpre
  obtain ⟨hbytes, hcount⟩ := C.Auth1.bytes_of_decode hdec
  -- the AUTH_1 is fresh for both servers, so Rust refuses a field
  have hfault : Rust.Auth1.decode S payload = .error e := by
    cases hd : Rust.Auth1.decode S payload with
    | error e' =>
        rw [Rust.precheck, hd] at hR
        cases hR
        rfl
    | ok a1 =>
        rw [decoded_eq_wire hdec hd, hreplay] at hfresh
        rw [Rust.precheck_eq_ok_iff.mpr ⟨hd, hfresh⟩] at hR
        cases hR
  have hfield : Rust.FieldFault e := by
    refine Rust.decode_fieldFault (S := S) (m := m) (Nat.lt_of_le_of_lt hcount (by decide)) e ?_
    rwa [hbytes]
  obtain ⟨c, hc, msg, rfl⟩ := hfield
  rw [Rust.errorCode_wire]
  rcases C.search_cases hpre hne with h | h | ⟨j, e, hp, hr, h⟩
  · rw [h]
    simp only [List.mem_cons, List.not_mem_nil, or_false] at hc
    rcases hc with rfl | rfl | rfl <;> decide
  · rw [h]
    simp only [List.mem_cons, List.not_mem_nil, or_false] at hc
    rcases hc with rfl | rfl | rfl <;> decide
  · obtain ⟨c', hc', msg', hmsg⟩ := decode_valueFault_of_passes hpre hp hr _ hfault
    rw [Rust.ProtoError.wire.injEq] at hmsg
    obtain ⟨rfl, rfl⟩ := hmsg
    rw [h]
    cases hresp : C.auth1Respond S cfg hdr.sessionId hdr.seq e.devicePub m (draws j)
        maxDatagram with
    | ok r => simp [C.decisionOf]
    | error err =>
        rw [C.auth1Respond_fails _ _ _ _ _ err hresp]
        simp only [List.mem_cons, List.not_mem_nil, or_false] at hc'
        rcases hc' with rfl | rfl <;> decide

omit [DecidableEq G] in
/-- The Rust server accepts: the C server must answer the same device. -/
theorem decision_accept_iff (hsk : cfg.serverSk = encScalar sk)
    (hpre : C.precheck S st.replayCache payload = .ok (a1.wire S)) (hne : st.registry ≠ [])
    (pub : Bytes 32) :
    C.decisionOf (C.search (C.verdicts S cap cfg st hdr payload draws) .unknownDevice)
        = .accept pub ↔
      FirstAnswers S cfg st draws sk (a1.wire S) a1.ephC pub := by
  cases hr : C.rolePasses S cfg (a1.wire S) with
  | false =>
      rw [C.search_of_role hpre hr (List.getLast?_eq_some_getLast hne)]
      simp [C.decisionOf, FirstAnswers, hr]
  | true =>
      cases hj : st.registry.findIdx? (C.passes S cfg (a1.wire S)) with
      | none =>
          rw [C.search_of_none hpre hne (List.findIdx?_eq_none_iff.mp hj)]
          simp [C.decisionOf, FirstAnswers, hj]
      | some j =>
          obtain ⟨hlt, -, -⟩ := List.findIdx?_eq_some_iff_getElem.mp hj
          have he := List.getElem?_eq_getElem hlt
          rw [C.search_of_pass hpre hr hj he]
          have hE : (a1.wire S).ephC = S.encPoint a1.ephC := rfl
          have hok := C.auth1Respond_ok_iff hsk hE hdr.sessionId hdr.seq
            st.registry[j].devicePub (draws j)
          constructor
          · intro h
            cases hresp : C.auth1Respond S cfg hdr.sessionId hdr.seq st.registry[j].devicePub
                (a1.wire S) (draws j) maxDatagram with
            | error err =>
                rw [hresp] at h
                cases h
            | ok r =>
                rw [hresp, C.decisionOf, Decision.accept.injEq,
                  C.auth1Respond_devicePub hresp] at h
                exact ⟨hr, j, _, hj, he, h, hok.mp ⟨r, hresp⟩⟩
          · rintro ⟨-, j', e, hj', he', rfl, hreg⟩
            obtain rfl : j = j' := Option.some.inj (hj.symm.trans hj')
            obtain rfl : st.registry[j] = e := Option.some.inj (he.symm.trans he')
            obtain ⟨r, hresp⟩ := hok.mpr hreg
            rw [hresp, C.decisionOf, C.auth1Respond_devicePub hresp]

omit [DecidableEq G] [NeZero q] in
/-- A failed role proof on both sides: the last entry decides. -/
theorem decision_role_iff (hpre : C.precheck S st.replayCache payload = .ok m)
    (hne : st.registry ≠ []) (hr : C.rolePasses S cfg m = false) :
    (C.decisionOf (C.search (C.verdicts S cap cfg st hdr payload draws) .unknownDevice)
        = .reject C.AuthErr.roleNotPermitted.code ↔ LastPasses S cfg st m) ∧
    (C.decisionOf (C.search (C.verdicts S cap cfg st hdr payload draws) .unknownDevice)
        = .reject C.AuthErr.proofVerify.code ↔ ¬ LastPasses S cfg st m) := by
  have hlast := List.getLast?_eq_some_getLast hne
  have hiff : LastPasses S cfg st m ↔ C.passes S cfg m (st.registry.getLast hne) = true := by
    simp [LastPasses, hlast]
  rw [C.search_of_role hpre hr hlast, hiff]
  cases C.passes S cfg m (st.registry.getLast hne) with
  | true => exact ⟨by decide, by decide⟩
  | false => exact ⟨by decide, by decide⟩

omit [DecidableEq G] [NeZero q] in
/-- A proof that fails on the Rust side, with a role proof that verifies on the C side: no entry
may pass. -/
theorem decision_proof_iff (hpre : C.precheck S st.replayCache payload = .ok m)
    (hne : st.registry ≠ []) (hr : C.rolePasses S cfg m = true) :
    C.decisionOf (C.search (C.verdicts S cap cfg st hdr payload draws) .unknownDevice)
        = .reject C.AuthErr.proofVerify.code ↔
      ∀ e ∈ st.registry, C.passes S cfg m e = false := by
  constructor
  · intro h
    cases hj : st.registry.findIdx? (C.passes S cfg m) with
    | none => exact List.findIdx?_eq_none_iff.mp hj
    | some j =>
        obtain ⟨hlt, -, -⟩ := List.findIdx?_eq_some_iff_getElem.mp hj
        rw [C.search_of_pass hpre hr hj (List.getElem?_eq_getElem hlt)] at h
        cases hresp : C.auth1Respond S cfg hdr.sessionId hdr.seq st.registry[j].devicePub m
            (draws j) maxDatagram with
        | ok r =>
            rw [hresp] at h
            cases h
        | error err =>
            rw [hresp, C.auth1Respond_fails _ _ _ _ _ err hresp] at h
            exact absurd h (by decide)
  · intro h
    rw [C.search_of_none hpre hne h]
    rfl

/-- The comparison with the registry, for an AUTH_1 that passed the checks before it. -/
theorem proofs_agree_iff (hpeer : Counterpart S cfg st sk records replay)
    (hpre : C.precheck S st.replayCache payload = .ok (a1.wire S)) (hne : st.registry ≠ []) :
    C.decisionOf (C.search (C.verdicts S cap cfg st hdr payload draws) .unknownDevice)
        = Rust.decisionOn S sk records cfg.allowedRoles a1 ↔
      ProofsAgreeable S cfg st draws sk records a1 := by
  unfold Rust.decisionOn ProofsAgreeable
  cases Rust.findDevice S records (sk • S.base) a1 with
  | none =>
      refine iff_false_intro ?_
      dsimp only
      rcases C.search_cases hpre hne with h | h | ⟨j, e, -, -, h⟩
      · rw [h]
        decide
      · rw [h]
        decide
      · rw [h]
        cases hresp : C.auth1Respond S cfg hdr.sessionId hdr.seq e.devicePub (a1.wire S) (draws j)
            maxDatagram with
        | ok r => simp [C.decisionOf]
        | error err =>
            rw [C.auth1Respond_fails _ _ _ _ _ err hresp]
            decide
  | some d =>
      dsimp only
      cases hp : Rust.proofsVerify S a1 d.2 with
      | true =>
          rw [if_pos rfl, if_pos rfl]
          cases hrole : Rust.roleVerifies S cfg.allowedRoles a1 with
          | true =>
              rw [if_pos rfl, if_pos rfl]
              exact decision_accept_iff hpeer.serverSk hpre hne _
          | false =>
              have hr : C.rolePasses S cfg (a1.wire S) = false := by
                rw [Bool.eq_false_iff]
                intro h
                rw [roleVerifies_of_rolePasses hpeer.someRole hpeer.fewRoles h] at hrole
                cases hrole
              rw [if_neg (by decide), if_neg (by decide)]
              exact (decision_role_iff hpre hne hr).1
      | false =>
          rw [if_neg (by decide), if_neg (by decide)]
          cases hr : C.rolePasses S cfg (a1.wire S) with
          | true =>
              rw [if_pos rfl]
              exact decision_proof_iff hpre hne hr
          | false =>
              rw [if_neg (by decide)]
              exact (decision_role_iff hpre hne hr).2

omit [NeZero q] in
/-- The Rust server finds no layout fault after the checks before the registry. -/
theorem decisionOn_ne_of_fault {e : C.AuthErr} (h : C.PrecheckFault e) :
    Rust.decisionOn S sk records cfg.allowedRoles a1 ≠ .reject e.code := by
  have hcodes : e.code ≠ Rust.ErrorCode.unknownDevice.asU16 ∧
      e.code ≠ Rust.ErrorCode.roleNotPermitted.asU16 ∧
      e.code ≠ Rust.ErrorCode.proofVerifyFailed.asU16 := by
    simp only [C.PrecheckFault, List.mem_cons, List.not_mem_nil, or_false] at h
    rcases h with rfl | rfl | rfl | rfl | rfl <;> decide
  obtain ⟨hunknown, hrole, hproof⟩ := hcodes
  unfold Rust.decisionOn
  split
  next => exact fun he => hunknown (Decision.reject.inj he).symm
  next =>
    split
    next =>
      split
      next => exact fun h => by cases h
      next => exact fun he => hrole (Decision.reject.inj he).symm
    next => exact fun he => hproof (Decision.reject.inj he).symm

omit [NeZero q] in
/-- Over an empty registry the C server knows no device. -/
theorem decision_empty_iff (hpeer : Counterpart S cfg st sk records replay)
    (hempty : st.registry = []) (rustDraws : Rust.Auth2Draws) :
    C.decisionOf (C.search (C.verdicts S cap cfg st hdr payload draws) .unknownDevice)
        = Rust.auth1Decision S sk records replay cfg.allowedRoles hdr.sessionId hdr.seq payload
          rustDraws ↔
      ∃ a1, Rust.precheck S replay payload = .ok a1 := by
  have hrecords : records = [] := by
    have hlen := hpeer.registry.length_eq
    rw [hempty, List.length_map] at hlen
    exact List.length_eq_zero_iff.mp hlen.symm
  have hsearch : C.search (C.verdicts S cap cfg st hdr payload draws) .unknownDevice
      = .error .unknownDevice := by
    rw [C.verdicts, hempty]
    rfl
  rw [hsearch]
  cases hR : Rust.precheck S replay payload with
  | error e =>
      rw [Rust.auth1Decision_of_fault hR]
      refine iff_of_false (fun h => ?_) (by rintro ⟨a1, h⟩; cases h)
      rcases Rust.precheck_fails replay payload e hR with
        (⟨msg, rfl⟩ | ⟨msg, rfl⟩ | ⟨c, hc, msg, rfl⟩) | ⟨msg, rfl⟩
      · exact absurd h (by rw [Rust.errorCode_wire]; decide)
      · exact absurd h (by rw [Rust.errorCode_wire]; decide)
      · rw [Rust.errorCode_wire] at h
        simp only [List.mem_cons, List.not_mem_nil, or_false] at hc
        rcases hc with rfl | rfl | rfl <;> exact absurd h (by decide)
      · exact absurd h (by rw [Rust.errorCode_wire]; decide)
  | ok a1 =>
      rw [Rust.auth1Decision_of_pass hpeer.ids hR, hrecords]
      exact ⟨fun _ => ⟨a1, rfl⟩, fun _ => rfl⟩

omit [NeZero q] in
/-- The C server refuses the AUTH_1 before the registry: so must the Rust server. -/
theorem decision_refused_iff (hpeer : Counterpart S cfg st sk records replay)
    (hne : st.registry ≠ []) {e : C.AuthErr}
    (hC : C.precheck S st.replayCache payload = .error e) (rustDraws : Rust.Auth2Draws) :
    C.decisionOf (C.search (C.verdicts S cap cfg st hdr payload draws) .unknownDevice)
        = Rust.auth1Decision S sk records replay cfg.allowedRoles hdr.sessionId hdr.seq payload
          rustDraws ↔
      SameRefusal S st.replayCache replay payload := by
  rw [C.search_of_fault hC hne]
  cases hR : Rust.precheck S replay payload with
  | error e' =>
      rw [Rust.auth1Decision_of_fault hR, C.decisionOf, Decision.reject.injEq,
        sameRefusal_iff hC hR]
  | ok a1 =>
      rw [Rust.auth1Decision_of_pass hpeer.ids hR]
      refine iff_of_false (decisionOn_ne_of_fault (C.precheck_fails _ _ e hC)).symm ?_
      rintro ⟨e₁, e₂, -, h, -⟩
      rw [hR] at h
      cases h

/-- The C server goes on to the registry: so must the Rust server, with the same message. -/
theorem decision_passed_iff (hpeer : Counterpart S cfg st sk records replay)
    (hne : st.registry ≠ []) (hC : C.precheck S st.replayCache payload = .ok m)
    (rustDraws : Rust.Auth2Draws) :
    C.decisionOf (C.search (C.verdicts S cap cfg st hdr payload draws) .unknownDevice)
        = Rust.auth1Decision S sk records replay cfg.allowedRoles hdr.sessionId hdr.seq payload
          rustDraws ↔
      ∃ a1, m = a1.wire S ∧ Rust.precheck S replay payload = .ok a1 ∧
        ProofsAgreeable S cfg st draws sk records a1 := by
  cases hR : Rust.precheck S replay payload with
  | error e' =>
      rw [Rust.auth1Decision_of_fault hR]
      refine iff_of_false (decision_ne_of_fault hpeer.replay hC hne hR) ?_
      rintro ⟨a1, -, h, -⟩
      cases h
  | ok a1 =>
      rw [Rust.auth1Decision_of_pass hpeer.ids hR]
      have hwire := decoded_eq_wire (C.precheck_eq_ok_iff.mp hC).1
        (Rust.precheck_eq_ok_iff.mp hR).1
      subst hwire
      rw [proofs_agree_iff hpeer hC hne]
      constructor
      · exact fun h => ⟨a1, rfl, rfl, h⟩
      · rintro ⟨a1', -, h, hagree⟩
        rwa [Except.ok.inj h]

/-- The two servers agree on an AUTH_1 exactly in the cases of `Auth1Agreeable`. -/
theorem auth1_decisions_agree_iff (hpeer : Counterpart S cfg st sk records replay) (cap : ℕ)
    (job : C.Job) (hdr : Header) (payload : List UInt8) (rustDraws : Rust.Auth2Draws) :
    C.auth1Decision S cap cfg st job hdr payload
        = Rust.auth1Decision S sk records replay cfg.allowedRoles hdr.sessionId hdr.seq payload
          rustDraws ↔
      Auth1Agreeable S cfg st job.auth payload sk records replay := by
  obtain ⟨i, hfree⟩ := hpeer.free
  rw [C.auth1Decision_eq hfree]
  unfold Auth1Agreeable
  by_cases hempty : st.registry = []
  · rw [if_pos hempty]
    exact decision_empty_iff hpeer hempty rustDraws
  rw [if_neg hempty, refusedAlike_iff hpeer.replay]
  cases hC : C.precheck S st.replayCache payload with
  | error e =>
      rw [decision_refused_iff hpeer hempty hC]
      exact ⟨.inl, fun h => h.resolve_right (by rintro ⟨a1, h, -⟩; cases h)⟩
  | ok m =>
      rw [decision_passed_iff hpeer hempty hC]
      have hno : ¬ SameRefusal S st.replayCache replay payload := by
        rintro ⟨e₁, e₂, h, -⟩
        rw [hC] at h
        cases h
      simp only [hno, false_or, Except.ok.injEq]

end

/-! ## Where they differ -/

/-- A C server of the small suite that has enrolled a device. -/
def demoEnrolled (key commitment : ZMod 11) : C.ServerState :=
  ⟨[entryOf smallSuite (byteString 31 1, ⟨key, commitment⟩)], C.authSessionTableInit 2,
    C.authReplayCacheInit⟩

/-- Its configuration. -/
def demoTwoRoles : C.ServerConfig :=
  ⟨encScalar demoServerKey, smallSuite.encPoint demoServerKey, none, Rust.defaultAllowedRoles⟩

theorem demoEnrolled_counterpart (key commitment : ZMod 11) :
    Counterpart smallSuite demoTwoRoles (demoEnrolled key commitment) 5
      [(byteString 31 1, ⟨key, commitment⟩)] (Rust.MemoryReplayCache.new 4) where
  serverSk := rfl
  serverPub := by
    rw [demoTwoRoles]
    congr 1
  registry := List.Perm.refl _
  ids := by simp
  replay := by
    intro k
    simp [demoEnrolled, C.authReplayCacheInit, C.authReplayCacheContains,
      Rust.MemoryReplayCache.contains, Rust.MemoryReplayCache.new]
  someRole := by decide
  fewRoles := by decide
  free := ⟨0, rfl⟩

/-- The decision of the C server. -/
def demoDecisionC (key commitment : ZMod 11) (payload : List UInt8) : Decision :=
  C.auth1Decision smallSuite 4 demoTwoRoles (demoEnrolled key commitment) (C.demoJob [])
    (Header.fresh pktAuth1 (byteString 15 9) 1) payload

/-- The decision of the Rust server. -/
def demoDecisionRust (key commitment : ZMod 11) (payload : List UInt8) : Decision :=
  Rust.auth1Decision smallSuite demoServerKey [(byteString 31 1, ⟨key, commitment⟩)]
    (Rust.MemoryReplayCache.new 4) demoTwoRoles.allowedRoles
    (Header.fresh pktAuth1 (byteString 15 9) 1).sessionId
    (Header.fresh pktAuth1 (byteString 15 9) 1).seq payload
    ⟨byteString 31 8, byteString 63 4, byteString 63 2⟩

/-- The AUTH_1 of the device with the key 3 and the commitment 2. -/
def demoPayload : List UInt8 := demoRolesAuth1.drop headerLen

/-- The same AUTH_1 with the order of the group added to the response of the client proof. -/
def demoShiftedPayload : List UInt8 :=
  match C.authAuth1Decode demoPayload with
  | .ok m => C.Auth1.bytes { m with clientProof :=
      ⟨m.clientProof.a, natLE 32 (leNat m.clientProof.s.val + 11), natLE_length _ _⟩ }
  | .error _ => []

/-- Both servers accept the AUTH_1 of the enrolled device. -/
theorem auth1_decisions_agree_enrolled :
    demoDecisionC 3 2 demoPayload = .accept (smallSuite.encPoint 3) ∧
      Auth1Agreeable smallSuite demoTwoRoles (demoEnrolled 3 2) (C.demoJob []).auth demoPayload 5
        [(byteString 31 1, ⟨3, 2⟩)] (Rust.MemoryReplayCache.new 4) := by
  obtain ⟨hC, hR⟩ : demoDecisionC 3 2 demoPayload = .accept (smallSuite.encPoint 3) ∧
      demoDecisionRust 3 2 demoPayload = .accept (smallSuite.encPoint 3) := by
    decide +kernel
  have hiff : ∀ key commitment payload,
      demoDecisionC key commitment payload = demoDecisionRust key commitment payload ↔
        Auth1Agreeable smallSuite demoTwoRoles (demoEnrolled key commitment) (C.demoJob []).auth
          payload 5 [(byteString 31 1, ⟨key, commitment⟩)] (Rust.MemoryReplayCache.new 4) :=
    fun key commitment payload => auth1_decisions_agree_iff
      (demoEnrolled_counterpart key commitment) 4 (C.demoJob []) _ payload _
  refine ⟨hC, ?_⟩
  rw [← hiff, hC, hR]

/-- An AUTH_1 of a device that is not enrolled has a failed proof for C and an unknown device for
Rust.  An AUTH_1 with a response that is not canonical is accepted by C alone. -/
theorem auth1_decisions_differ :
    (demoDecisionC 4 2 demoPayload = .reject C.AuthErr.proofVerify.code ∧
      demoDecisionRust 4 2 demoPayload = .reject Rust.ErrorCode.unknownDevice.asU16) ∧
    (demoDecisionC 3 2 demoShiftedPayload = .accept (smallSuite.encPoint 3) ∧
      demoDecisionRust 3 2 demoShiftedPayload
        = .reject Rust.ErrorCode.nonCanonicalScalar.asU16) ∧
    C.AuthErr.proofVerify.code ≠ Rust.ErrorCode.unknownDevice.asU16 := by
  decide +kernel

end ZkArche
