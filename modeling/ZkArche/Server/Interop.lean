import ZkArche.Crypto.SmallSuite
import ZkArche.Proto.ClientSpecC
import ZkArche.Proto.ClientSpecRust
import ZkArche.Proto.HonestRun
import ZkArche.Server.CandidatesC

/-!
# Honest parties complete

A device with a C or a Rust client and a server in C or in Rust follow the protocol.  The
packets of each are bytes to the other.

The values of the exchange do not depend on the implementations (`Honest`), so each party is
considered alone.  A client sends the AUTH_1 and, when it receives the AUTH_2, the AUTH_3.  A
server that receives the AUTH_1 answers with the AUTH_2, and acknowledges the AUTH_3.  Both
derive the same confirmation, and with it the same session key.
-/

namespace ZkArche

/-- The packets of an authentication, in order, and the session key it ends with. -/
structure Session where
  auth1 : List UInt8
  auth2 : List UInt8
  auth3 : List UInt8
  ack : List UInt8
  sessionKey : Bytes 32

variable {q : ℕ} {G : Type} [AddCommGroup G] [Module (ZMod q) G]

/-- The session of an honest authentication.  The client chooses the session identifier and the
sequence numbers. -/
def Honest.session (S : Suite q G) (h : Honest q) (sid : SessionId) (seq₁ seq₃ : UInt32) :
    Session where
  auth1 := frame pktAuth1 sid seq₁ ((h.auth1 S).encode S)
  auth2 := frame pktAuth2 sid seq₁ ((h.auth2 S).encode S)
  auth3 := frame pktAuth3 sid seq₃ ((h.confirmation S).tag S .c2s).val
  ack := frame pktAuthAck sid seq₃ [ackByte]
  sessionKey := (h.confirmation S).sessionKey S

/-! ## The parties -/

/-- The context of a C client holds the credentials of the device. -/
structure C.Holds (S : Suite q G) (h : Honest q) (ctx : C.ClientCtx) : Prop where
  deviceSk : ctx.deviceSk = encScalar h.x
  devicePub : ctx.devicePub = S.encPoint (h.devicePub S)
  hasPinnedServer : ctx.hasPinnedServer = true
  serverPub : ctx.serverPubPinned = S.encPoint (h.serverPub S)
  hasRole : ctx.hasRole = true
  roleCode : ctx.roleCode = h.roleCode
  roleBlind : ctx.roleBlind = encScalar h.blind
  roleCommitment : ctx.roleCommitment = S.encPoint (h.commitment S)

/-- The store of a Rust client holds the credentials of the device, and its transport sends. -/
structure Rust.Holds (S : Suite q G) (h : Honest q) (w : Rust.World q G) : Prop where
  deviceRoot : ∃ root, w.store.deviceRoot = some root ∧ Rust.deriveDeviceScalar S root = h.x
  serverPub : w.store.serverPub = some (h.serverPub S)
  roleCredential : w.store.roleCredential = some ⟨h.roleCode, h.blind, h.commitment S⟩
  loads : w.store.loadRootFails = none ∧ w.store.loadServerPubFails = none ∧
    w.store.loadRoleFails = none
  sends : ∀ n, w.transport.sendResult n = .ok ()

/-- A C server has the key of the server and has enrolled the device.  No other entry has the
pseudonym of the AUTH_1, its replay key is fresh, and a session slot is free. -/
structure C.Serves (S : Suite q G) (h : Honest q) (cfg : C.ServerConfig) (st : C.ServerState)
    (job : C.Job) : Prop where
  serverSk : cfg.serverSk = encScalar h.sk
  serverPub : cfg.serverPub = S.encPoint (h.serverPub S)
  allowedRoles : cfg.allowedRoles = h.allowedRoles
  enrolled : ∃ before after id, st.registry = before
      ++ ⟨id, S.encPoint (h.devicePub S), S.encPoint (h.commitment S)⟩ :: after ∧
    job.auth before.length = h.server ∧
    ∀ e ∈ before ++ after, C.authComputePid S e.devicePub h.client.nonce
      (S.encPoint (h.ephC S)) cfg.serverPub ≠ h.pid S
  fresh : C.authReplayCacheContains st.replayCache
    (C.authReplayKey S (h.pid S) h.client.nonce (S.encPoint (h.ephC S))) = false
  free : ∃ i, st.sessions.findIdx? (· = .free) = some i

/-- A Rust server has enrolled the device.  No other record has the pseudonym of the AUTH_1, and
its replay key is fresh. -/
structure Rust.Serves (S : Suite q G) (h : Honest q)
    (records : List (Bytes 32 × Rust.DeviceRecord G)) (replay : Rust.MemoryReplayCache) :
    Prop where
  enrolled : ∃ before after id, records = before
      ++ (id, ⟨h.devicePub S, h.commitment S⟩) :: after ∧
    ∀ r ∈ before ++ after, Rust.computePid S r.2.pubkey h.client.nonce (h.ephC S)
      (h.serverPub S) ≠ h.pid S
  fresh : replay.contains (Rust.replayKey S (h.pid S) h.client.nonce (h.ephC S)) = false

/-- A client of the device. -/
inductive HonestClient (S : Suite q G) (h : Honest q) where
  | c (ctx : C.ClientCtx) (holds : C.Holds S h ctx)
  | rust (w : Rust.World q G) (maxRetries : ℕ) (sessionId : Bytes 32) (holds : Rust.Holds S h w)

/-- A server of the device. -/
inductive HonestServer (S : Suite q G) (h : Honest q) where
  | c (cap : ℕ) (cfg : C.ServerConfig) (st : C.ServerState) (job : C.Job)
      (serves : C.Serves S h cfg st job)
  | rust (records : List (Bytes 32 × Rust.DeviceRecord G)) (replay : Rust.MemoryReplayCache)
      (serves : Rust.Serves S h records replay)

/-- The random bytes of the device, as the Rust client draws them. -/
def Honest.clientDraws (h : Honest q) (sessionId : Bytes 32) : Rust.AuthClientDraws :=
  ⟨h.client.nonce, h.client.eph, h.client.proof, h.client.delta, h.client.rerand, h.client.role,
    sessionId⟩

/-- The transport delivers the packets of the server. -/
def Rust.World.deliver (w : Rust.World q G) (s : Session) : Rust.World q G :=
  { w with transport := { w.transport with inbox := [.ok s.auth2, .ok s.ack] } }

variable {S : Suite q G} {h : Honest q} [DecidableEq G]

/-- The client sends and takes the packets of the session, completes, and holds its key. -/
def HonestClient.Completes : HonestClient S h → Session → Prop
  | .c ctx _, s => ∃ ctx₁ ctx₂ ctx₃ ctx₄,
      C.authClientBuildAuth1 S ctx h.allowedRoles h.client maxDatagram = (ctx₁, .ok s.auth1) ∧
      C.authClientHandleAuth2 S ctx₁ s.auth2 = (ctx₂, .ok ()) ∧
      C.authClientBuildAuth3 S ctx₂ maxDatagram = (ctx₃, .ok s.auth3) ∧
      C.authClientHandleAuthAck ctx₃ s.ack = (ctx₄, .ok ()) ∧
      ctx₄.authComplete = true ∧ ctx₄.sessionKey = s.sessionKey
  | .rust w maxRetries sessionId _, s => ∃ w',
      (Rust.runAuthClient S maxRetries h.allowedRoles (h.clientDraws sessionId)).exec
        (w.deliver s) = (.ok s.sessionKey, w') ∧
      w'.log = [.received s.ack, .sent s.auth3, .received s.auth2, .sent s.auth1] ++ w.log

/-- The server takes and sends the packets of the session, and holds its key. -/
def HonestServer.Completes : HonestServer S h → Session → Prop
  | .c cap cfg st job _, s => ∃ st' p hdr payload, ∃ i : ℕ,
      (C.dispatch S cap cfg { job with input := s.auth1 }).run st = (st', s.auth2) ∧
      st.sessions[i]? = some C.Slot.free ∧ st'.sessions[i]? = some (C.Slot.auth p) ∧
      p.sessionKey = s.sessionKey ∧
      C.authHeaderDecode s.auth3 = .ok (hdr, payload) ∧ hdr.pktType = pktAuth3 ∧
      C.authServerHandleAuth3 S p hdr.sessionId hdr.seq payload maxDatagram = .ok s.ack
  -- the session key is a local variable of `handle_auth_1`
  | .rust records replay _, s => ∃ hdr₁ payload₁ a1 replay' p hdr₃ payload₃,
      Rust.parsePacket s.auth1 = .ok (hdr₁, payload₁) ∧ hdr₁.pktType = pktAuth1 ∧
      Rust.handleAuth1 S (.ok h.sk) records replay h.allowedRoles hdr₁.sessionId hdr₁.seq payload₁
        h.serverDraws = (replay', .ok p) ∧
      p.responsePacket = s.auth2 ∧ Rust.Auth1.decode S payload₁ = .ok a1 ∧
      Rust.deriveSessionKey S (scalarOf h.serverDraws.eph) a1.ephC a1.nonceC h.serverDraws.nonce
        a1.pid a1.ephC ((scalarOf h.serverDraws.eph : ZMod q) • S.base) = s.sessionKey ∧
      Rust.parsePacket s.auth3 = .ok (hdr₃, payload₃) ∧ hdr₃.pktType = pktAuth3 ∧
      hdr₃.sessionId = p.sessionId ∧
      Rust.handleAuth3 p hdr₃.sessionId hdr₃.seq payload₃ = .ok s.ack

/-! ## Confirmations -/

omit [DecidableEq G] in
/-- The client multiplies its secret with the point of the server. -/
theorem Honest.shared_eq : S.encPoint (h.ephSecret • h.ephS S) = (h.confirmation S).shared :=
  congrArg S.encPoint (smul_comm _ _ _)

/-! ## The C server -/

section

variable [Fact q.Prime] (hn : h.NonDegenerate S) (hrole : h.roleCode ∈ h.allowedRoles)
  (h8 : h.allowedRoles.length ≤ maxRoles)

include hrole h8 in
omit [Fact q.Prime] in
theorem Honest.auth1_count : ((h.auth1 S).wire S).branches.length ≤ maxRoles := by
  show ((h.branches S).map (C.encBranch S)).length ≤ maxRoles
  rw [List.length_map, (roleSetHolds hrole).count]
  exact h8

include hrole h8 in
omit [Fact q.Prime] in
/-- The AUTH_1 fits into a packet. -/
theorem Honest.auth1_length : ((h.auth1 S).encode S).length ≤ maxPayload := by
  have hcount := Honest.auth1_count (S := S) hrole h8
  rw [Rust.Auth1.encode_eq, C.Auth1.bytes_length]
  simp only [maxRoles, maxPayload, maxDatagram, headerLen] at hcount ⊢
  omega

include hrole h8 in
omit [Fact q.Prime] in
theorem Honest.auth1_decodes :
    C.authAuth1Decode ((h.auth1 S).encode S) = .ok ((h.auth1 S).wire S) := by
  rw [Rust.Auth1.encode_eq]
  exact C.Auth1.decode_bytes (Honest.auth1_count hrole h8)

namespace C

variable {cfg : ServerConfig} {st : ServerState} {job : Job}

include hn hrole h8

/-- The AUTH_1 passes the checks that do not depend on a candidate. -/
theorem Serves.precheck (hs : Serves S h cfg st job) :
    C.precheck S st.replayCache ((h.auth1 S).encode S) = .ok ((h.auth1 S).wire S) := by
  refine precheck_eq_ok_iff.mpr ⟨Honest.auth1_decodes hrole h8, hs.fresh, ?_, ?_⟩
  · exact authCheckPoint_encPoint S hn.ephC
  · have hc : authCheckPoint S ((h.auth1 S).wire S).cPrime = .ok () :=
      authCheckPoint_encPoint S hn.cPrime
    simp only [checkPointOrIdentity, hc]

/-- The role proof passes. -/
theorem Serves.rolePasses (hs : Serves S h cfg st job) :
    C.rolePasses S cfg ((h.auth1 S).wire S) = true := by
  have h0 : h.allowedRoles.length ≠ 0 := (List.length_pos_of_mem hrole).ne'
  have hacc : C.acceptsRoleSet S (h.binding S) (h.branches S) = true :=
    (C.acceptsRoleSet_iff h0 h8).mpr ⟨Honest.roleSetHolds hrole, hn.not_roleSetDegenerate⟩
  rw [C.rolePasses, hs.allowedRoles]
  exact hacc

omit hrole h8 [DecidableEq G] in
/-- The entry of the device passes. -/
theorem Serves.passes (hs : Serves S h cfg st job) (id : Bytes 32) :
    C.passes S cfg ((h.auth1 S).wire S)
      ⟨id, S.encPoint (h.devicePub S), S.encPoint (h.commitment S)⟩ = true := by
  simp only [C.passes, Bool.and_eq_true, decide_eq_true_eq, hs.serverPub]
  refine ⟨⟨?_, rfl⟩, ?_⟩
  · exact (authVerifyAuthClient_encProof S).mpr hn.client_strict
  · exact (authVerifyRerandomization_encProof S).mpr hn.rerand_strict

omit hrole h8 [DecidableEq G] in
/-- The entry of the device is the first that passes. -/
theorem Serves.findIdx? (hs : Serves S h cfg st job) :
    ∃ j e, st.registry.findIdx? (C.passes S cfg ((h.auth1 S).wire S)) = some j ∧
      st.registry[j]? = some e ∧ job.auth j = h.server := by
  obtain ⟨before, after, id, hreg, hdraws, hother⟩ := hs.enrolled
  have hbefore : before.findIdx? (C.passes S cfg ((h.auth1 S).wire S)) = none := by
    rw [List.findIdx?_eq_none_iff]
    intro e he
    have hpid : ¬ authComputePid S e.devicePub ((h.auth1 S).wire S).nonceC
        ((h.auth1 S).wire S).ephC cfg.serverPub = ((h.auth1 S).wire S).pid :=
      hother e (List.mem_append_left after he)
    simp [C.passes, hpid]
  refine ⟨before.length, ⟨id, S.encPoint (h.devicePub S), S.encPoint (h.commitment S)⟩, ?_, ?_,
    hdraws⟩
  · rw [hreg, List.findIdx?_append, hbefore, List.findIdx?_cons, if_pos (hs.passes hn id)]
    simp
  · rw [hreg, List.getElem?_append_right le_rfl, Nat.sub_self]
    rfl

omit hrole h8 [DecidableEq G] in
/-- The answer to the AUTH_1 derives the confirmation. -/
theorem Serves.respond (hs : Serves S h cfg st job) (sid : SessionId) (seq : UInt32)
    (pub : Bytes 32) :
    auth1Respond S cfg sid seq pub ((h.auth1 S).wire S) h.server maxDatagram
      = .ok (pendingOf S sid pub (h.confirmation S),
          frame pktAuth2 sid seq ((h.auth2 S).encode S)) := by
  have hnonce : (scalarOf h.server.proof : ZMod q) • S.base ≠ 0 := hn.server.1
  have hshared : h.ephSecretS • h.ephC S ≠ 0 := smul_ne_zero hn.ephSecretS hn.ephC
  have hconf : serverConfirmation cfg ((h.auth1 S).wire S) (encProof S (h.serverProof S))
      h.server.nonce (S.encPoint (h.ephS S)) (S.encPoint (h.ephSecretS • h.ephC S))
      = h.confirmation S := by
    rw [serverConfirmation, hs.serverPub]
    rfl
  refine auth1Respond_eq_ok_iff.mpr ⟨by decide, S.encPoint (h.ephS S),
    encProof S (h.serverProof S), S.encPoint (h.ephSecretS • h.ephC S), ?_, ?_, ?_, ?_, ?_⟩
  · exact authScalarmultBase_encScalar S hn.ephS
  · rw [hs.serverSk]
    exact authProveAuthServer_eq S h.server.nonce (h.ephS S) hnonce hn.serverPub
  · exact authScalarmult_encScalar S hshared
  · rw [hconf]
  · rw [hconf]
    rfl

/-- The C server completes. -/
theorem Serves.completes (hs : Serves S h cfg st job) (cap : ℕ) (sid : SessionId)
    (seq₁ seq₃ : UInt32) :
    (HonestServer.c cap cfg st job hs).Completes (h.session S sid seq₁ seq₃) := by
  obtain ⟨i, hfree⟩ := hs.free
  obtain ⟨j, e, hj, he, hdraws⟩ := hs.findIdx? hn
  have hsearch : search (verdicts S cap cfg st (Header.fresh pktAuth1 sid seq₁)
      ((h.auth1 S).encode S) job.auth) .unknownDevice
      = .ok (pendingOf S sid e.devicePub (h.confirmation S), (h.session S sid seq₁ seq₃).auth2) := by
    rw [search_of_pass (hs.precheck hn hrole h8) (hs.rolePasses hn hrole h8) hj he, hdraws]
    exact hs.respond hn sid seq₁ e.devicePub
  have hlt := (List.findIdx?_eq_some_iff_getElem.mp hfree).1
  let p := pendingOf S sid e.devicePub (h.confirmation S)
  let st' : ServerState := { st with
    sessions := st.sessions.set i (.auth p)
    replayCache := remember S cap st.replayCache ((h.auth1 S).encode S) }
  have hserve : serve S cap cfg st { job with input := (h.session S sid seq₁ seq₃).auth1 }
      (Header.fresh pktAuth1 sid seq₁) ((h.auth1 S).encode S)
      = (st', .ok (h.session S sid seq₁ seq₃).auth2) := by
    rw [serve_auth1 rfl, serveAuth1, hfree]
    simp only [hsearch, st', p]
  refine ⟨st', p, Header.fresh pktAuth3 sid seq₃, _, i, ?_, free_of_findIdx? hfree, ?_, rfl,
    authHeaderDecode_frame _ _ _ _, rfl, ?_⟩
  · rw [dispatch_run st (authHeaderDecode_frame pktAuth1 sid seq₁ _), hserve]
    rfl
  · rw [getElem?_set_slot, if_pos ⟨rfl, hlt⟩]
  · exact authServerHandleAuth3_eq_ok_iff.mpr ⟨rfl, rfl, by decide, rfl⟩

end C

/-! ## The Rust server -/

namespace Rust

variable {records : List (Bytes 32 × DeviceRecord G)} {replay : MemoryReplayCache}

omit [DecidableEq G] [Fact q.Prime] in
/-- The record of the device is the first with the pseudonym. -/
theorem Serves.findDevice (hs : Serves S h records replay) :
    ∃ id, Rust.findDevice S records (h.serverPub S) (h.auth1 S)
      = some (id, ⟨h.devicePub S, h.commitment S⟩) := by
  obtain ⟨before, after, id, rfl, hother⟩ := hs.enrolled
  refine ⟨id, ?_⟩
  have hbefore : before.find? (fun r => decide (computePid S r.2.pubkey (h.auth1 S).nonceC
      (h.auth1 S).ephC (h.serverPub S) = (h.auth1 S).pid)) = none := by
    rw [List.find?_eq_none]
    intro r hr hpid
    exact hother r (List.mem_append_left after hr) (of_decide_eq_true hpid)
  rw [Rust.findDevice, List.find?_append, hbefore, Option.none_or]
  exact List.find?_cons_of_pos (decide_eq_true rfl)

include hn hrole h8

/-- The Rust server accepts the AUTH_1. -/
theorem Serves.accepts (hs : Serves S h records replay) (sid : SessionId) (seq : UInt32) :
    ∃ id, auth1Accept S (.ok h.sk) records replay h.allowedRoles sid seq ((h.auth1 S).encode S)
        h.serverDraws
      = .ok (replayKey S (h.pid S) h.client.nonce (h.ephC S),
          pendingOf S sid seq id (h.confirmation S)) := by
  obtain ⟨id, hfind⟩ := hs.findDevice
  refine ⟨id, auth1Accept_eq_ok_iff.mpr ⟨h.auth1 S, h.sk, id, ⟨h.devicePub S, h.commitment S⟩,
    Auth1.decode_eq_ok_iff.mpr ⟨rfl, hn.auth1_proper hrole h8⟩, hs.fresh, rfl, ?_, rfl⟩⟩
  refine ⟨hfind, verifyAuthClient_prove S _ _ _ _ _, ?_, ?_⟩
  · exact decide_eq_true hn.rerand_strict.eqn
  · exact verifyRoleSetMembership_iff.mpr (Honest.roleSetHolds hrole)

/-- The Rust server completes. -/
theorem Serves.completes (hs : Serves S h records replay) (sid : SessionId)
    (seq₁ seq₃ : UInt32) :
    (HonestServer.rust records replay hs).Completes (h.session S sid seq₁ seq₃) := by
  obtain ⟨id, haccept⟩ := hs.accepts hn hrole h8 sid seq₁
  refine ⟨Header.fresh pktAuth1 sid seq₁, (h.auth1 S).encode S, h.auth1 S,
    (replay.insert (replayKey S (h.pid S) h.client.nonce (h.ephC S))).1,
    pendingOf S sid seq₁ id (h.confirmation S), Header.fresh pktAuth3 sid seq₃, _,
    parsePacket_frame _ _ _ _, rfl, ?_, rfl,
    Auth1.decode_eq_ok_iff.mpr ⟨rfl, hn.auth1_proper hrole h8⟩, rfl, parsePacket_frame _ _ _ _,
    rfl, rfl, handleAuth3_eq_ok_iff.mpr ⟨rfl, rfl⟩⟩
  have hresult : handleAuth1 S (.ok h.sk) records replay h.allowedRoles sid seq₁
      ((h.auth1 S).encode S) h.serverDraws
      = ((replay.insert (replayKey S (h.pid S) h.client.nonce (h.ephC S))).1,
        .ok (pendingOf S sid seq₁ id (h.confirmation S))) := by
    simp only [handleAuth1, haccept]
  exact hresult

end Rust

/-! ## The C client -/

namespace C

variable {ctx : ClientCtx}

omit [Fact q.Prime] [DecidableEq G] in
/-- A payload that fits is framed. -/
theorem sendPacket_ok (ctx : ClientCtx) (ty : UInt8) {p : List UInt8} (hp : p.length ≤ maxPayload) :
    sendPacket ctx ty (.ok p) maxDatagram
      = ({ ctx with seq := ctx.seq + 1 }, .ok (frame ty ctx.sessionId (ctx.seq + 1) p)) := by
  have hcap : headerLen + p.length ≤ maxDatagram := by
    simp only [maxPayload, maxDatagram, headerLen] at hp ⊢
    omega
  rw [sendPacket]
  dsimp only
  rw [authPacketBuild_eq_ok_iff.mpr ⟨hp, hcap, rfl⟩]

/-- The context with the values of the AUTH_1. -/
def started (S : Suite q G) (h : Honest q) (ctx : ClientCtx) : ClientCtx :=
  { ctx with
    clientNonce := h.client.nonce
    ephSecret := authScalarFromWide q h.client.eph
    ephC := S.encPoint (h.ephC S)
    pendingClientProof := encProof S (h.clientProof S) }

include hn hrole h8

omit [DecidableEq G] in
/-- The proofs that follow the client proof. -/
theorem Holds.auth1Message (hc : Holds S h ctx) :
    C.auth1Message S (started S h ctx) h.allowedRoles h.client (h.pid S) (S.encPoint (h.cPrime S))
        (encScalar (h.blind + h.delta)) (encProof S (h.clientProof S))
      = .ok ((h.auth1 S).wire S) := by
  have hrerand : authProveRerandomization S h.client.rerand (S.encPoint (h.commitment S))
      (S.encPoint (h.cPrime S)) (authScalarFromWide q h.client.delta) (h.pid S) h.client.nonce
      (S.encPoint (h.ephC S)) = .ok (encProof S (h.rerandProof S)) :=
    authProveRerandomization_eq S (h.commitment S) (h.cPrime S) (h.pid S) h.client.nonce (h.ephC S)
      hn.rerand.1
  obtain ⟨t, ht⟩ := Honest.exists_idxOf? (S := S) hrole
  have hset : authProveRoleSetMembership S h.client.role h.allowedRoles (S.encPoint (h.cPrime S))
      h.roleCode (encScalar (h.blind + h.delta)) (h.pid S) h.client.nonce (S.encPoint (h.ephC S))
      = .ok ((h.branches S).map (encBranch S)) :=
    authProveRoleSetMembership_eq S (List.length_pos_of_mem hrole).ne' h8 (fun r hr => hn.role hr)
      ht (hn.committable ht) (Honest.proveRoleSetMembership_eq hrole)
  simp only [C.auth1Message, started, hc.roleCommitment, hc.roleCode, hrerand, hset,
    Except.ok_bind']
  rfl

/-- The C client sends the AUTH_1. -/
theorem Holds.buildAuth1 (hc : Holds S h ctx) :
    authClientBuildAuth1 S ctx h.allowedRoles h.client maxDatagram
      = ({ started S h ctx with seq := ctx.seq + 1 },
          .ok (frame pktAuth1 ctx.sessionId (ctx.seq + 1) ((h.auth1 S).encode S))) := by
  have hroles : ¬ (h.allowedRoles.length = 0 ∨ h.allowedRoles.length > maxRoles) := by
    have hpos := List.length_pos_of_mem hrole
    omega
  have heph : authScalarmultBase S (authScalarFromWide q h.client.eph)
      = .ok (S.encPoint (h.ephC S)) := authScalarmultBase_encScalar S hn.ephC
  have hpid : authComputePid S ctx.devicePub h.client.nonce (S.encPoint (h.ephC S))
      ctx.serverPubPinned = h.pid S := by
    rw [hc.devicePub, hc.serverPub]
    rfl
  have hshift : authRerandomizeCommitment S ctx.roleCommitment ctx.roleBlind
      (authScalarFromWide q h.client.delta)
      = .ok (S.encPoint (h.cPrime S), encScalar (h.blind + h.delta)) := by
    rw [hc.roleCommitment, hc.roleBlind]
    exact authRerandomizeCommitment_eq S (h.commitment S) h.blind hn.shift
  have hclient : authProveAuthClient S h.client.proof ctx.deviceSk (h.pid S) h.client.nonce
      (S.encPoint (h.ephC S)) = .ok (encProof S (h.clientProof S)) := by
    rw [hc.deviceSk]
    exact authProveAuthClient_eq S (h.pid S) h.client.nonce (h.ephC S) hn.client.1 hn.devicePub
  rw [authClientBuildAuth1, if_neg (not_not.mpr hc.hasPinnedServer), if_neg (not_not.mpr hc.hasRole),
    if_neg hroles]
  have hmessage := hc.auth1Message hn hrole h8
  rw [started] at hmessage
  have hlen := Honest.auth1_length (S := S) hrole h8
  rw [Rust.Auth1.encode_eq] at hlen ⊢
  have hencode : authAuth1Encode ((h.auth1 S).wire S) maxPayload
      = .ok ((h.auth1 S).wire S).bytes := by
    rw [authAuth1Encode, ensure_pos (Honest.auth1_count hrole h8), Except.ok_bind',
      emit_eq_ok_iff.mpr ⟨hlen, rfl⟩]
  simp only [heph, hpid, hshift, hclient, hmessage, hencode]
  exact sendPacket_ok _ pktAuth1 hlen

omit hrole h8 [DecidableEq G] in
/-- The C client accepts the AUTH_2 and derives the confirmation. -/
theorem Holds.handleAuth2 (hc : Holds S h ctx) (seq seq' : UInt32) :
    authClientHandleAuth2 S { started S h ctx with seq := seq }
        (frame pktAuth2 ctx.sessionId seq' ((h.auth2 S).encode S))
      = (({ started S h ctx with seq := seq } : ClientCtx).confirm S (h.confirmation S),
          .ok ()) := by
  set ctx₁ : ClientCtx := { started S h ctx with seq := seq } with hctx₁
  have hchecks : auth2Checks S ctx₁ (frame pktAuth2 ctx.sessionId seq' ((h.auth2 S).encode S))
      = .ok ((h.auth2 S).wire S) := by
    have hexpect := (expectPacket_eq_ok_iff (by decide : pktAuth2 ≠ pktError)).mpr
      ⟨authHeaderDecode_frame pktAuth2 ctx.sessionId seq' ((h.auth2 S).encode S), rfl⟩
    have hpinned : ((h.auth2 S).wire S).serverPub = ctx₁.serverPubPinned := hc.serverPub.symm
    have hproof : authVerifyAuthServer S ((h.auth2 S).wire S).serverProof
        ((h.auth2 S).wire S).serverPub ((h.auth2 S).wire S).nonceS ((h.auth2 S).wire S).ephS
        = true := (authVerifyAuthServer_encProof S).mpr hn.server_strict
    simp only [auth2Checks, Except.bind_eq_ok_iff, ensure_eq_ok_iff, Prod.exists,
      Except.pure_eq_ok, Except.ok.injEq]
    exact ⟨_, _, hexpect, (), rfl, _, Auth2.decode_bytes ((h.auth2 S).wire S), (),
      authCheckPoint_encPoint S hn.serverPub, (), authCheckPoint_encPoint S hn.ephS, (), hpinned,
      (), hproof, rfl⟩
  have hshared : authScalarmult S ctx₁.ephSecret ((h.auth2 S).wire S).ephS
      = .ok (S.encPoint (h.ephSecret • h.ephS S)) := authScalarmult_encScalar S hn.shared
  have hconf : ctx₁.confirmation S ((h.auth2 S).wire S) (S.encPoint (h.ephSecret • h.ephS S))
      = h.confirmation S := by
    have hpid : ctx₁.pid S = h.pid S := by
      show authComputePid S ctx.devicePub h.client.nonce (S.encPoint (h.ephC S))
        ctx.serverPubPinned = h.pid S
      rw [hc.devicePub, hc.serverPub]
      rfl
    rw [ClientCtx.confirmation, hpid, Honest.shared_eq]
    rfl
  obtain ⟨e, -, hno⟩ | ⟨a2, shared, ha2, hsh, hresult⟩ := authClientHandleAuth2_cases S ctx₁
    (frame pktAuth2 ctx.sessionId seq' ((h.auth2 S).encode S))
  · exact absurd hshared (hno _ _ hchecks)
  · rw [hchecks] at ha2
    cases ha2
    rw [hshared] at hsh
    cases hsh
    rw [hresult, hconf]
    exact congrArg _ (if_pos rfl)

/-- The C client completes. -/
theorem Holds.completes (hc : Holds S h ctx) :
    (HonestClient.c ctx hc).Completes
      (h.session S ctx.sessionId (ctx.seq + 1) (ctx.seq + 1 + 1)) := by
  set ctx₂ := ({ started S h ctx with seq := ctx.seq + 1 } : ClientCtx).confirm S
    (h.confirmation S) with hctx₂
  have hauth3 : authClientBuildAuth3 S ctx₂ maxDatagram
      = ({ ctx₂ with seq := ctx.seq + 1 + 1 }, .ok (frame pktAuth3 ctx.sessionId
          (ctx.seq + 1 + 1) ((h.confirmation S).tag S .c2s).val)) := by
    have hlen : ((h.confirmation S).tag S .c2s).val.length ≤ maxPayload := by
      rw [Bytes.len]
      decide
    have hencode : authAuth3Encode ⟨authHmacTag S ctx₂.kcKC2s (ascii "client finished") ctx₂.kcTh⟩
        maxPayload = .ok ((h.confirmation S).tag S .c2s).val := emit_eq_ok_iff.mpr ⟨hlen, rfl⟩
    rw [authClientBuildAuth3, hencode]
    exact sendPacket_ok ctx₂ pktAuth3 hlen
  have hack : authClientHandleAuthAck { ctx₂ with seq := ctx.seq + 1 + 1 }
      (frame pktAuthAck ctx.sessionId (ctx.seq + 1 + 1) [ackByte])
      = ({ ctx₂ with seq := ctx.seq + 1 + 1, authComplete := true }, .ok ()) := by
    have hexpect := (expectPacket_eq_ok_iff (by decide : pktAuthAck ≠ pktError)).mpr
      ⟨authHeaderDecode_frame pktAuthAck ctx.sessionId (ctx.seq + 1 + 1) [ackByte], rfl⟩
    rw [authClientHandleAuthAck, hexpect]
    rfl
  exact ⟨_, _, _, _, hc.buildAuth1 hn hrole h8, hc.handleAuth2 hn _ _, hauth3, hack, rfl, rfl⟩

end C

/-! ## The Rust client -/

namespace Rust

variable {w : World q G}

/-- The world after a request that was answered at once. -/
def answered (w : World q G) (request response : List UInt8)
    (rest : List (Except ProtoError (List UInt8))) : World q G :=
  { w with
    transport := { w.transport with sends := w.transport.sends + 1, inbox := rest }
    log := .received response :: .sent request :: w.log }

omit [AddCommGroup G] [Module (ZMod q) G] [DecidableEq G] [Fact q.Prime] in
/-- A request whose response arrives first. -/
theorem sendExpect_answered {maxRetries : ℕ} {ty expected : UInt8} {sid : SessionId}
    {seq : UInt32} {payload resp : List UInt8} {rest : List (Except ProtoError (List UInt8))}
    (hsend : ∀ n, w.transport.sendResult n = .ok ()) (hp : payload.length ≤ maxPayload)
    (hne : expected ≠ pktError)
    (hinbox : w.transport.inbox = .ok (frame expected sid seq resp) :: rest) :
    (sendExpect maxRetries ty sid seq payload expected).exec w
      = (.ok resp, answered w (frame ty sid seq payload) (frame expected sid seq resp) rest) := by
  have hbuild := buildPacket_eq_ok_iff.mpr ⟨hp, (rfl : frame ty sid seq payload = _)⟩
  have hstray : ¬ stray (Header.fresh expected sid seq) sid seq := by
    simp [stray, Header.fresh]
  have hheader : handleResponseHeader (Header.fresh expected sid seq) resp expected = .ok resp := by
    simp [handleResponseHeader, Header.fresh, hne]
  cases hrel : w.transport.isReliable with
  | true =>
      simp [sendExpect, Routine.exec_bind, hbuild, attempt, orHalt, hrel, send, hsend, orStop,
        awaitResponse, recv, hinbox, hstray, hheader, answered]
  | false =>
      simp [sendExpect, Routine.exec_bind, hbuild, attempt, orHalt, hrel, send, hsend, orStop,
        retryLoop, recv, hinbox, hstray, hheader, answered]

include hrole in
omit [DecidableEq G] [Fact q.Prime] in
/-- The Rust client builds the AUTH_1. -/
theorem authStart_eq (sessionId : Bytes 32) :
    authStart S h.x (h.serverPub S) ⟨h.roleCode, h.blind, h.commitment S⟩ h.allowedRoles
        (h.clientDraws sessionId)
      = .ok ⟨h.serverPub S, h.ephSecret, h.auth1 S⟩ := by
  have hset := Honest.proveRoleSetMembership_eq (S := S) hrole
  unfold authStart
  show (proveRoleSetMembership S h.client.role (h.binding S) h.roleCode (h.blind + h.delta)
    >>= fun _ => _) = _
  rw [hset, Except.ok_bind']
  rfl

include hn

/-- The Rust client loads the credentials of the device. -/
theorem Holds.load (hw : Holds S h w) (s : Session) :
    (loadAuthCredentials S).exec (w.deliver s)
      = (.ok (h.x, h.serverPub S, ⟨h.roleCode, h.blind, h.commitment S⟩), w.deliver s) := by
  obtain ⟨root, hroot, hx⟩ := hw.deviceRoot
  obtain ⟨hl1, hl2, hl3⟩ := hw.loads
  have hload1 : (loadOrCreateDeviceRoot (q := q) (G := G) false).exec (w.deliver s)
      = (.ok root, w.deliver s) := by
    simp only [loadOrCreateDeviceRoot, Routine.exec_op, World.deliver, hl1, hroot]
  have hdevice : orStop (rejectIdentity (h.x • S.base) "device_pub") = .ok () :=
    congrArg orStop (ensure_pos hn.devicePub)
  have hload2 : (loadServerPub (q := q)).exec (w.deliver s)
      = (.ok (some (h.serverPub S)), w.deliver s) := by
    simp only [loadServerPub, Routine.exec_op, World.deliver, hl2, hw.serverPub]
  have hload3 : loadRoleCredential.exec (w.deliver s)
      = (.ok (some ⟨h.roleCode, h.blind, h.commitment S⟩), w.deliver s) := by
    simp only [loadRoleCredential, Routine.exec_op, World.deliver, hl3, hw.roleCredential]
  rw [loadAuthCredentials, Routine.exec_bind_ok hload1]
  dsimp only
  rw [hx, Routine.exec_bind_ok (exec_attempt_ok hdevice _), Routine.exec_bind_ok hload2,
    Routine.exec_bind_ok (exec_attempt_ok rfl _), Routine.exec_bind_ok hload3]
  rfl

/-- The Rust client accepts the AUTH_2. -/
theorem acceptAuth2_honest :
    acceptAuth2 S ⟨h.serverPub S, h.ephSecret, h.auth1 S⟩ ((h.auth2 S).encode S)
      = .ok (confirmedOf S (h.confirmation S)) := by
  have hconf : AuthStart.confirmation S ⟨h.serverPub S, h.ephSecret, h.auth1 S⟩ (h.auth2 S)
      = h.confirmation S := by
    show Confirmation.mk _ (S.encPoint (h.ephSecret • h.ephS S)) = _
    rw [Honest.shared_eq]
    rfl
  refine acceptAuth2_eq_ok_iff.mpr ⟨h.auth2 S, Auth2.decode_eq_ok_iff.mpr ⟨rfl, hn.auth2_proper⟩,
    rfl, verifyAuthServer_prove S _ _ _ _, ?_, ?_⟩
  · rw [hconf]
    rfl
  · rw [hconf]

include hrole h8

/-- The Rust client completes. -/
theorem Holds.completes (hw : Holds S h w) (maxRetries : ℕ) (sessionId : Bytes 32) :
    (HonestClient.rust w maxRetries sessionId hw).Completes
      (h.session S (randSessionId sessionId) 0 1) := by
  set s := h.session S (randSessionId sessionId) 0 1 with hs
  have hsend1 : (sendExpect maxRetries pktAuth1 (randSessionId sessionId) 0
      ((h.auth1 S).encode S) pktAuth2).exec (w.deliver s)
      = (.ok ((h.auth2 S).encode S), answered (w.deliver s) s.auth1 s.auth2 [.ok s.ack]) :=
    sendExpect_answered hw.sends (Honest.auth1_length hrole h8) (by decide) rfl
  have htag : ((h.confirmation S).tag S .c2s).val.length ≤ maxPayload := by
    rw [Bytes.len]
    decide
  have hsend2 : (sendExpect maxRetries pktAuth3 (randSessionId sessionId) 1
      ((h.confirmation S).tag S .c2s).val pktAuthAck).exec
        (answered (w.deliver s) s.auth1 s.auth2 [.ok s.ack])
      = (.ok [ackByte], answered (answered (w.deliver s) s.auth1 s.auth2 [.ok s.ack])
          s.auth3 s.ack []) :=
    sendExpect_answered hw.sends htag (by decide) rfl
  refine ⟨answered (answered (w.deliver s) s.auth1 s.auth2 [.ok s.ack]) s.auth3 s.ack [], ?_, rfl⟩
  refine (Routine.exec_bind_ok (hw.load hn s) _).trans ?_
  refine (Routine.exec_bind_ok (exec_attempt_ok (authStart_eq hrole sessionId) _) _).trans ?_
  refine (Routine.exec_bind_ok hsend1 _).trans ?_
  refine (Routine.exec_bind_ok (exec_attempt_ok (acceptAuth2_honest hn) _) _).trans ?_
  exact (Routine.exec_bind_ok hsend2 _).trans rfl

end Rust

end

/-! ## Any client and any server -/

/-- An honest client and an honest server, each in C or in Rust, complete with the same packets
and the same session key. -/
theorem honest_auth_interoperates [Fact q.Prime] (S : Suite q G) (h : Honest q)
    (hn : h.NonDegenerate S)
    (hrole : h.roleCode ∈ h.allowedRoles) (h8 : h.allowedRoles.length ≤ maxRoles)
    (client : HonestClient S h) (server : HonestServer S h) :
    ∃ s, client.Completes s ∧ server.Completes s := by
  have hserver : ∀ sid seq₁ seq₃, server.Completes (h.session S sid seq₁ seq₃) := by
    intro sid seq₁ seq₃
    cases server with
    | c cap cfg st job serves => exact serves.completes hn hrole h8 cap sid seq₁ seq₃
    | rust records replay serves => exact serves.completes hn hrole h8 sid seq₁ seq₃
  cases client with
  | c ctx holds => exact ⟨_, holds.completes hn hrole h8, hserver _ _ _⟩
  | rust w maxRetries sessionId holds =>
      exact ⟨_, holds.completes hn hrole h8 maxRetries sessionId, hserver _ _ _⟩

/-! ## A device among two -/

/-- The device with the root 1 and the role 2, at a server that allows the roles 1 and 2. -/
def demoHonest : Honest 11 where
  x := Rust.deriveDeviceScalar smallSuite (byteString 31 1)
  sk := demoServerKey
  roleCode := 2
  blind := demoDeviceKey
  allowedRoles := [1, 2]
  client := ⟨byteString 31 9, byteString 63 4, byteString 63 3, byteString 63 2, byteString 63 5,
    demoDraws 7⟩
  server := ⟨byteString 63 4, byteString 31 8, byteString 63 2⟩

theorem demoHonest_nonDegenerate : demoHonest.NonDegenerate smallSuite where
  base := by decide
  attrH := by decide
  x := by decide +kernel
  sk := by decide
  ephSecret := by decide +kernel
  ephSecretS := by decide +kernel
  delta := by decide +kernel
  roles := by
    intro r hr
    obtain rfl | rfl : r = 1 ∨ r = 2 := by simpa [demoHonest] using hr
    · decide +kernel
    · decide +kernel
  cPrime := by decide +kernel
  client := by decide +kernel
  rerand := by decide +kernel
  server := by decide +kernel
  branches := by decide +kernel
  statements := by decide +kernel

/-- A C client of the device. -/
def demoContext : C.ClientCtx where
  deviceId := byteString 31 1
  deviceSk := encScalar demoHonest.x
  devicePub := smallSuite.encPoint (demoHonest.devicePub smallSuite)
  serverPubPinned := smallSuite.encPoint (demoHonest.serverPub smallSuite)
  hasPinnedServer := true
  roleCommitment := smallSuite.encPoint (demoHonest.commitment smallSuite)
  roleBlind := encScalar demoHonest.blind
  roleCode := demoHonest.roleCode
  hasRole := true
  sessionId := byteString 15 7
  seq := 0
  clientNonce := Bytes.zero 32
  ephSecret := Bytes.zero 32
  ephC := Bytes.zero 32
  pendingClientProof := default
  pendingServerPub := Bytes.zero 32
  pendingServerNonce := Bytes.zero 32
  pendingSetupChallenge := Bytes.zero 16
  sessionKey := Bytes.zero 32
  kcTh := Bytes.zero 32
  kcKS2c := Bytes.zero 32
  kcKC2s := Bytes.zero 32
  authComplete := false

theorem demoContext_holds : C.Holds smallSuite demoHonest demoContext :=
  ⟨rfl, rfl, rfl, rfl, rfl, rfl, rfl, rfl⟩

/-- A Rust client of the device, over a transport that delivers nothing yet. -/
def demoWorld : Rust.World 11 (ZMod 11) where
  transport := ⟨false, fun _ => .ok (), 0, []⟩
  store := ⟨some (byteString 31 1), some (demoHonest.serverPub smallSuite),
    some ⟨demoHonest.roleCode, demoHonest.blind, demoHonest.commitment smallSuite⟩, Bytes.zero 32,
    none, none, none, none, none⟩
  log := []

theorem demoWorld_holds : Rust.Holds smallSuite demoHonest demoWorld :=
  ⟨⟨_, rfl, rfl⟩, rfl, rfl, ⟨rfl, rfl, rfl⟩, fun _ => rfl⟩

/-- The registry of a C server that enrolled another device first. -/
def demoEntries : C.Registry :=
  [⟨byteString 31 2, byteString 31 3, byteString 31 6⟩,
    ⟨byteString 31 1, smallSuite.encPoint (demoHonest.devicePub smallSuite),
      smallSuite.encPoint (demoHonest.commitment smallSuite)⟩]

/-- The key of the server in the C encoding, and its roles. -/
def demoHonestConfig : C.ServerConfig :=
  ⟨encScalar demoHonest.sk, smallSuite.encPoint (demoHonest.serverPub smallSuite), none,
    demoHonest.allowedRoles⟩

/-- The job of the AUTH_1. -/
def demoHonestJob : C.Job :=
  ⟨[], ⟨byteString 31 8, byteString 15 6, byteString 63 2⟩, fun _ => demoHonest.server, .ok ()⟩

theorem demoEntries_serves : C.Serves smallSuite demoHonest demoHonestConfig
    ⟨demoEntries, C.authSessionTableInit 2, C.authReplayCacheInit⟩ demoHonestJob where
  serverSk := rfl
  serverPub := rfl
  allowedRoles := rfl
  enrolled := ⟨[⟨byteString 31 2, byteString 31 3, byteString 31 6⟩], [], _, rfl, rfl,
    by decide +kernel⟩
  fresh := rfl
  free := ⟨0, rfl⟩

/-- The records of a Rust server that enrolled another device first. -/
def demoRecords : List (Bytes 32 × Rust.DeviceRecord (ZMod 11)) :=
  [(byteString 31 2, ⟨demoDeviceKey, demoCommitment⟩),
    (byteString 31 1, ⟨demoHonest.devicePub smallSuite, demoHonest.commitment smallSuite⟩)]

theorem demoRecords_serves :
    Rust.Serves smallSuite demoHonest demoRecords (Rust.MemoryReplayCache.new 4) where
  enrolled := ⟨[(byteString 31 2, ⟨demoDeviceKey, demoCommitment⟩)], [], _, rfl,
    by decide +kernel⟩
  fresh := by decide +kernel

/-- The clients of the device complete with the servers of the other language. -/
theorem honest_auth_interoperates_two_roles :
    (∃ s, (HonestClient.c demoContext demoContext_holds).Completes s ∧
      (HonestServer.rust demoRecords _ demoRecords_serves).Completes s) ∧
    ∃ s, (HonestClient.rust demoWorld 3 (byteString 31 7) demoWorld_holds).Completes s ∧
      (HonestServer.c 4 _ _ _ demoEntries_serves).Completes s := by
  have : Fact (Nat.Prime 11) := ⟨by decide⟩
  exact ⟨honest_auth_interoperates smallSuite demoHonest demoHonest_nonDegenerate (by decide) (by decide)
      _ _,
    honest_auth_interoperates smallSuite demoHonest demoHonest_nonDegenerate (by decide) (by decide)
      _ _⟩

end ZkArche
