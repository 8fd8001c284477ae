import ZkArche.Proto.ServerSpecC
import ZkArche.Server.DispatchC

/-!
# What a worker of the C server holds

The token of a worker says which slot it is responsible for.  A worker that reserved a slot
*owns* it until it activates or releases it.  A worker that looked a session up has *found*
its slot and will release it.  A SETUP_3 whose proof fails releases nothing, so such a
worker holds nothing.

`dispatch_follows` is the discipline of the code.  A worker activates and releases only the
slot of its token, and it acknowledges only after it released a session that its packet
was accepted for.
-/

namespace ZkArche.C

variable {q : ℕ} {G : Type} [AddCommGroup G] [Module (ZMod q) G] (S : Suite q G)

/-- The result is a success. -/
def succeeds {α : Type} : Except AuthErr α → Bool
  | .ok _ => true
  | .error _ => false

/-- The SETUP_3 of a job is accepted against a pending record. -/
def setup3Accepts (job : Job) (p : PendingSetup) : Bool :=
  match authHeaderDecode job.input with
  | .ok (hdr, payload) =>
      succeeds (authServerHandleSetup3 S p hdr.sessionId hdr.seq payload maxDatagram)
  | .error _ => false

/-- The AUTH_3 of a job is accepted against a pending record. -/
def auth3Accepts (job : Job) (p : PendingAuth) : Bool :=
  match authHeaderDecode job.input with
  | .ok (hdr, payload) =>
      succeeds (authServerHandleAuth3 S p hdr.sessionId hdr.seq payload maxDatagram)
  | .error _ => false

/-! ## Tokens -/

/-- What a worker holds. -/
inductive Tok where
  /-- Not in `dispatch`. -/
  | idle
  /-- In `dispatch`, before its first section. -/
  | fresh (job : Job)
  /-- Reserved the slot. -/
  | owns (slot : ℕ)
  /-- Looked the slot up and will release it; the flag says whether the packet was
  accepted. -/
  | found (slot : ℕ) (accepted : Bool)
  /-- Holds nothing any more; the flag says whether it released an accepted session. -/
  | done (accepted : Bool)

/-- The sections a token permits. -/
inductive Tok.Can : Tok → Req → Prop where
  | reserve (job : Job) : Can (.fresh job) .reserve
  | findSetup (job : Job) (sid : SessionId) : Can (.fresh job) (.findSetup sid)
  | findAuth (job : Job) (sid : SessionId) : Can (.fresh job) (.findAuth sid)
  | count (i : ℕ) : Can (.owns i) .registryCount
  | entry (i k : ℕ) : Can (.owns i) (.registryEntry k)
  | guarded (i : ℕ) (sid : SessionId) (seq : UInt32) (payload : List UInt8)
      (cand : Bytes 32 × Bytes 32) (draws : Auth2Draws) :
      Can (.owns i) (.guardedAuth1 sid seq payload cand draws)
  | activateSetup (i : ℕ) (p : PendingSetup) : Can (.owns i) (.activateSetup i p)
  | activateAuth (i : ℕ) (p : PendingAuth) : Can (.owns i) (.activateAuth i p)
  | releaseOwned (i : ℕ) : Can (.owns i) (.release i)
  | releaseFound (i : ℕ) (ok : Bool) : Can (.found i ok) (.release i)
  | enroll (i : ℕ) (p : PendingSetup) (save : Except AuthErr Unit) :
      Can (.found i true) (.enroll i p save)

/-- The token after a section. -/
def Tok.next : Tok → (r : Req) → Ans r → Tok
  | .fresh _, .reserve, a =>
      match (a : Option ℕ) with
      | some i => .owns i
      | none => .done false
  | .fresh job, .findSetup _, a =>
      match (a : Option (ℕ × PendingSetup)) with
      | some (i, p) => if setup3Accepts S job p then .found i true else .done false
      | none => .done false
  | .fresh job, .findAuth _, a =>
      match (a : Option (ℕ × PendingAuth)) with
      | some (i, p) => .found i (auth3Accepts S job p)
      | none => .done false
  | .owns _, .activateSetup .., _ => .done false
  | .owns _, .activateAuth .., _ => .done false
  | .owns _, .release _, _ => .done false
  | .found _ ok, .release _, _ => .done ok
  | .found _ ok, .enroll .., _ => .done ok
  | t, _, _ => t

/-- The packet is an acknowledgement. -/
def IsAck (out : List UInt8) : Prop :=
  pktTypeOf out = pktAuthAck ∨ pktTypeOf out = pktSetupAck

/-- The packets a token permits a worker to end with. -/
structure Tok.Fin (t : Tok) (out : List UInt8) : Prop where
  ack : IsAck out → t = .done true
  noOwned : ∀ i, t ≠ .owns i
  noFound : ∀ i ok, t ≠ .found i ok

/-- The discipline of the workers. -/
def serverProtocol (cap : ℕ) (cfg : ServerConfig) :
    Protocol (serverSections S cap cfg) Job (List UInt8) Tok where
  idle := .idle
  start := .fresh
  can := Tok.Can
  next := Tok.next S
  fin := Tok.Fin

/-! ## Packets that are no acknowledgement -/

theorem not_isAck_nil : ¬ IsAck [] := by
  rintro (h | h) <;> revert h <;> decide

theorem not_isAck_frame {ty : UInt8} {sid : SessionId} {seq : UInt32} {p : List UInt8}
    (h1 : ty ≠ pktAuthAck) (h2 : ty ≠ pktSetupAck) : ¬ IsAck (frame ty sid seq p) := by
  rintro (h | h)
  · exact h1 (by simpa using h)
  · exact h2 (by simpa using h)

theorem not_isAck_errorReply (hdr : Header) (e : AuthErr) : ¬ IsAck (errorReply hdr e) := by
  unfold errorReply
  split
  next pkt h =>
    simp only [authPacketBuildError, Except.bind_eq_ok_iff, authPacketBuild_eq_ok_iff] at h
    obtain ⟨-, -, -, -, rfl⟩ := h
    exact not_isAck_frame (by decide) (by decide)
  next => exact not_isAck_nil

theorem setup1_not_ack {cfg : ServerConfig} {sid : SessionId} {seq : UInt32}
    {payload pkt : List UInt8} {draws : Setup2Draws} {outCap : ℕ} {p : PendingSetup}
    (h : authServerHandleSetup1 S cfg sid seq payload draws outCap = .ok (p, pkt)) :
    ¬ IsAck pkt := by
  obtain ⟨s1, proof, -, -, -, rfl⟩ := authServerHandleSetup1_ok h
  exact not_isAck_frame (by decide) (by decide)

theorem auth1_not_ack {cfg : ServerConfig} {sid : SessionId} {seq : UInt32}
    {payload pkt : List UInt8} {lookup : Except AuthErr (Bytes 32 × Bytes 32)}
    {draws : Auth2Draws} {outCap : ℕ} {p : PendingAuth}
    (h : authServerHandleAuth1 S cfg sid seq payload lookup draws outCap = .ok (p, pkt)) :
    ¬ IsAck pkt := by
  obtain ⟨a1, pub, rc, -, -, -, hr⟩ := authServerHandleAuth1_eq_ok_iff.mp h
  obtain ⟨-, ephS, proof, shared, -, -, -, -, rfl⟩ := auth1Respond_eq_ok_iff.mp hr
  exact not_isAck_frame (by decide) (by decide)

theorem guarded_not_ack {cap : ℕ} {cache : ReplayCache} {cfg : ServerConfig} {sid : SessionId}
    {seq : UInt32} {payload pkt : List UInt8} {lookup : Except AuthErr (Bytes 32 × Bytes 32)}
    {draws : Auth2Draws} {outCap : ℕ} {p : PendingAuth}
    (h : (authServerHandleAuth1Guarded S cap cache cfg sid seq payload lookup draws outCap).2
      = .ok (p, pkt)) : ¬ IsAck pkt := by
  obtain ⟨e, he⟩ | ⟨key, r, -, -, hr, hok⟩ := authServerHandleAuth1Guarded_cases
    (S := S) cap cache cfg sid seq payload lookup draws outCap
  · rw [he] at h
    cases h
  · rw [hok] at h
    cases h
    exact auth1_not_ack S hr

/-! ## The code keeps the discipline -/

section

variable {S} {cap : ℕ} {cfg : ServerConfig}

/-- A worker that holds nothing may end with anything but an acknowledgement. -/
theorem fin_of_not_ack {t : Tok} {out : List UInt8} (h : ¬ IsAck out)
    (ho : ∀ i, t ≠ .owns i) (hf : ∀ i ok, t ≠ .found i ok) : t.Fin out :=
  ⟨fun ha => absurd ha h, ho, hf⟩

theorem fin_error (hdr : Header) (e : AuthErr) (b : Bool) :
    (Tok.done b).Fin (replyOf hdr (.error e)) :=
  fin_of_not_ack (not_isAck_errorReply hdr e) nofun nofun

/-- The end of `dispatch`. -/
def ending (S : Suite q G) (cap : ℕ) (cfg : ServerConfig) (hdr : Header)
    (res : Except AuthErr (List UInt8)) : Prog (serverSections S cap cfg) (List UInt8) :=
  .ret (replyOf hdr res)

/-- The candidate loop holds its slot until it activates or releases it. -/
theorem scanCandidates_follows (slot : ℕ) (hdr : Header) (payload : List UInt8)
    (draws : ℕ → Auth2Draws) (n i : ℕ) (last : AuthErr) :
    (scanCandidates S cap cfg slot hdr payload draws n i last
      >>= ending S cap cfg hdr).Follows (serverProtocol S cap cfg) (.owns slot) := by
  induction n generalizing i last with
  | zero => exact ⟨.releaseOwned slot, fun _ => fin_error hdr last false⟩
  | succ n ih =>
      refine ⟨.entry slot i, fun s => ⟨.guarded slot .., fun s' => ?_⟩⟩
      -- the guard accepts with an AUTH_2, or the loop goes on or gives up
      dsimp only
      cases hres : (execReq S cap cfg s' (.guardedAuth1 hdr.sessionId hdr.seq payload
          ((execReq S cap cfg s (.registryEntry i)).2.devicePub,
            (execReq S cap cfg s (.registryEntry i)).2.roleCommitment) (draws i))).2 with
      | ok r =>
          obtain ⟨pending, pkt⟩ := r
          have hack := guarded_not_ack S hres
          refine ⟨.activateAuth slot pending, fun s'' => ?_⟩
          dsimp only
          cases (execReq S cap cfg s'' (.activateAuth slot pending)).2 with
          | ok u => exact fin_of_not_ack hack nofun nofun
          | error e => exact fin_error hdr e false
      | error e =>
          show Prog.Follows _ (Tok.owns slot) ((if e ≠ .proofVerify ∧ e ≠ .roleNotPermitted then _
            else scanCandidates S cap cfg slot hdr payload draws n (i + 1) e) >>= _)
          split
          · exact ⟨.releaseOwned slot, fun _ => fin_error hdr e false⟩
          · exact ih (i + 1) e

theorem tryHandleAuth1_follows (job : Job) (hdr : Header) (payload : List UInt8) :
    (tryHandleAuth1 S cap cfg job hdr payload >>= ending S cap cfg hdr).Follows
      (serverProtocol S cap cfg) (.fresh job) := by
  refine ⟨.reserve job, fun s => ?_⟩
  cases hslot : (execReq S cap cfg s .reserve).2 with
  | none =>
      simp only [serverProtocol, Tok.next]
      exact fin_error hdr _ false
  | some slot => exact ⟨.count slot, fun s' => scanCandidates_follows slot hdr payload _ _ _ _⟩

theorem dispatchSetup1_follows (job : Job) (hdr : Header) (payload : List UInt8) :
    (dispatchSetup1 S cap cfg job hdr payload >>= ending S cap cfg hdr).Follows
      (serverProtocol S cap cfg) (.fresh job) := by
  refine ⟨.reserve job, fun s => ?_⟩
  cases hslot : (execReq S cap cfg s .reserve).2 with
  | none => exact fin_error hdr _ false
  | some slot =>
      cases hres : authServerHandleSetup1 S cfg hdr.sessionId hdr.seq payload job.setup
          maxDatagram with
      | error e => exact ⟨.releaseOwned slot, fun _ => fin_error hdr e false⟩
      | ok r =>
          obtain ⟨pending, pkt⟩ := r
          refine ⟨.activateSetup slot pending, fun s' => ?_⟩
          cases (execReq S cap cfg s' (.activateSetup slot pending)).2 with
          | ok u => exact fin_of_not_ack (setup1_not_ack S hres) nofun nofun
          | error e => exact fin_error hdr e false

theorem dispatchSetup3_follows {job : Job} {hdr : Header} {payload : List UInt8}
    (hd : authHeaderDecode job.input = .ok (hdr, payload)) :
    (dispatchSetup3 S cap cfg job hdr payload >>= ending S cap cfg hdr).Follows
      (serverProtocol S cap cfg) (.fresh job) := by
  refine ⟨.findSetup job _, fun s => ?_⟩
  cases hf : (execReq S cap cfg s (.findSetup hdr.sessionId)).2 with
  | none => exact fin_error hdr _ false
  | some r =>
      obtain ⟨slot, pending⟩ := r
      cases hres : authServerHandleSetup3 S pending hdr.sessionId hdr.seq payload maxDatagram with
      | error e =>
          have hacc : setup3Accepts S job pending = false := by
            simp only [setup3Accepts, hd, hres, succeeds]
          have htok : (serverProtocol S cap cfg).next (.fresh job) (.findSetup hdr.sessionId)
              (some (slot, pending)) = .done false := by
            simp only [serverProtocol, Tok.next, hacc]
            rfl
          rw [htok]
          simp only [Prog.bind, hres]
          exact fin_error hdr e false
      | ok pkt =>
          have hacc : setup3Accepts S job pending = true := by
            simp only [setup3Accepts, hd, hres, succeeds]
          have htok : (serverProtocol S cap cfg).next (.fresh job) (.findSetup hdr.sessionId)
              (some (slot, pending)) = .found slot true := by
            simp only [serverProtocol, Tok.next, hacc]
            rfl
          rw [htok]
          simp only [Prog.bind, hres]
          refine ⟨.enroll slot pending job.save, fun s' => ?_⟩
          cases (execReq S cap cfg s' (.enroll slot pending job.save)).2 with
          | ok u => exact ⟨fun _ => rfl, nofun, nofun⟩
          | error e => exact fin_error hdr e true

theorem dispatchAuth3_follows {job : Job} {hdr : Header} {payload : List UInt8}
    (hd : authHeaderDecode job.input = .ok (hdr, payload)) :
    (dispatchAuth3 S cap cfg hdr payload >>= ending S cap cfg hdr).Follows
      (serverProtocol S cap cfg) (.fresh job) := by
  refine ⟨.findAuth job _, fun s => ?_⟩
  cases hf : (execReq S cap cfg s (.findAuth hdr.sessionId)).2 with
  | none => exact fin_error hdr _ false
  | some r =>
      obtain ⟨slot, pending⟩ := r
      have htok : (serverProtocol S cap cfg).next (.fresh job) (.findAuth hdr.sessionId)
          (some (slot, pending)) = .found slot (auth3Accepts S job pending) := rfl
      rw [htok]
      refine ⟨.releaseFound slot _, fun s' => ?_⟩
      show Tok.Fin (.done (auth3Accepts S job pending)) (replyOf hdr
        (authServerHandleAuth3 S pending hdr.sessionId hdr.seq payload maxDatagram))
      cases hres : authServerHandleAuth3 S pending hdr.sessionId hdr.seq payload maxDatagram with
      | error e => exact fin_error hdr e _
      | ok pkt =>
          have hacc : auth3Accepts S job pending = true := by
            simp only [auth3Accepts, hd, hres, succeeds]
          rw [hacc]
          exact ⟨fun _ => rfl, nofun, nofun⟩

/-- Every call of `dispatch` keeps the discipline. -/
theorem dispatch_follows (job : Job) :
    (dispatch S cap cfg job).Follows (serverProtocol S cap cfg) (.fresh job) := by
  have hfresh : ∀ out, ¬ IsAck out → (Tok.fresh job).Fin out :=
    fun out h => fin_of_not_ack h nofun nofun
  unfold dispatch
  split
  next => exact hfresh [] not_isAck_nil
  next hdr payload hd =>
    show (dispatchBody S cap cfg job hdr payload >>= ending S cap cfg hdr).Follows _ _
    unfold dispatchBody
    split
    · exact dispatchSetup1_follows job hdr payload
    split
    · exact dispatchSetup3_follows hd
    split
    · exact tryHandleAuth1_follows job hdr payload
    split
    · exact dispatchAuth3_follows hd
    · exact hfresh _ (not_isAck_errorReply hdr .unknownPktType)

end

end ZkArche.C
