import ZkArche.Server.OwnershipC
import ZkArche.Server.SequentialC
import ZkArche.Transport.Lines

/-!
# The drivers of the C server

`run_udp` and `handle_tcp_conn` of `bin/server.c`: a thread for the UDP socket, and one for every
connection that `run_tcp` accepts.  Each receives a packet, calls `dispatch` and sends what it
wrote, over and over.  The thread of the socket goes on after every error.  The thread of a
connection ends at the first one.

However the threads are interleaved, `dispatch` meets the pool of workers that is studied in
`Server`, and every line carries whole packets and their answers, in order (`drivers_served`).
-/

namespace ZkArche.C

variable (Addr : Type)

/-- The line of a thread: the socket for the first one, a connection for each of the others. -/
def ThreadLine : ℕ → Type
  | 0 => UdpSocket Addr
  | _ + 1 => Connection

/-- What `dispatch` wrote, unless `out_len` is zero. -/
def outOf (out : List UInt8) : Option (List UInt8) := if out = [] then none else some out

/-- The loop of `run_udp`. -/
def udpLine : Line (UdpSocket Addr) Job (List UInt8) where
  recv u job u' := ∃ src, u.Receives src job.input u'
  miss u go u' := go = true ∧ u' = u
  send u out go u' := go = true ∧
    match outOf out with
    | some packet => u.Sends packet u'
    | none => u' = u

/-- The loop of `handle_tcp_conn`. -/
def tcpLine : Line Connection Job (List UInt8) where
  recv c job c' := c.Receives (authTcpRecv maxDatagram) job.input c'
  miss c go c' := go = false ∧ c.Misses (authTcpRecv maxDatagram) c'
  send c out go c' :=
    match outOf out, go with
    | some packet, true => c.Sends authTcpSend packet c'
    | some packet, false => c.Breaks authTcpSend packet c'
    | none, go => go = true ∧ c' = c

/-- The loops of the threads. -/
def driverLines : (w : ℕ) → Line (ThreadLine Addr w) Job (List UInt8)
  | 0 => udpLine Addr
  | _ + 1 => tcpLine

/-- The socket when it is bound, and the connections when they are accepted. -/
def acceptedLines (input : ℕ → Chunks UInt8) (takes : ℕ → ℕ → ℕ) : (w : ℕ) → ThreadLine Addr w
  | 0 => .bound
  | c + 1 => ⟨input c, ⟨[], takes c⟩⟩

variable {Addr}

theorem datagrams_udpLine : DatagramLine (udpLine Addr) id (fun job => some job.input) outOf where
  recv := by
    rintro u job u' ⟨src, -, -, rfl⟩
    exact ⟨rfl, src, rfl, rfl⟩
  miss := fun h => h.2
  send := by
    rintro u out go u' ⟨-, h⟩
    cases hout : outOf out with
    | none =>
        simp only [hout] at h
        exact .inl h
    | some packet =>
        simp only [hout] at h
        exact .inr ⟨packet, rfl, h⟩

theorem framed_tcpLine : FramedLine tcpLine id (fun job => some job.input) outOf where
  recv := by
    rintro c job c' ⟨hrecv, hout⟩
    exact ⟨(framing.recv_ok _ _ _ hrecv).2, congrArg Sink.written hout⟩
  miss := fun h => ⟨h.1, congrArg Sink.written h.2.2⟩
  send := by
    intro c out c' h
    simp only [tcpLine] at h
    cases hout : outOf out with
    | none =>
        simp only [hout] at h
        rw [h.2]
        exact ⟨rfl, by simp [frameOf], fun _ hp => by cases hp⟩
    | some packet =>
        simp only [hout] at h
        obtain ⟨hfit, hwritten⟩ := framing.send_ok _ _ _ h.1
        refine ⟨congrArg Chunks.contents h.2, hwritten, ?_⟩
        rintro p ⟨⟩
        exact hfit
  broken := by
    intro c out c' h
    simp only [tcpLine] at h
    cases hout : outOf out with
    | none =>
        simp only [hout] at h
        cases h.1
    | some packet =>
        simp only [hout] at h
        rcases h with ⟨e, herr⟩ | ⟨part, hprefix, hwritten⟩
        · exact ⟨[], List.nil_prefix, by rw [List.append_nil]; exact framing.send_error _ _ _ _ herr⟩
        · exact ⟨part, hprefix, hwritten⟩

/-! ## What `dispatch` answers -/

/-- The type of a request, and of the packet that grants it. -/
inductive GrantedBy : UInt8 → UInt8 → Prop where
  | setup1 : GrantedBy pktSetup1 pktSetup2
  | setup3 : GrantedBy pktSetup3 pktSetupAck
  | auth1 : GrantedBy pktAuth1 pktAuth2
  | auth3 : GrantedBy pktAuth3 pktAuthAck

/-- A packet without a valid header gets no answer.  Every other packet gets one: the packet that
grants its request, or an ERROR packet, with its session identifier and sequence number. -/
def AnsweredBy (input out : List UInt8) : Prop :=
  match authHeaderDecode input with
  | .error _ => out = []
  | .ok (hdr, _) => ∃ ty payload, out = frame ty hdr.sessionId hdr.seq payload ∧
      (GrantedBy hdr.pktType ty ∨ ty = pktError)

/-- What a request is granted with. -/
def Grants (hdr : Header) (ty : UInt8) (res : Except AuthErr (List UInt8)) : Prop :=
  ∀ pkt, res = .ok pkt → ∃ payload, pkt = frame ty hdr.sessionId hdr.seq payload

variable {q : ℕ} {G : Type} [AddCommGroup G] [Module (ZMod q) G] {S : Suite q G} {cap : ℕ}
  {cfg : ServerConfig} {job : Job} {hdr : Header} {payload : List UInt8}

theorem grants_error {ty : UInt8} (e : AuthErr) : Grants hdr ty (.error e) := nofun

/-- The sections that return nothing that is sent. -/
theorem locked_always (r : Req) : (locked S cap cfg r).Always fun _ => True := fun _ => trivial

theorem dispatchSetup1_grants :
    (dispatchSetup1 S cap cfg job hdr payload).Always (Grants hdr pktSetup2) := by
  refine (locked_always .reserve).bind ?_
  rintro (_ | slot) -
  · exact grants_error _
  · dsimp only
    cases hr : authServerHandleSetup1 S cfg hdr.sessionId hdr.seq payload job.setup maxDatagram with
    | error e => exact (locked_always (.release slot)).bind fun _ _ => grants_error e
    | ok r =>
        obtain ⟨pending, pkt⟩ := r
        refine (locked_always (.activateSetup slot pending)).bind ?_
        rintro (e | _) -
        · exact grants_error e
        · rintro _ ⟨⟩
          obtain ⟨s1, proof, -, -, -, rfl⟩ := authServerHandleSetup1_ok hr
          exact ⟨_, rfl⟩

theorem dispatchSetup3_grants :
    (dispatchSetup3 S cap cfg job hdr payload).Always (Grants hdr pktSetupAck) := by
  refine (locked_always (.findSetup hdr.sessionId)).bind ?_
  rintro (_ | ⟨slot, pending⟩) -
  · exact grants_error _
  · dsimp only
    cases hr : authServerHandleSetup3 S pending hdr.sessionId hdr.seq payload maxDatagram with
    | error e => exact grants_error e
    | ok pkt =>
        refine (locked_always (.enroll slot pending job.save)).bind ?_
        rintro (e | _) -
        · exact grants_error e
        · rintro _ ⟨⟩
          obtain ⟨-, -, -, rfl⟩ := authServerHandleSetup3_eq_ok_iff.mp hr
          exact ⟨_, rfl⟩

theorem dispatchAuth3_grants :
    (dispatchAuth3 S cap cfg hdr payload).Always (Grants hdr pktAuthAck) := by
  refine (locked_always (.findAuth hdr.sessionId)).bind ?_
  rintro (_ | ⟨slot, pending⟩) -
  · exact grants_error _
  · refine (locked_always (.release slot)).bind fun _ _ pkt hr => ?_
    obtain ⟨-, -, -, rfl⟩ := authServerHandleAuth3_eq_ok_iff.mp hr
    exact ⟨_, rfl⟩

/-- A candidate that is accepted is answered with an AUTH_2, in whatever state of the cache. -/
theorem guardedAuth1_grants (candidate : Bytes 32 × Bytes 32) (draws : Auth2Draws) :
    (locked S cap cfg (.guardedAuth1 hdr.sessionId hdr.seq payload candidate draws)).Always
      fun (res : Except AuthErr (PendingAuth × List UInt8)) =>
        Grants hdr pktAuth2 (res.map Prod.snd) := by
  intro st pkt hres
  obtain ⟨e, hg⟩ | ⟨key, ⟨pending, pkt'⟩, -, -, ha, hg⟩ := authServerHandleAuth1Guarded_cases
    (S := S) cap st.replayCache cfg hdr.sessionId hdr.seq payload (.ok candidate) draws maxDatagram
  · simp only [execReq, hg] at hres
    cases hres
  · simp only [execReq, hg] at hres
    cases hres
    obtain ⟨a1, pub, rc, -, -, -, hr⟩ := authServerHandleAuth1_eq_ok_iff.mp ha
    obtain ⟨-, ephS, proof, shared, -, -, -, -, rfl⟩ := auth1Respond_eq_ok_iff.mp hr
    exact ⟨_, rfl⟩

theorem scanCandidates_grants (slot : ℕ) (draws : ℕ → Auth2Draws) (n i : ℕ) (last : AuthErr) :
    (scanCandidates S cap cfg slot hdr payload draws n i last).Always (Grants hdr pktAuth2) := by
  induction n generalizing i last with
  | zero => exact (locked_always (.release slot)).bind fun _ _ => grants_error last
  | succ n ih =>
      refine (locked_always (.registryEntry i)).bind fun entry _ => ?_
      refine (guardedAuth1_grants _ _).bind ?_
      rintro (e | ⟨pending, pkt⟩) hgrants
      · dsimp only
        split
        · exact (locked_always (.release slot)).bind fun _ _ => grants_error e
        · exact ih (i + 1) e
      · refine (locked_always (.activateAuth slot pending)).bind ?_
        rintro (e | _) -
        · exact grants_error e
        · exact hgrants

theorem tryHandleAuth1_grants :
    (tryHandleAuth1 S cap cfg job hdr payload).Always (Grants hdr pktAuth2) := by
  refine (locked_always .reserve).bind ?_
  rintro (_ | slot) -
  · exact grants_error _
  · exact (locked_always .registryCount).bind fun n _ => scanCandidates_grants slot _ n 0 _

/-- Whatever the other workers do meanwhile. -/
theorem dispatch_answers (job : Job) :
    (dispatch S cap cfg job).Always (AnsweredBy job.input) := by
  unfold dispatch AnsweredBy
  cases hd : authHeaderDecode job.input with
  | error e => exact rfl
  | ok r =>
      obtain ⟨hdr, payload⟩ := r
      have hbody : (dispatchBody S cap cfg job hdr payload).Always
          fun res => ∃ ty, Grants hdr ty res ∧ (GrantedBy hdr.pktType ty ∨ ∃ e, res = .error e) := by
        unfold dispatchBody
        split
        next ht => exact dispatchSetup1_grants.mono fun res h => ⟨_, h, .inl (ht ▸ .setup1)⟩
        split
        next ht => exact dispatchSetup3_grants.mono fun res h => ⟨_, h, .inl (ht ▸ .setup3)⟩
        split
        next ht => exact tryHandleAuth1_grants.mono fun res h => ⟨_, h, .inl (ht ▸ .auth1)⟩
        split
        next ht => exact dispatchAuth3_grants.mono fun res h => ⟨_, h, .inl (ht ▸ .auth3)⟩
        next => exact ⟨pktError, grants_error _, .inr ⟨_, rfl⟩⟩
      refine hbody.bind ?_
      rintro (e | pkt) ⟨ty, hgrants, hty⟩
      · exact ⟨pktError, _, errorReply_eq hdr e, .inr rfl⟩
      · obtain ⟨payload', rfl⟩ := hgrants pkt rfl
        exact ⟨ty, payload', rfl, .inl (hty.resolve_right nofun)⟩

/-! ## The server -/

/-- However the threads of the drivers are interleaved, they are a pool of workers that call
`dispatch`, and every packet has its own answer.  A connection gets the answers to its packets, in
their order and as whole packets, and a datagram is answered, if at all, to its sender. -/
theorem drivers_served (S : Suite q G) (cap : ℕ) (cfg : ServerConfig) (registry : Registry)
    (capacity : ℕ) (cache : ReplayCache) (input : ℕ → Chunks UInt8) (takes : ℕ → ℕ → ℕ)
    {d : Drivers (serverSections S cap cfg) ℕ Job (List UInt8) (ThreadLine Addr)}
    (r : Drivers.Reach (driverLines Addr) (dispatch S cap cfg)
      (.fresh (I := serverSections S cap cfg) ⟨registry, authSessionTableInit capacity, cache⟩
        (acceptedLines Addr input takes)) d) :
    (∃ as, d.Mirrors (serverRun S cap cfg (serverStart S cap cfg registry capacity cache) as)) ∧
    (∀ w, ∀ x ∈ (Event.started w d.log).zip (Event.finished w d.log),
      AnsweredBy x.1.input x.2) ∧
    UdpServed (fun job => some job.input) outOf (d.line 0 : UdpSocket Addr)
      (Event.started 0 d.log) (Event.finished 0 d.log) ∧
    ∀ c : ℕ, TcpServed (fun job => some job.input) outOf ⟨input c, ⟨[], takes c⟩⟩
      (d.line (c + 1) : Connection) (Event.started (c + 1) d.log)
      (Event.finished (c + 1) d.log) := by
  have hserves := Drivers.serves r
  refine ⟨Drivers.pool r, Drivers.allows dispatch_answers r, ?_, fun c => ?_⟩
  · exact datagrams_udpLine.served rfl (hserves 0)
  · exact framed_tcpLine.served rfl (hserves (c + 1))

/-! ## A run -/

/-- A SETUP_3 of a session that does not exist. -/
def demoLost : Job := demoJob (frame pktSetup3 (byteString 15 8) 2 [])

/-- The ERROR packet for it. -/
def demoError : List UInt8 := errorReply (.fresh pktSetup3 (byteString 15 8) 2) .unknownSession

theorem demoLost_code : ∃ k, dispatch smallSuite 4 demoConfig demoLost =
    .req (.findSetup (byteString 15 8)) k ∧ k none = .ret demoError := by
  rw [dispatch, show demoLost.input = frame pktSetup3 (byteString 15 8) 2 [] from rfl,
    authHeaderDecode_frame]
  exact ⟨_, rfl, rfl⟩

/-- The session of the SETUP_1 is another one. -/
theorem demoLost_unknown {p : PendingSetup} (h : p.sessionId = byteString 15 7) :
    lookupSetup [.setup p, .free, .free, .free] (byteString 15 8) = none := by
  obtain ⟨sid, deviceId, devicePub, roleCommitment, clientNonce, serverNonce, challenge, pub⟩ := p
  cases h
  rfl

/-- The SETUP_1 reserves a slot, and takes it for its session. -/
theorem demoSetup1_code : ∃ pending reply k₁ k₂,
    (pending.sessionId = byteString 15 7 ∧ pktTypeOf reply = pktSetup2 ∧
      reply.length ≤ maxDatagram ∧ reply ≠ []) ∧
    dispatch smallSuite 4 demoConfig demoSetup1 = .req .reserve k₁ ∧
    k₁ (some 0) = .req (.activateSetup 0 pending) k₂ ∧ k₂ (.ok ()) = .ret reply := by
  let payload := Setup1.bytes ⟨[], byteString 31 1, byteString 31 3, byteString 31 9, byteString 31 4⟩
  let hdr := Header.fresh pktSetup1 (byteString 15 7) 1
  have hreply : ((authServerHandleSetup1 smallSuite demoConfig hdr.sessionId hdr.seq payload
      demoSetup1.setup maxDatagram).toOption.map fun r =>
        decide (r.1.sessionId = byteString 15 7 ∧ pktTypeOf r.2 = pktSetup2 ∧
          r.2.length ≤ maxDatagram ∧ r.2 ≠ [])) = some true := by
    decide +kernel
  cases hr : authServerHandleSetup1 smallSuite demoConfig hdr.sessionId hdr.seq payload
      demoSetup1.setup maxDatagram with
  | error e =>
      rw [hr] at hreply
      cases hreply
  | ok r =>
      obtain ⟨pending, reply⟩ := r
      rw [hr] at hreply
      have hfacts := of_decide_eq_true (Option.some.inj hreply)
      have hcode : dispatch smallSuite 4 demoConfig demoSetup1 =
          dispatchSetup1 smallSuite 4 demoConfig demoSetup1 hdr payload >>= fun res =>
            .ret (replyOf hdr res) := by
        have hd : authHeaderDecode demoSetup1.input = .ok (hdr, payload) :=
          authHeaderDecode_frame _ _ _ _
        rw [dispatch, hd]
        rfl
      rw [hcode, dispatchSetup1, hr]
      exact ⟨pending, reply, _, _, hfacts, rfl, rfl, rfl⟩

/-- One peer sends the SETUP_1 in a datagram.  While it is served, a SETUP_3 of a session that does
not exist arrives over the first connection.  Another peer sends a copy of that in a datagram. -/
theorem demo_threads :
    ∃ (d : Drivers (serverSections smallSuite 4 demoConfig) ℕ Job (List UInt8) (ThreadLine Bool))
      (reply : List UInt8), pktTypeOf reply = pktSetup2 ∧
      Drivers.Reach (driverLines Bool) (dispatch smallSuite 4 demoConfig)
        (.fresh (I := serverSections smallSuite 4 demoConfig)
          ⟨[], authSessionTableInit 4, authReplayCacheInit⟩
          (acceptedLines Bool (fun _ => .whole (tcpFrame demoLost.input)) fun _ => id)) d ∧
      (d.line 0 : UdpSocket Bool).sent = [(true, reply), (false, demoError)] ∧
      (d.line 1 : Connection).output.written = tcpFrame demoError := by
  obtain ⟨pending, reply, k₁, k₂, ⟨hsid, hty, hlen, hne⟩, hsetup, hreserved, hactivated⟩ :=
    demoSetup1_code
  obtain ⟨k, hlost, hunknown⟩ := demoLost_code
  have herror : demoError ≠ [] ∧ demoError.length ≤ maxDatagram := by decide +kernel
  obtain ⟨stream, hrecv, -⟩ := authTcpRecv_frame 0
    (by decide : demoLost.input.length ≤ maxDatagram)
    (show (Chunks.whole (tcpFrame demoLost.input)).contents = tcpFrame demoLost.input ++ [] by simp)
  obtain ⟨hsent, hwritten⟩ := authTcpSend_frame herror.2 ⟨[], id⟩
  -- what the requests do
  let start : ServerState := ⟨[], authSessionTableInit 4, authReplayCacheInit⟩
  let reserved : ServerState := ⟨[], [.reserved, .free, .free, .free], authReplayCacheInit⟩
  let activated : ServerState := ⟨[], [.setup pending, .free, .free, .free], authReplayCacheInit⟩
  have hreserve : execReq smallSuite 4 demoConfig start .reserve = (reserved, some 0) := rfl
  have hmissing : execReq smallSuite 4 demoConfig reserved (.findSetup (byteString 15 8)) =
      (reserved, none) := rfl
  have hactivate : execReq smallSuite 4 demoConfig reserved (.activateSetup 0 pending) =
      (activated, .ok ()) := rfl
  have hmissing' : execReq smallSuite 4 demoConfig activated (.findSetup (byteString 15 8)) =
      (activated, none) := Prod.ext rfl (demoLost_unknown hsid)
  -- the socket and the connection as they are received from and sent to
  let input : ℕ → Chunks UInt8 := fun _ => .whole (tcpFrame demoLost.input)
  let first : UdpSocket Bool := ⟨some true, [(true, demoSetup1.input)], []⟩
  let second : UdpSocket Bool := ⟨some false, [(true, demoSetup1.input), (false, demoLost.input)],
    [(true, reply)]⟩
  have hfirst : (udpLine Bool).recv .bound demoSetup1 first :=
    ⟨true, demoSetup1.input, (List.take_of_length_le (by decide +kernel)).symm, rfl⟩
  have hsecond : (udpLine Bool).recv { first with sent := [(true, reply)] } demoLost second :=
    ⟨false, demoLost.input, (List.take_of_length_le (by decide +kernel)).symm, rfl⟩
  have hgranted : (udpLine Bool).send first reply true { first with sent := [(true, reply)] } := by
    refine ⟨rfl, ?_⟩
    rw [outOf, if_neg hne]
    exact .inr ⟨hlen, true, rfl, rfl⟩
  have hrefused : (udpLine Bool).send second demoError true
      { second with sent := [(true, reply), (false, demoError)] } := by
    refine ⟨rfl, ?_⟩
    rw [outOf, if_neg herror.1]
    exact .inr ⟨herror.2, false, rfl, rfl⟩
  let served : Connection := ⟨stream, ⟨[], id⟩⟩
  let answered : Connection := ⟨stream, ((authTcpSend demoError).exec ⟨[], id⟩).2⟩
  have hserved : tcpLine.recv ⟨input 0, ⟨[], id⟩⟩ demoLost served := ⟨hrecv, rfl⟩
  have hanswered : tcpLine.send served demoError true answered := by
    have hout : outOf demoError = some demoError := if_neg herror.1
    show match outOf demoError, true with
      | some packet, true => Connection.Sends authTcpSend served packet answered
      | some packet, false => Connection.Breaks authTcpSend served packet answered
      | none, go => go = true ∧ answered = served
    rw [hout]
    exact ⟨Prod.ext hsent rfl, rfl⟩
  have hreach : Drivers.Reach (driverLines Bool) (dispatch smallSuite 4 demoConfig)
      (.fresh (I := serverSections smallSuite 4 demoConfig)
        start (acceptedLines Bool input fun _ => id)) _ := .refl
  have hreach := hreach.recv (w := 0) (l := first) rfl hfirst hsetup
  have hreach := hreach.recv (w := 1) (l := served) rfl hserved hlost
  have hreach := hreach.act (w := 0) rfl rfl hreserve hreserved
  have hreach := hreach.act (w := 1) rfl rfl hmissing hunknown
  have hreach := hreach.act (w := 0) rfl rfl hactivate hactivated
  have hreach := hreach.send (w := 1) (l := answered) rfl hanswered
  have hreach := hreach.send (w := 0) (l := { first with sent := [(true, reply)] }) rfl hgranted
  have hreach := hreach.recv (w := 0) (l := second) rfl hsecond hlost
  have hreach := hreach.act (w := 0) rfl rfl hmissing' hunknown
  have hreach := hreach.send (w := 0)
    (l := { second with sent := [(true, reply), (false, demoError)] }) rfl hrefused
  exact ⟨_, reply, hty, hreach, rfl, hwritten⟩

/-- What the two threads have carried then. -/
theorem drivers_served_two_threads :
    ∃ (d : Drivers (serverSections smallSuite 4 demoConfig) ℕ Job (List UInt8) (ThreadLine Bool))
      (reply : List UInt8), pktTypeOf reply = pktSetup2 ∧
      (d.line 0 : UdpSocket Bool).sent = [(true, reply), (false, demoError)] ∧
      (d.line 1 : Connection).output.written = tcpFrame demoError ∧
      (∃ as, d.Mirrors (serverRun smallSuite 4 demoConfig
        (serverStart smallSuite 4 demoConfig [] 4 authReplayCacheInit) as)) ∧
      UdpServed (fun job => some job.input) outOf (d.line 0 : UdpSocket Bool)
        (Event.started 0 d.log) (Event.finished 0 d.log) ∧
      TcpServed (fun job => some job.input) outOf ⟨.whole (tcpFrame demoLost.input), ⟨[], id⟩⟩
        (d.line 1 : Connection) (Event.started 1 d.log) (Event.finished 1 d.log) := by
  obtain ⟨d, reply, hty, hreach, hsent, hwritten⟩ := demo_threads
  obtain ⟨hpool, -, hudp, htcp⟩ := drivers_served smallSuite 4 demoConfig [] 4 authReplayCacheInit
    (fun _ => .whole (tcpFrame demoLost.input)) (fun _ => id) hreach
  exact ⟨d, reply, hty, hsent, hwritten, hpool, hudp, htcp 0⟩

end ZkArche.C
