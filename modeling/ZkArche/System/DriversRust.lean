import ZkArche.Panics.ServerRuns
import ZkArche.Server.SessionsRust
import ZkArche.Transport.Lines

/-!
# The drivers of the Rust server

`run_udp` and `handle_tcp_connection` of `server/src/main.rs`: a thread for the UDP socket, and one
for every connection that `run_tcp` accepts.  The shared state is behind one mutex, and a thread
holds it while it collects what is due and calls `dispatch_packet`.

However the threads are interleaved, the state goes through a run of the server that is studied in
`Server`, and every line carries whole packets and their answers, in order (`drivers_serve`).
-/

namespace ZkArche.Rust

/-! ## The loops -/

/-- What a thread has after its critical section, or nothing when the lock was poisoned. -/
abbrev Answer := Option (Except Stop (Option (List UInt8)))

/-- The response that is sent. -/
def Answer.response : Answer → Option (List UInt8)
  | some (.ok resp) => resp
  | _ => none

/-- The packet of an operation. -/
def LockedOp.bytes {Addr G : Type} : LockedOp Addr G → Option (List UInt8)
  | .packet a _ _ _ => some a.bytes
  | _ => none

/-- The packet of an operation, with its sender. -/
def LockedOp.datagram {Addr G : Type} : LockedOp Addr G → Option (Addr × List UInt8)
  | .packet a _ _ _ => some (a.peer, a.bytes)
  | _ => none

/-- The thread of a TCP connection.  It is in its loop once it knows `io_timeout`. -/
structure TcpServerPeer (Addr : Type) where
  peer : Addr
  stream : Connection
  looping : Bool

/-- The threads of the server. -/
inductive Thread where
  | udp
  | tcp (c : ℕ)
deriving DecidableEq

/-- The line of a thread. -/
def ThreadLine (Addr : Type) : Thread → Type
  | .udp => UdpSocket Addr
  | .tcp _ => TcpServerPeer Addr

section

variable (Addr G : Type)

/-- The loop of `run_udp`. -/
def udpLine : Line (UdpSocket Addr) (LockedOp Addr G) Answer where
  recv u op u' :=
    (∃ a now pickSetup pickAuth, op = .packet a now pickSetup pickAuth ∧
      u.Receives a.peer a.bytes u') ∨
    -- the receive timed out
    (∃ now pickSetup pickAuth, op = .gc now pickSetup pickAuth ∧ u' = { u with peer := none })
  miss u go u' := go = true ∧ u' = u
  send u ans go u' :=
    match ans with
    | some (.ok (some resp)) => go = true ∧ u.Sends resp u'
    | some (.ok none) => go = true ∧ u' = u
    -- the thread panicked
    | _ => go = false ∧ u' = u

/-- `handle_tcp_connection`. -/
def tcpLine : Line (TcpServerPeer Addr) (LockedOp Addr G) Answer where
  recv t op t' :=
    (t.looping = false ∧ op = .connect ∧ t' = { t with looping := true }) ∨
    (t.looping = true ∧ ∃ a now pickSetup pickAuth stream,
      op = .packet a now pickSetup pickAuth ∧ a.peer = t.peer ∧
        t.stream.Receives recvFramed a.bytes stream ∧ t' = { t with stream := stream })
  miss t go t' := t.looping = true ∧ go = false ∧
    ∃ stream, t.stream.Misses recvFramed stream ∧ t' = { t with stream := stream }
  send t ans go t' :=
    match ans, go with
    | some (.ok (some resp)), true =>
        ∃ stream, t.stream.Sends sendFramed resp stream ∧ t' = { t with stream := stream }
    | some (.ok (some resp)), false =>
        ∃ stream, t.stream.Breaks sendFramed resp stream ∧ t' = { t with stream := stream }
    | some (.ok none), go => go = true ∧ t' = t
    -- the thread panicked
    | _, go => go = false ∧ t' = t

/-- The loops of the threads. -/
def driverLines : (w : Thread) → Line (ThreadLine Addr w) (LockedOp Addr G) Answer
  | .udp => udpLine Addr G
  | .tcp _ => tcpLine Addr G

end

/-- A connection that is accepted. -/
def acceptedPeer {Addr : Type} (peer : Addr) (input : Chunks UInt8) (takes : ℕ → ℕ) :
    TcpServerPeer Addr := ⟨peer, ⟨input, ⟨[], takes⟩⟩, false⟩

/-- The socket when it is bound, and the connections when they are accepted. -/
def acceptedLines {Addr : Type} (peer : ℕ → Addr) (input : ℕ → Chunks UInt8) (takes : ℕ → ℕ → ℕ) :
    (w : Thread) → ThreadLine Addr w
  | .udp => .bound
  | .tcp c => acceptedPeer (peer c) (input c) (takes c)

/-! ## The lines -/

section

variable {Addr G : Type}

theorem datagrams_udpLine : DatagramLine (udpLine Addr G) id LockedOp.bytes Answer.response where
  recv := by
    rintro u op u' (⟨a, now, pickSetup, pickAuth, rfl, -, -, rfl⟩ |
      ⟨now, pickSetup, pickAuth, rfl, rfl⟩)
    · exact ⟨rfl, a.peer, rfl, rfl⟩
    · exact ⟨rfl, rfl, rfl⟩
  miss := fun h => h.2
  send := by
    intro u ans go u' h
    rcases ans with _ | ⟨stop | _ | resp⟩
    · exact .inl h.2
    · exact .inl h.2
    · exact .inl h.2
    · exact .inr ⟨resp, rfl, h.2⟩

theorem framed_tcpLine : FramedLine (tcpLine Addr G) TcpServerPeer.stream LockedOp.bytes
    Answer.response where
  recv := by
    rintro t op t' (⟨-, rfl, rfl⟩ | ⟨-, a, now, pickSetup, pickAuth, stream, rfl, -, hrecv, rfl⟩)
    · exact ⟨rfl, rfl⟩
    · exact ⟨(framing.recv_ok _ _ _ hrecv.1).2, congrArg Sink.written hrecv.2⟩
  miss := by
    rintro t go t' ⟨-, rfl, stream, hmiss, rfl⟩
    exact ⟨rfl, congrArg Sink.written hmiss.2⟩
  send := by
    intro t ans t' h
    rcases ans with _ | ⟨stop | _ | resp⟩
    · cases h.1
    · cases h.1
    · obtain ⟨-, rfl⟩ := h
      exact ⟨rfl, by simp [frameOf, Answer.response], fun _ hp => by cases hp⟩
    · obtain ⟨stream, ⟨hsend, hinput⟩, rfl⟩ := h
      obtain ⟨hfit, hwritten⟩ := framing.send_ok _ _ _ hsend
      refine ⟨congrArg Chunks.contents hinput, hwritten, ?_⟩
      rintro p ⟨⟩
      exact hfit
  broken := by
    intro t ans t' h
    rcases ans with _ | ⟨stop | _ | resp⟩
    · obtain ⟨-, rfl⟩ := h
      exact ⟨[], List.nil_prefix, (List.append_nil _).symm⟩
    · obtain ⟨-, rfl⟩ := h
      exact ⟨[], List.nil_prefix, (List.append_nil _).symm⟩
    · cases h.1
    · obtain ⟨stream, ⟨e, herr⟩ | ⟨part, hprefix, hwritten⟩, rfl⟩ := h
      · refine ⟨[], List.nil_prefix, ?_⟩
        rw [List.append_nil]
        exact framing.send_error _ _ _ _ herr
      · exact ⟨part, hprefix, hwritten⟩

/-- The socket received the packets of its operations. -/
theorem udpLine_received {u : UdpSocket Addr} {xs : List (LockedOp Addr G × Answer)}
    {pending : Option (LockedOp Addr G)} {go : Bool}
    (t : (udpLine Addr G).Talk .bound xs pending go u) :
    u.received = (xs.map Prod.fst ++ pending.toList).filterMap LockedOp.datagram := by
  induction t with
  | start => rfl
  | recv t hr ih =>
      obtain ⟨a, now, pickSetup, pickAuth, rfl, -, -, rfl⟩ |
        ⟨now, pickSetup, pickAuth, rfl, rfl⟩ := hr
      · simp [ih, LockedOp.datagram]
      · simp [ih, LockedOp.datagram]
  | miss t hm ih =>
      rw [hm.2]
      exact ih
  | @send xs u u' op ans go t hs ih =>
      have hkeep : u'.received = u.received := by
        rcases datagrams_udpLine.send hs with h | ⟨resp, -, h | ⟨-, peer, -, h⟩⟩
        · rw [show u' = u from h]
        · rw [show u' = u from h]
        · rw [show u' = _ from h]
          rfl
      rw [hkeep, ih]
      simp

/-- Every packet of a connection is from its peer. -/
theorem tcpLine_peer {t₀ t : TcpServerPeer Addr} {xs : List (LockedOp Addr G × Answer)}
    {pending : Option (LockedOp Addr G)} {go : Bool}
    (h : (tcpLine Addr G).Talk t₀ xs pending go t) : t.peer = t₀.peer ∧
      ∀ x ∈ (xs.map Prod.fst ++ pending.toList).filterMap LockedOp.datagram, x.1 = t₀.peer := by
  induction h with
  | start => exact ⟨rfl, nofun⟩
  | recv t hr ih =>
      obtain ⟨hpeer, hall⟩ := ih
      rw [Option.toList, List.append_nil] at hall
      obtain ⟨-, rfl, rfl⟩ | ⟨-, a, now, pickSetup, pickAuth, stream, rfl, ha, -, rfl⟩ := hr
      · refine ⟨hpeer, fun x hx => hall x ?_⟩
        simpa [LockedOp.datagram] using hx
      · refine ⟨hpeer, fun x hx => ?_⟩
        rw [List.filterMap_append] at hx
        rcases List.mem_append.mp hx with hx | hx
        · exact hall x hx
        · have hlast : x = (a.peer, a.bytes) := by simpa [LockedOp.datagram] using hx
          rw [hlast]
          exact ha.trans hpeer
  | miss t hm ih =>
      obtain ⟨-, -, stream, -, rfl⟩ := hm
      exact ih
  | @send xs t t' op ans go h hs ih =>
      have hjobs : (xs ++ [(op, ans)]).map Prod.fst ++ (none : Option (LockedOp Addr G)).toList =
          xs.map Prod.fst ++ (some op).toList := by simp
      rw [hjobs]
      refine ⟨?_, ih.2⟩
      rcases ans with _ | ⟨stop | _ | resp⟩
      · obtain ⟨-, rfl⟩ := hs
        exact ih.1
      · obtain ⟨-, rfl⟩ := hs
        exact ih.1
      · obtain ⟨-, rfl⟩ := hs
        exact ih.1
      · cases go with
        | true =>
            obtain ⟨stream, -, rfl⟩ := hs
            exact ih.1
        | false =>
            obtain ⟨stream, -, rfl⟩ := hs
            exact ih.1

end

/-! ## The state behind the mutex -/

section

variable {Addr : Type} [DecidableEq Addr] {q : ℕ} {G : Type} [AddCommGroup G]
  [Module (ZMod q) G] [DecidableEq G] (S : Suite q G) (K : Crates S)

/-- A packet and the response to it. -/
def Entry.exchange (e : Entry Addr q G) : Option (Addr × List UInt8 × Option (List UInt8)) :=
  match e.1, e.2.reply with
  | .packet pk, some reply => some (pk.peer, pk.bytes, reply.sent)
  | _, _ => none

/-- A packet that was handled under the lock, and the response to it. -/
def handled (x : LockedOp Addr G × Answer) : Option (Addr × List UInt8 × Option (List UInt8)) :=
  match x.1, x.2 with
  | .packet a _ _ _, some ans => some (a.peer, a.bytes, Answer.response (some ans))
  | _, _ => none

variable {S K} {st₀ : ServerState Addr G}

omit [DecidableEq Addr] [AddCommGroup G] [DecidableEq G] in
theorem handled_packet (a : Arrival Addr G) (now : ℕ) (pickSetup pickAuth : ℕ → ℕ) (r : Reply) :
    handled (.packet a now pickSetup pickAuth, some r.returned) =
      some (a.peer, a.bytes, r.sent) := by
  cases r <;> rfl

/-- What happens under the lock is a run of the server. -/
theorem sharedServer_run {h : List (LockedOp Addr G × Answer)} {m : Mutex (ServerState Addr G)}
    (r : (sharedServer S K st₀).Run Machine.anyInput h m) :
    ∃ h', (server S st₀).Run Machine.anyInput h' m.state ∧
      h'.filterMap Entry.exchange = h.filterMap handled := by
  induction r with
  | init hm =>
      cases hm
      exact ⟨[], .init rfl, rfl⟩
  | @step h m op r _ ih =>
      obtain ⟨h', r', hsame⟩ := ih
      cases hm : m.poisoned with
      | true =>
          have hstep : (sharedServer S K st₀).step m op = (m, none) := Mutex.withLock_of_poisoned hm _
          rw [hstep]
          refine ⟨h', r', ?_⟩
          rw [hsame, List.filterMap_cons_none]
          cases op <;> rfl
      | false =>
          obtain ⟨hstate, hans⟩ := Mutex.withLock_of_healthy hm (underLock S K op)
          show ∃ h', (server S st₀).Run Machine.anyInput h' (m.withLock (underLock S K op)).1.state ∧
            _ = ((op, (m.withLock (underLock S K op)).2) :: h).filterMap handled
          rw [hstate, hans]
          cases op with
          | packet a now pickSetup pickAuth =>
              have r'' := (r'.step (.gc now pickSetup pickAuth) trivial).step
                (.packet (a.packet q)) trivial
              refine ⟨_, by rw [underLock, Checked.dispatchPacket_eq]; exact r'', ?_⟩
              rw [underLock, Checked.dispatchPacket_eq]
              rw [List.filterMap_cons_some (handled_packet a now pickSetup pickAuth _), ← hsame]
              rfl
          | gc now pickSetup pickAuth =>
              have r'' := r'.step (.gc now pickSetup pickAuth) trivial
              exact ⟨_, r'', hsame⟩
          | connect => exact ⟨h', r', hsame⟩

/-- A packet without a valid header gets no response.  Every other packet gets one, with its session
identifier and sequence number. -/
def AnsweredBy (op : LockedOp Addr G) (ans : Answer) : Prop :=
  ∀ a now pickSetup pickAuth resp, op = .packet a now pickSetup pickAuth → ans = some (.ok resp) →
    match parsePacket a.bytes with
    | .error _ => resp = none
    | .ok (hdr, _) => ∃ packet, resp = some packet ∧ Labelled (cacheKey hdr) packet

omit [DecidableEq Addr] [AddCommGroup G] [Module (ZMod q) G] [DecidableEq G] in
theorem conclude_ne_dropped (st : ServerState Addr G) (hdr : Header) (pk : Packet Addr q G)
    (r : Except Stop (List UInt8)) : (conclude st hdr pk r).2 ≠ .dropped := by
  unfold conclude
  split <;> exact nofun

theorem dispatchPacket_answers {st : ServerState Addr G} (hc : CacheLabelled st)
    (a : Arrival Addr G) {resp : Option (List UInt8)}
    (hret : (dispatchPacket S st (a.packet q)).2.returned = .ok resp) :
    match parsePacket a.bytes with
    | .error _ => resp = none
    | .ok (hdr, _) => ∃ packet, resp = some packet ∧ Labelled (cacheKey hdr) packet := by
  have hbytes : (a.packet q).bytes = a.bytes := rfl
  cases hp : parsePacket a.bytes with
  | error e =>
      simp only [dispatchPacket, hbytes, hp, Reply.returned, Reply.sent, Except.ok.injEq] at hret
      exact hret.symm
  | ok v =>
      obtain ⟨hdr, payload⟩ := v
      have hlabel : ∀ packet, (dispatchPacket S st (a.packet q)).2.sent = some packet →
          Labelled (cacheKey hdr) packet :=
        fun packet hs => dispatchPacket_labelled hc (hbytes ▸ hp) hs
      cases hr : (dispatchPacket S st (a.packet q)).2 with
      | dropped =>
          simp only [dispatchPacket, hbytes, hp] at hr
          split at hr
          next => cases hr
          next => exact absurd hr (conclude_ne_dropped _ hdr _ _)
      | cached packet =>
          rw [hr] at hret hlabel
          cases hret
          exact ⟨packet, rfl, hlabel packet rfl⟩
      | fresh packet =>
          rw [hr] at hret hlabel
          cases hret
          exact ⟨packet, rfl, hlabel packet rfl⟩
      | panicked stop =>
          rw [hr] at hret
          cases hret

/-- The cached responses stay labelled, and everything under the lock is answered. -/
theorem sharedServer_answers (h₀ : CacheLabelled st₀) {h : List (LockedOp Addr G × Answer)}
    {m : Mutex (ServerState Addr G)} (r : (sharedServer S K st₀).Run Machine.anyInput h m) :
    CacheLabelled m.state ∧ ∀ e ∈ h, AnsweredBy e.1 e.2 := by
  apply r.invariant (P := fun h m => CacheLabelled m.state ∧ ∀ e ∈ h, AnsweredBy e.1 e.2)
  · rintro m rfl
    exact ⟨h₀, List.forall_mem_nil _⟩
  · intro h m op _ _ hinv
    cases hm : m.poisoned with
    | true =>
        have hstep : (sharedServer S K st₀).step m op = (m, none) := Mutex.withLock_of_poisoned hm _
        rw [hstep]
        exact ⟨hinv.1, List.forall_mem_cons.mpr ⟨nofun, hinv.2⟩⟩
    | false =>
        obtain ⟨hstate, hans⟩ := Mutex.withLock_of_healthy hm (underLock S K op)
        show CacheLabelled (m.withLock (underLock S K op)).1.state ∧
          ∀ e ∈ (op, (m.withLock (underLock S K op)).2) :: h, AnsweredBy e.1 e.2
        rw [hstate, hans]
        refine ⟨?_, List.forall_mem_cons.mpr ⟨?_, hinv.2⟩⟩
        · cases op with
          | packet a now pickSetup pickAuth =>
              rw [underLock, Checked.dispatchPacket_eq]
              exact (hinv.1.step (S := S) (.gc now pickSetup pickAuth)).step (S := S)
                (.packet (a.packet q))
          | gc now pickSetup pickAuth => exact hinv.1.step (S := S) (.gc now pickSetup pickAuth)
          | connect => exact hinv.1
        · rintro a now pickSetup pickAuth resp rfl hresp
          rw [underLock, Checked.dispatchPacket_eq, Option.some.injEq] at hresp
          exact dispatchPacket_answers (hinv.1.step (S := S) (.gc now pickSetup pickAuth)) a hresp

theorem Reply.returned_of_sent {r : Reply} {packet : List UInt8} (h : r.sent = some packet) :
    r.returned = .ok (some packet) := by
  cases r with
  | dropped => cases h
  | cached pkt => exact congrArg Except.ok h
  | fresh pkt => exact congrArg Except.ok h
  | panicked stop => cases h

/-- A packet that is answered, when no collection is due. -/
theorem sharedServer_packet {st : ServerState Addr G} {a : Arrival Addr G} {now : ℕ}
    {pickSetup pickAuth : ℕ → ℕ} {packet : List UInt8}
    (hgc : gcIfDue st now pickSetup pickAuth = st)
    (hsent : (dispatchPacket S st (a.packet q)).2.sent = some packet) :
    (sharedServer S K st₀).step ⟨st, false⟩ (.packet a now pickSetup pickAuth) =
      (⟨(dispatchPacket S st (a.packet q)).1, false⟩, some (.ok (some packet))) := by
  have hlock : underLock S K (.packet a now pickSetup pickAuth) st =
      ((dispatchPacket S st (a.packet q)).1, .ok (some packet)) := by
    rw [underLock, hgc, Checked.dispatchPacket_eq, Reply.returned_of_sent hsent]
  have hstep := Mutex.withLock_of_ok (m := ⟨st, false⟩) rfl (congrArg Prod.snd hlock)
  rw [hlock] at hstep
  exact hstep

/-! ## The server -/

variable (S K)

/-- The threads of a server with this state behind its mutex. -/
abbrev ServerDrivers (start : ServerState Addr G) : Type :=
  Drivers (.ofMachine (sharedServer S K start)) Thread (LockedOp Addr G) Answer (ThreadLine Addr)

/-- The server is started, and connections are accepted.  What they will receive is given. -/
def driversStart (start : ServerState Addr G) (peer : ℕ → Addr) (input : ℕ → Chunks UInt8)
    (takes : ℕ → ℕ → ℕ) : ServerDrivers S K start :=
  .fresh (I := .ofMachine (sharedServer S K start)) ⟨start, false⟩ (acceptedLines peer input takes)

/-- What the threads can reach. -/
abbrev DriversReach (start : ServerState Addr G) :
    ServerDrivers S K start → ServerDrivers S K start → Prop :=
  Drivers.Reach (driverLines Addr G) (Prog.call (I := .ofMachine (sharedServer S K start)))

variable {S K}

/-- As long as the texts of the storage errors fit a packet, no thread panics. -/
theorem drivers_healthy {start : ServerState Addr G} {d : ServerDrivers S K start}
    (htold : Drivers.Told d)
    (hshort : ∀ w, ∀ op ∈ Event.started w d.log, op.StorageShort) :
    Mutex.poisoned d.shared = false ∧
      ∀ w, ∀ x ∈ Event.exchanges w d.log, ∃ resp, x.2 = some (.ok resp) := by
  have hadmit : ∀ e ∈ (Event.requests d.log).map Prod.snd, e.1.StorageShort := by
    intro e he
    obtain ⟨⟨w, x⟩, hx, rfl⟩ := List.mem_map.mp he
    rw [Event.mem_requests, htold.own] at hx
    exact hshort w x.1 (List.of_mem_zip hx).1
  obtain ⟨hhealthy, hreturned⟩ := Mutex.Run.healthy (fun op st => underLock_returns S K op st)
    (htold.run.restrict hadmit)
  refine ⟨hhealthy, fun w x hx => hreturned x ?_⟩
  exact List.mem_map_of_mem (f := Prod.snd) (Event.mem_requests.mpr hx)

/-- However the threads of the drivers are interleaved, the state goes through a run of the server,
every thread has the answers to its operations, and every packet has its own answer.  No thread
panics, as long as the texts of the storage errors fit a packet.  A connection gets the answers to
its packets, in their order and as whole packets, and a datagram is answered, if at all, to its
sender. -/
theorem drivers_serve (S : Suite q G) (K : Crates S) (profile : Profile) (serverPub : G)
    (registry : Registry G) (replay : MemoryReplayCache) (token : Option (List UInt8)) (now : ℕ)
    (peer : ℕ → Addr) (input : ℕ → Chunks UInt8) (takes : ℕ → ℕ → ℕ)
    {d : ServerDrivers S K (.start profile serverPub registry replay token now)}
    (r : DriversReach S K _ (driversStart S K _ peer input takes) d) :
    (∃ h, (server S (.start profile serverPub registry replay token now)).Run Machine.anyInput h
        (Mutex.state d.shared) ∧
      h.filterMap Entry.exchange = (Event.requests d.log).filterMap fun x => handled x.2) ∧
    (∀ w, Event.exchanges w d.log = (Event.started w d.log).zip (Event.finished w d.log) ∧
      ∀ x ∈ Event.exchanges w d.log, AnsweredBy x.1 x.2) ∧
    ((∀ w, ∀ op ∈ Event.started w d.log, op.StorageShort) → Mutex.poisoned d.shared = false ∧
      ∀ w, ∀ x ∈ Event.exchanges w d.log, ∃ resp, x.2 = some (.ok resp)) ∧
    ((d.line .udp : UdpSocket Addr).received =
        (Event.started .udp d.log).filterMap LockedOp.datagram ∧
      UdpServed LockedOp.bytes Answer.response (d.line .udp : UdpSocket Addr)
        (Event.started .udp d.log) (Event.finished .udp d.log)) ∧
    ∀ c : ℕ, (∀ x ∈ (Event.started (.tcp c) d.log).filterMap LockedOp.datagram, x.1 = peer c) ∧
      TcpServed LockedOp.bytes Answer.response ⟨input c, ⟨[], takes c⟩⟩
        (d.line (.tcp c) : TcpServerPeer Addr).stream (Event.started (.tcp c) d.log)
        (Event.finished (.tcp c) d.log) := by
  have hserves := Drivers.serves r
  have htold := Drivers.told rfl r
  have hlabelled : CacheLabelled
      (.start profile serverPub registry replay token now : ServerState Addr G) := by
    intro key c hl
    cases hl
  refine ⟨?_, fun w => ⟨htold.own w, fun x hx => ?_⟩, drivers_healthy htold, ⟨?_, ?_⟩,
    fun c => ⟨?_, ?_⟩⟩
  · obtain ⟨h, hrun, hsame⟩ := sharedServer_run htold.run
    exact ⟨h, hrun, by rw [hsame, List.filterMap_map]; rfl⟩
  · have hmem := List.mem_map_of_mem (f := Prod.snd) (Event.mem_requests.mpr hx)
    exact (sharedServer_answers hlabelled htold.run).2 x hmem
  · obtain ⟨xs, pending, go, htalk, hjobs⟩ := (hserves .udp).talk
    rw [hjobs]
    exact udpLine_received htalk
  · exact datagrams_udpLine.served rfl (hserves .udp)
  · obtain ⟨xs, pending, go, htalk, hjobs⟩ := (hserves (.tcp c)).talk
    rw [hjobs]
    exact (tcpLine_peer htalk).2
  · exact framed_tcpLine.served rfl (hserves (.tcp c))

/-! ## A run -/

/-- A datagram is received.  While it is served, a packet arrives over the first connection, from
another peer.  Both are answered. -/
theorem threads_serve {start : ServerState Addr G} {m₁ m₂ : Mutex (ServerState Addr G)}
    {a b : Arrival Addr G} {reply answer : List UInt8}
    (hfirst : (sharedServer S K start).step ⟨start, false⟩ (.packet a 0 id id) =
      (m₁, some (.ok (some reply))))
    (hsecond : (sharedServer S K start).step m₁ (.packet b 0 id id) =
      (m₂, some (.ok (some answer))))
    (ha : a.bytes.length ≤ maxDatagram) (hb : b.bytes.length ≤ maxDatagram)
    (hreply : reply.length ≤ maxDatagram) (hanswer : answer.length ≤ maxDatagram) :
    ∃ d : ServerDrivers S K start,
      DriversReach S K start (driversStart S K start (fun _ => b.peer)
        (fun _ => .whole (tcpFrame b.bytes)) fun _ => id) d ∧
      (d.line .udp : UdpSocket Addr).sent = [(a.peer, reply)] ∧
      Event.finished (.tcp 0) d.log = [some (.ok none), some (.ok (some answer))] ∧
      (d.line (.tcp 0) : TcpServerPeer Addr).stream.output.written = tcpFrame answer := by
  obtain ⟨stream, hrecv, -⟩ := recvFramed_frame hb
    (show (Chunks.whole (tcpFrame b.bytes)).contents = tcpFrame b.bytes ++ [] by simp)
  obtain ⟨hsent, hwritten⟩ := sendFramed_frame hanswer ⟨[], id⟩
  -- the socket and the connection as they are received from and sent to
  let input : Chunks UInt8 := .whole (tcpFrame b.bytes)
  let heard : UdpSocket Addr := ⟨some a.peer, [(a.peer, a.bytes)], []⟩
  let looping : TcpServerPeer Addr := ⟨b.peer, ⟨input, ⟨[], id⟩⟩, true⟩
  let served : TcpServerPeer Addr := ⟨b.peer, ⟨stream, ⟨[], id⟩⟩, true⟩
  let answered : TcpServerPeer Addr :=
    ⟨b.peer, ⟨stream, ((sendFramed answer).exec ⟨[], id⟩).2⟩, true⟩
  have hheard : (udpLine Addr G).recv .bound (.packet a 0 id id) heard :=
    .inl ⟨a, 0, id, id, rfl, a.bytes, (List.take_of_length_le ha).symm, rfl⟩
  have hgranted : (udpLine Addr G).send heard (some (.ok (some reply))) true
      { heard with sent := [(a.peer, reply)] } := ⟨rfl, .inr ⟨hreply, a.peer, rfl, rfl⟩⟩
  have hlooping : (tcpLine Addr G).recv (acceptedPeer b.peer input id) .connect looping :=
    .inl ⟨rfl, rfl, rfl⟩
  have hserved : (tcpLine Addr G).recv looping (.packet b 0 id id) served :=
    .inr ⟨rfl, b, 0, id, id, ⟨stream, ⟨[], id⟩⟩, rfl, rfl, ⟨hrecv, rfl⟩, rfl⟩
  have hanswered : (tcpLine Addr G).send served (some (.ok (some answer))) true answered :=
    ⟨⟨stream, _⟩, ⟨Prod.ext hsent rfl, rfl⟩, rfl⟩
  have hconnect : (sharedServer S K start).step ⟨start, false⟩ .connect =
      (⟨start, false⟩, some (.ok none)) := rfl
  have hreach : DriversReach S K start (driversStart S K start (fun _ => b.peer) (fun _ => input)
      fun _ => id) _ := .refl
  have hreach := hreach.recv (w := .udp) (l := heard) rfl hheard rfl
  have hreach := hreach.recv (w := .tcp 0) (l := looping) rfl hlooping rfl
  have hreach := hreach.act (w := .tcp 0) rfl rfl hconnect rfl
  have hreach := hreach.send (w := .tcp 0) (l := looping) rfl ⟨rfl, rfl⟩
  have hreach := hreach.recv (w := .tcp 0) (l := served) rfl hserved rfl
  have hreach := hreach.act (w := .udp) rfl rfl hfirst rfl
  have hreach := hreach.act (w := .tcp 0) rfl rfl hsecond rfl
  have hreach := hreach.send (w := .tcp 0) (l := answered) rfl hanswered
  have hreach := hreach.send (w := .udp) (l := { heard with sent := [(a.peer, reply)] }) rfl hgranted
  exact ⟨_, hreach, rfl, rfl, hwritten⟩

/-- A packet from a peer.  The secret of the server is in its file. -/
def demoArrival (peer : Bool) (bytes : List UInt8) : Arrival Bool (ZMod 11) where
  peer := peer
  bytes := bytes
  now := 0
  skFile := .contents (encScalar demoServerKey).val
  skWrite := .ok ()
  skDraw := byteString 63 1
  registryWrite := .ok ()
  iterate := id
  iterate_perm := demoOrder
  setup := ⟨byteString 31 8, byteString 31 6, byteString 63 2⟩
  auth := ⟨byteString 31 8, byteString 63 4, byteString 63 2⟩

/-- The SETUP_1 of a device. -/
def demoFirst : Arrival Bool (ZMod 11) := demoArrival true C.demoSetup1.input

/-- A SETUP_3 of a session that does not exist, from another peer. -/
def demoLost : Arrival Bool (ZMod 11) :=
  demoArrival false (frame pktSetup3 (byteString 15 8) 2 [])

/-- The response to it. -/
def demoRefusal : List UInt8 := frame pktError (byteString 15 8) 2
  (natLE 2 ErrorCode.unknownSession.asU16 ++ ascii "no setup session for SETUP_3")

/-- The server after the SETUP_1. -/
def demoServing : ServerState Bool (ZMod 11) :=
  (dispatchPacket smallSuite demoPeers (demoFirst.packet 11)).1

theorem demoFirst_granted : ∃ reply,
    (dispatchPacket smallSuite demoPeers (demoFirst.packet 11)).2.sent = some reply ∧
      pktTypeOf reply = pktSetup2 ∧ reply.length ≤ maxDatagram := by
  have hfacts : ((dispatchPacket smallSuite demoPeers (demoFirst.packet 11)).2.sent.map fun r =>
      decide (pktTypeOf r = pktSetup2 ∧ r.length ≤ maxDatagram)) = some true := by
    decide +kernel
  obtain ⟨reply, hsent, hfacts⟩ := Option.map_eq_some_iff.mp hfacts
  exact ⟨reply, hsent, of_decide_eq_true hfacts⟩

theorem demoLost_refused :
    (dispatchPacket smallSuite demoServing (demoLost.packet 11)).2.sent = some demoRefusal := by
  decide +kernel

theorem demoPeers_gc : gcIfDue demoPeers 0 id id = demoPeers := if_pos (by decide)

theorem demoServing_gc : gcIfDue demoServing 0 id id = demoServing := if_pos (by decide +kernel)

/-- One peer sends the SETUP_1 in a datagram, the other the SETUP_3 over the first connection. -/
theorem demo_threads : ∃ (d : ServerDrivers smallSuite (Crates.ofSuite smallSuite) demoPeers)
    (reply : List UInt8), pktTypeOf reply = pktSetup2 ∧
    DriversReach smallSuite (Crates.ofSuite smallSuite) demoPeers (driversStart smallSuite
      (Crates.ofSuite smallSuite) demoPeers (fun _ => false)
      (fun _ => .whole (tcpFrame demoLost.bytes)) fun _ => id) d ∧
    (d.line .udp : UdpSocket Bool).sent = [(true, reply)] ∧
    Event.finished (.tcp 0) d.log = [some (.ok none), some (.ok (some demoRefusal))] ∧
    (d.line (.tcp 0) : TcpServerPeer Bool).stream.output.written = tcpFrame demoRefusal := by
  obtain ⟨reply, hgrant, hty, hlen⟩ := demoFirst_granted
  obtain ⟨d, hd⟩ := threads_serve (K := Crates.ofSuite smallSuite)
    (sharedServer_packet demoPeers_gc hgrant)
    (sharedServer_packet demoServing_gc demoLost_refused) (by decide +kernel) (by decide +kernel)
    hlen (by decide +kernel)
  exact ⟨d, reply, hty, hd⟩

/-- What the two threads have carried then. -/
theorem drivers_serve_two_threads :
    ∃ (d : ServerDrivers smallSuite (Crates.ofSuite smallSuite) demoPeers) (reply : List UInt8),
      pktTypeOf reply = pktSetup2 ∧ (d.line .udp : UdpSocket Bool).sent = [(true, reply)] ∧
      (d.line (.tcp 0) : TcpServerPeer Bool).stream.output.written = tcpFrame demoRefusal ∧
      UdpServed LockedOp.bytes Answer.response (d.line .udp : UdpSocket Bool)
        (Event.started .udp d.log) (Event.finished .udp d.log) ∧
      TcpServed LockedOp.bytes Answer.response ⟨.whole (tcpFrame demoLost.bytes), ⟨[], id⟩⟩
        (d.line (.tcp 0) : TcpServerPeer Bool).stream (Event.started (.tcp 0) d.log)
        (Event.finished (.tcp 0) d.log) := by
  obtain ⟨d, reply, hty, hreach, hsent, -, hwritten⟩ := demo_threads
  obtain ⟨-, -, -, ⟨-, hudp⟩, htcp⟩ := drivers_serve smallSuite (Crates.ofSuite smallSuite)
    ⟨300, 1024, 2048⟩ demoServerKey ∅ (MemoryReplayCache.new 4) none 0 (fun _ => false)
    (fun _ => .whole (tcpFrame demoLost.bytes)) (fun _ => id) hreach
  exact ⟨d, reply, hty, hsent, hwritten, hudp, (htcp 0).2⟩

end

end ZkArche.Rust
