import ZkArche.System.DriversRust
import ZkArche.System.Network

/-!
# Where the responses of the Rust server go

The network between a client and the server delivers what the server sent to the client's address
(`Delivers`).  The drivers keep their part of that: whatever is written to a connection, or sent as
a datagram, is a response to a packet of that peer (`never_misrouted`).
-/

namespace ZkArche.Rust

variable {Addr : Type} [DecidableEq Addr] {q : ℕ} {G : Type} [AddCommGroup G]
  [Module (ZMod q) G] [DecidableEq G] {S : Suite q G} {K : Crates S} {st₀ : ServerState Addr G}

/-- Only a packet has a response. -/
theorem bytes_of_response {h : List (LockedOp Addr G × Answer)} {m : Mutex (ServerState Addr G)}
    (r : (sharedServer S K st₀).Run Machine.anyInput h m) {x : LockedOp Addr G × Answer}
    (hx : x ∈ h) {packet : List UInt8} (hresp : Answer.response x.2 = some packet) :
    ∃ a now pickSetup pickAuth, x.1 = .packet a now pickSetup pickAuth := by
  have hall : ∀ e ∈ h, Answer.response e.2 = none ∨
      ∃ a now pickSetup pickAuth, e.1 = .packet a now pickSetup pickAuth := by
    refine r.forall_mem fun m op => ?_
    cases hm : m.poisoned with
    | true =>
        left
        rw [show (sharedServer S K st₀).step m op = (m, none) from Mutex.withLock_of_poisoned hm _]
        rfl
    | false =>
        obtain ⟨-, hans⟩ := Mutex.withLock_of_healthy hm (underLock S K op)
        cases op with
        | packet a now pickSetup pickAuth => exact .inr ⟨a, now, pickSetup, pickAuth, rfl⟩
        | gc now pickSetup pickAuth => exact .inl (congrArg Answer.response hans)
        | connect => exact .inl (congrArg Answer.response hans)
  rcases hall x hx with hnone | hpacket
  · rw [hnone] at hresp
    cases hresp
  · exact hpacket

omit [AddCommGroup G] [Module (ZMod q) G] [DecidableEq G] in
/-- The response to a packet was sent to the peer that the packet is from. -/
theorem delivers_of_exchange {h : List (LockedOp Addr G × Answer)}
    {h' : List (Entry Addr q G)} (hsame : h'.filterMap Entry.exchange = h.filterMap handled)
    {a : Arrival Addr G} {now : ℕ} {pickSetup pickAuth : ℕ → ℕ} {ans : Answer}
    (hx : (LockedOp.packet a now pickSetup pickAuth, ans) ∈ h) {packet : List UInt8}
    (hresp : ans.response = some packet) : Delivers a.peer (.received packet) h' := by
  have hhandled : (a.peer, a.bytes, some packet) ∈ h.filterMap handled := by
    refine List.mem_filterMap.mpr ⟨_, hx, ?_⟩
    rcases ans with _ | ans
    · cases hresp
    · rw [← hresp]
      rfl
  rw [← hsame] at hhandled
  obtain ⟨⟨op, out⟩, he, hexchange⟩ := List.mem_filterMap.mp hhandled
  rintro bytes ⟨⟩
  refine ⟨(op, out), he, ?_⟩
  cases op with
  | gc now pickSetup pickAuth => cases hexchange
  | packet pk =>
      obtain ⟨before, reply, after⟩ := out
      rcases reply with _ | reply
      · cases hexchange
      · simp only [Entry.exchange, Option.some.injEq, Prod.mk.injEq] at hexchange
        obtain ⟨hpeer, -, hsent⟩ := hexchange
        simp only [repliesTo, hpeer, if_true]
        exact hsent

omit [DecidableEq Addr] [AddCommGroup G] [Module (ZMod q) G] [DecidableEq G] in
/-- The datagrams and their answers belong to the same operations. -/
theorem zip_datagrams (ops : List (LockedOp Addr G)) (answers : List Answer)
    {x : (Addr × List UInt8) × Answer} (hx : x ∈ (ops.filterMap LockedOp.datagram).zip
      (datagramAnswers LockedOp.bytes (ops.zip answers))) :
    ∃ op, (op, x.2) ∈ ops.zip answers ∧ op.datagram = some x.1 := by
  induction ops generalizing answers with
  | nil => cases hx
  | cons op ops ih =>
      cases answers with
      | nil => simp [datagramAnswers] at hx
      | cons ans answers =>
          rw [List.zip_cons_cons] at hx ⊢
          have hrest : x ∈ (ops.filterMap LockedOp.datagram).zip
              (datagramAnswers LockedOp.bytes (ops.zip answers)) →
              ∃ op', (op', x.2) ∈ (op, ans) :: ops.zip answers ∧ op'.datagram = some x.1 := by
            intro hx
            obtain ⟨op', hmem, hop'⟩ := ih answers hx
            exact ⟨op', List.mem_cons_of_mem _ hmem, hop'⟩
          cases op with
          | packet a now pickSetup pickAuth =>
              rcases List.mem_cons.mp hx with rfl | hx
              · exact ⟨_, List.mem_cons_self, rfl⟩
              · exact hrest hx
          | gc now pickSetup pickAuth => exact hrest hx
          | connect => exact hrest hx

section

variable {start : ServerState Addr G} {d : ServerDrivers S K start} {h : List (Entry Addr q G)}
  {peer : ℕ → Addr} {input : ℕ → Chunks UInt8} {takes : ℕ → ℕ → ℕ} (htold : Drivers.Told d)
  (hsame : h.filterMap Entry.exchange =
    ((Event.requests d.log).map Prod.snd).filterMap handled)

include htold hsame

/-- An operation with a response is a packet, and the response was sent to its peer. -/
theorem delivers_of_answered {w : Thread} {x : LockedOp Addr G × Answer}
    (hx : x ∈ (Event.started w d.log).zip (Event.finished w d.log)) {packet : List UInt8}
    (hresp : x.2.response = some packet) :
    ∃ dest bytes, x.1.datagram = some (dest, bytes) ∧ Delivers dest (.received packet) h := by
  rw [← htold.own] at hx
  have hmem := List.mem_map_of_mem (f := Prod.snd) (Event.mem_requests.mpr hx)
  obtain ⟨op, ans⟩ := x
  obtain ⟨a, now, pickSetup, pickAuth, rfl⟩ := bytes_of_response htold.run hmem hresp
  exact ⟨a.peer, a.bytes, rfl, delivers_of_exchange hsame hmem hresp⟩

/-- The answers of the thread of a connection were sent to its peer. -/
theorem delivers_of_finished {c : ℕ} (hserves : Drivers.ServesAt (driverLines Addr G)
    (acceptedLines peer input takes) d (.tcp c)) (ans : Answer)
    (hans : ans ∈ Event.finished (.tcp c) d.log) (packet : List UInt8)
    (hresp : ans.response = some packet) : Delivers (peer c) (.received packet) h := by
  have hturns := (framed_tcpLine.served rfl hserves).turns
  obtain ⟨i, hi, rfl⟩ := List.mem_iff_getElem.mp hans
  have hlt : i < (Event.started (.tcp c) d.log).length := lt_of_lt_of_le hi hturns.1
  have hx : ((Event.started (.tcp c) d.log)[i], (Event.finished (.tcp c) d.log)[i]) ∈
      (Event.started (.tcp c) d.log).zip (Event.finished (.tcp c) d.log) := by
    have hmem := List.getElem_mem (l := (Event.started (.tcp c) d.log).zip
      (Event.finished (.tcp c) d.log)) (n := i) (by rw [List.length_zip]; omega)
    rwa [List.getElem_zip] at hmem
  obtain ⟨dest, bytes, hop, hd⟩ := delivers_of_answered htold hsame hx hresp
  obtain ⟨xs, pending, go, htalk, hjobs⟩ := hserves.talk
  have hpeer := (tcpLine_peer htalk).2 (dest, bytes)
  rw [← hjobs] at hpeer
  have hdest : dest = peer c := hpeer (List.mem_filterMap.mpr ⟨_, List.getElem_mem _, hop⟩)
  exact hdest ▸ hd

/-- A datagram was sent to the peer it is addressed to. -/
theorem delivers_of_sent (hserves : Drivers.ServesAt (driverLines Addr G)
    (acceptedLines peer input takes) d .udp) {x : Addr × List UInt8}
    (hx : x ∈ (d.line .udp : UdpSocket Addr).sent) : Delivers x.1 (.received x.2) h := by
  have hserved := datagrams_udpLine.served rfl hserves
  obtain ⟨⟨⟨src, bytes⟩, ans⟩, hpair, hreply⟩ := List.mem_filterMap.mp (hserved.sent.subset hx)
  obtain ⟨packet, hresp, rfl⟩ := Option.map_eq_some_iff.mp hreply
  obtain ⟨xs, pending, go, htalk, hjobs⟩ := hserves.talk
  have hreceived := udpLine_received htalk
  rw [← hjobs] at hreceived
  have hsock : ((src, bytes), ans) ∈ (UdpSocket.received (d.line .udp)).zip _ := hpair
  rw [hreceived] at hsock
  obtain ⟨op, hop, hsrc⟩ := zip_datagrams _ _ hsock
  obtain ⟨dest, bytes', hdatagram, hd⟩ := delivers_of_answered htold hsame hop hresp
  rw [hsrc, Option.some.injEq, Prod.mk.injEq] at hdatagram
  exact hdatagram.1 ▸ hd

end

/-- What is written to the connection is the frames of packets, and a part of the frame of one more
at most.  The run sent all of them to the peer, who reads the whole ones. -/
def WrittenTo (peer : Addr) (c : Connection) (h : List (Entry Addr q G)) : Prop :=
  ∃ (packets cut : List (List UInt8)) (part : List UInt8),
    c.output.written = packets.flatMap tcpFrame ++ part ∧ Reads c packets ∧
    cut.length ≤ 1 ∧ part <+: cut.flatMap tcpFrame ∧
    ∀ packet ∈ packets ++ cut, Delivers peer (.received packet) h

/-- However the threads of the drivers are interleaved, the server never sends a response to anyone
but the sender of the packet it answers: there is a run of the server in which whatever is written
to a connection, or goes out as a datagram, was said to that peer. -/
theorem never_misrouted (S : Suite q G) (K : Crates S) (profile : Profile) (serverPub : G)
    (registry : Registry G) (replay : MemoryReplayCache) (token : Option (List UInt8)) (now : ℕ)
    (peer : ℕ → Addr) (input : ℕ → Chunks UInt8) (takes : ℕ → ℕ → ℕ)
    {d : ServerDrivers S K (.start profile serverPub registry replay token now)}
    (r : DriversReach S K _ (driversStart S K _ peer input takes) d) :
    ∃ h, (server S (.start profile serverPub registry replay token now)).Run Machine.anyInput h
        (Mutex.state d.shared) ∧
      (∀ c, WrittenTo (peer c) (d.line (.tcp c) : TcpServerPeer Addr).stream h ∧
        ∀ ans ∈ Event.finished (.tcp c) d.log, ∀ packet, ans.response = some packet →
          Delivers (peer c) (.received packet) h) ∧
      ∀ x ∈ (d.line .udp : UdpSocket Addr).sent, Delivers x.1 (.received x.2) h := by
  have hserves := Drivers.serves r
  have htold := Drivers.told rfl r
  obtain ⟨h, hrun, hsame⟩ := sharedServer_run htold.run
  have htcp := fun c => delivers_of_finished htold hsame (hserves (.tcp c))
  refine ⟨h, hrun, fun c => ⟨?_, htcp c⟩, fun x => delivers_of_sent htold hsame (hserves .udp)⟩
  obtain ⟨packets, cut, part, hanswers, hwritten, hreads, hcut, hpart⟩ :=
    (framed_tcpLine.served rfl (hserves (.tcp c))).written rfl
  refine ⟨packets, cut, part, hwritten, hreads, hcut, hpart, fun packet hpacket => ?_⟩
  rw [← hanswers] at hpacket
  obtain ⟨ans, hans, hresp⟩ := List.mem_filterMap.mp hpacket
  exact htcp c ans hans packet hresp

/-- One peer hears the SETUP_2, and the other the ERROR packet. -/
theorem never_misrouted_two_peers : ∃ h s reply, pktTypeOf reply = pktSetup2 ∧
    (server smallSuite demoPeers).Run Machine.anyInput h s ∧
    Delivers true (.received reply) h ∧ Delivers false (.received demoRefusal) h ∧
    ∃ c : Connection, c.output.written = tcpFrame demoRefusal ∧ WrittenTo false c h := by
  obtain ⟨d, reply, hty, hreach, hsent, hfinished, hwritten⟩ := demo_threads
  have hanswer : some (.ok (some demoRefusal)) ∈ Event.finished (.tcp 0) d.log := by
    rw [hfinished]
    exact List.mem_cons_of_mem _ List.mem_cons_self
  obtain ⟨h, hrun, htcp, hudp⟩ := never_misrouted smallSuite (Crates.ofSuite smallSuite)
    ⟨300, 1024, 2048⟩ demoServerKey ∅ (MemoryReplayCache.new 4) none 0 (fun _ => false)
    (fun _ => .whole (tcpFrame demoLost.bytes)) (fun _ => id) hreach
  have hreply : Delivers true (.received reply) h :=
    hudp (true, reply) (by rw [hsent]; exact List.mem_singleton_self _)
  exact ⟨h, _, reply, hty, hrun, hreply, (htcp 0).2 _ hanswer demoRefusal rfl, _, hwritten,
    (htcp 0).1⟩

end ZkArche.Rust
