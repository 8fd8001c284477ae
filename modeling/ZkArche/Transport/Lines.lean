import ZkArche.Lib.Drivers
import ZkArche.Transport.TcpFraming

/-!
# Connections and sockets

The lines of the server's threads.  The thread of a TCP connection receives frames and writes
frames.  The thread of the UDP socket answers each datagram to the address it came from.

A receive that fails ends a TCP connection, and so does a failing write, which may leave a part of
a frame behind.  What a connection has carried is therefore a sequence of whole frames, up to that
part: the packets of the jobs in their order, and the answers in theirs (`FramedLine.served`).  What a
UDP socket has sent are answers, each to the sender of its datagram (`DatagramLine.served`).
-/

namespace ZkArche

/-! ## TCP -/

/-- A TCP connection, as its thread sees it. -/
structure Connection where
  input : Chunks UInt8
  output : Sink UInt8

namespace Connection

variable {ε : Type}

/-- A receive returns a packet. -/
def Receives (recv : Routine ε (Chunks UInt8) (List UInt8)) (c : Connection) (packet : List UInt8)
    (c' : Connection) : Prop :=
  recv.exec c.input = (.ok packet, c'.input) ∧ c'.output = c.output

/-- A receive fails: the stream is over or broken, nothing more arrives in time, or the frame is
refused. -/
def Misses (recv : Routine ε (Chunks UInt8) (List UInt8)) (c c' : Connection) : Prop :=
  (∃ s e, s.contents <+: c.input.contents ∧ (recv.exec s).1 = .error e) ∧ c'.output = c.output

/-- A packet is sent. -/
def Sends (send : List UInt8 → Routine ε (Sink UInt8) Unit) (c : Connection) (packet : List UInt8)
    (c' : Connection) : Prop :=
  (send packet).exec c.output = (.ok (), c'.output) ∧ c'.input = c.input

/-- A packet is not sent, or not all of its frame. -/
def Breaks (send : List UInt8 → Routine ε (Sink UInt8) Unit) (c : Connection)
    (packet : List UInt8) (c' : Connection) : Prop :=
  (∃ e, (send packet).exec c.output = (.error e, c'.output)) ∨
    ∃ part, part <+: tcpFrame packet ∧ c'.output.written = c.output.written ++ part

end Connection

/-- What a server relies on when it receives and sends frames. -/
structure Framing {ε : Type} (recv : Routine ε (Chunks UInt8) (List UInt8))
    (send : List UInt8 → Routine ε (Sink UInt8) Unit) : Prop where
  recv_ok : ∀ s packet s', recv.exec s = (.ok packet, s') →
    packet.length ≤ maxDatagram ∧ s.contents = tcpFrame packet ++ s'.contents
  send_ok : ∀ packet s s', (send packet).exec s = (.ok (), s') →
    packet.length ≤ maxDatagram ∧ s'.written = s.written ++ tcpFrame packet
  send_error : ∀ packet s e s', (send packet).exec s = (.error e, s') → s'.written = s.written

/-- The frame of a packet, if there is one. -/
def frameOf : Option (List UInt8) → List UInt8
  | some packet => tcpFrame packet
  | none => []

/-- The frames of what has packets. -/
def framesOf {α : Type} (packetOf : α → Option (List UInt8)) (l : List α) : List UInt8 :=
  l.flatMap fun a => frameOf (packetOf a)

@[simp] theorem framesOf_append {α : Type} (packetOf : α → Option (List UInt8)) (l l' : List α) :
    framesOf packetOf (l ++ l') = framesOf packetOf l ++ framesOf packetOf l' :=
  List.flatMap_append

@[simp] theorem framesOf_singleton {α : Type} (packetOf : α → Option (List UInt8)) (a : α) :
    framesOf packetOf [a] = frameOf (packetOf a) := by
  simp [framesOf]

section

variable {L J α : Type} {ℓ : Line L J α} {conn : L → Connection}
  {packetOf : J → Option (List UInt8)} {replyOf : α → Option (List UInt8)} {l₀ l : L}
  {xs : List (J × α)} {pending : Option J} {go : Bool}

/-- A line over a TCP connection. -/
structure FramedLine (ℓ : Line L J α) (conn : L → Connection) (packetOf : J → Option (List UInt8))
    (replyOf : α → Option (List UInt8)) : Prop where
  recv : ∀ {l j l'}, ℓ.recv l j l' →
    (conn l).input.contents = frameOf (packetOf j) ++ (conn l').input.contents ∧
      (conn l').output.written = (conn l).output.written
  miss : ∀ {l go l'}, ℓ.miss l go l' →
    go = false ∧ (conn l').output.written = (conn l).output.written
  send : ∀ {l a l'}, ℓ.send l a true l' →
    (conn l').input.contents = (conn l).input.contents ∧
      (conn l').output.written = (conn l).output.written ++ frameOf (replyOf a) ∧
      ∀ p ∈ replyOf a, p.length ≤ maxDatagram
  broken : ∀ {l a l'}, ℓ.send l a false l' →
    ∃ part, part <+: frameOf (replyOf a) ∧
      (conn l').output.written = (conn l).output.written ++ part

/-- The packets came out of the stream in order, and what is left of it follows them. -/
theorem FramedLine.received (hℓ : FramedLine ℓ conn packetOf replyOf) (t : ℓ.Talk l₀ xs pending go l) :
    (go = true → (conn l₀).input.contents =
      framesOf packetOf (xs.map Prod.fst ++ pending.toList) ++ (conn l).input.contents) ∧
    framesOf packetOf (xs.map Prod.fst ++ pending.toList) <+: (conn l₀).input.contents := by
  induction t with
  | start => exact ⟨fun _ => rfl, List.nil_prefix⟩
  | recv t hr ih =>
      have hall : (conn l₀).input.contents = _ := ih.1 rfl
      rw [(hℓ.recv hr).1, ← List.append_assoc] at hall
      simp only [Option.toList, List.append_nil, framesOf_append, framesOf_singleton] at hall ⊢
      exact ⟨fun _ => hall, ⟨_, hall.symm⟩⟩
  | miss t hm ih => exact ⟨fun hgo => absurd (hgo.symm.trans (hℓ.miss hm).1) nofun, ih.2⟩
  | @send xs l l' j a go t hs ih =>
      have hjobs : (xs ++ [(j, a)]).map Prod.fst ++ (none : Option J).toList =
          xs.map Prod.fst ++ (some j).toList := by simp
      rw [hjobs]
      refine ⟨?_, ih.2⟩
      rintro rfl
      rw [(hℓ.send hs).1]
      exact ih.1 rfl

/-- What is written are the frames of the answers `done`, and a part of the frame of the one that
could not be sent. -/
structure Written (replyOf : α → Option (List UInt8)) (c₀ c : Connection) (done rest : List α)
    (part : List UInt8) : Prop where
  written : c.output.written = c₀.output.written ++ framesOf replyOf done ++ part
  short : rest.length ≤ 1
  part_prefix : part <+: framesOf replyOf rest
  fit : ∀ a ∈ done, ∀ p ∈ replyOf a, p.length ≤ maxDatagram

/-- The answers were written in order, up to the one at which the connection broke. -/
theorem FramedLine.wrote (hℓ : FramedLine ℓ conn packetOf replyOf) (t : ℓ.Talk l₀ xs pending go l) :
    ∃ done rest part, xs.map Prod.snd = done ++ rest ∧
      Written replyOf (conn l₀) (conn l) done rest part ∧ (go = true → rest = []) := by
  induction t with
  | start =>
      refine ⟨[], [], [], rfl, ⟨?_, Nat.zero_le 1, List.nil_prefix, nofun⟩, fun _ => rfl⟩
      simp [framesOf]
  | recv t hr ih =>
      obtain ⟨done, rest, part, hxs, ⟨hw, hshort, hpart, hfit⟩, hrest⟩ := ih
      exact ⟨done, rest, part, hxs, ⟨(hℓ.recv hr).2.trans hw, hshort, hpart, hfit⟩, hrest⟩
  | miss t hm ih =>
      obtain ⟨done, rest, part, hxs, ⟨hw, hshort, hpart, hfit⟩, hrest⟩ := ih
      exact ⟨done, rest, part, hxs, ⟨(hℓ.miss hm).2.trans hw, hshort, hpart, hfit⟩,
        fun _ => hrest rfl⟩
  | @send xs l l' j a go t hs ih =>
      obtain ⟨done, rest, part, hxs, ⟨hw, -, hpart, hfit⟩, hrest⟩ := ih
      cases hrest rfl
      cases List.prefix_nil.mp hpart
      rw [List.append_nil] at hxs hw
      cases go with
      | true =>
          obtain ⟨-, hwrite, hlen⟩ := hℓ.send hs
          refine ⟨done ++ [a], [], [], by simp [hxs], ⟨?_, Nat.zero_le 1, List.nil_prefix, ?_⟩,
            fun _ => rfl⟩
          · rw [hwrite, hw]
            simp
          · intro a' ha'
            rcases List.mem_append.mp ha' with ha' | ha'
            · exact hfit a' ha'
            · rw [List.mem_singleton.mp ha']
              exact hlen
      | false =>
          obtain ⟨part, hprefix, hwrite⟩ := hℓ.broken hs
          refine ⟨done, [a], part, by simp [hxs], ⟨?_, Nat.le_refl 1, ?_, hfit⟩, nofun⟩
          · rw [hwrite, hw]
          · rwa [framesOf_singleton]

end

/-! ### What the other end reads -/

theorem framesOf_eq {α : Type} (packetOf : α → Option (List UInt8)) (l : List α) :
    framesOf packetOf l = (l.filterMap packetOf).flatMap tcpFrame := by
  induction l with
  | nil => rfl
  | cons a l ih =>
      rw [framesOf, List.flatMap_cons, ← framesOf, ih]
      cases h : packetOf a with
      | none => rw [List.filterMap_cons_none h, frameOf, List.nil_append]
      | some p => rw [List.filterMap_cons_some h, frameOf, List.flatMap_cons]

/-- The other end receives the answers, one by one and in their order. -/
theorem Written.read {ε α : Type} {replyOf : α → Option (List UInt8)} {c₀ c : Connection}
    {done rest : List α} {part : List UInt8} (h : Written replyOf c₀ c done rest part)
    (hnew : c₀.output.written = []) {recv : Routine ε (Chunks UInt8) (List UInt8)}
    (hrecv : ∀ (s : Chunks UInt8) (packet rest : List UInt8), packet.length ≤ maxDatagram →
      s.contents = tcpFrame packet ++ rest →
      ∃ s', recv.exec s = (.ok packet, s') ∧ s'.contents = rest)
    {s : Chunks UInt8} (hs : s.contents = c.output.written) :
    (receives recv (done.filterMap replyOf).length s).1 =
      (done.filterMap replyOf).map .ok := by
  have hfit : ∀ p ∈ done.filterMap replyOf, p.length ≤ maxDatagram := by
    intro p hp
    obtain ⟨a, ha, hpa⟩ := List.mem_filterMap.mp hp
    exact h.fit a ha p hpa
  have hcontents := h.written
  rw [hnew, List.nil_append, framesOf_eq, ← hs] at hcontents
  generalize done.filterMap replyOf = replies at hfit hcontents ⊢
  let packets : List TcpPacket := replies.pmap Subtype.mk hfit
  have hvals : packets.map Subtype.val = replies := by simp [packets, List.map_pmap]
  have hframes : packets.flatMap (fun p => tcpFrame p.val) = replies.flatMap tcpFrame := by
    rw [← hvals, List.flatMap_map]
  obtain ⟨s', -, hread⟩ := receives_frames hrecv packets (by rw [hframes, hcontents]) 0
  rw [Nat.add_zero, show packets.length = replies.length by simp [packets]] at hread
  rw [hread, receives, List.append_nil, ← hvals, List.map_map]
  rfl

/-- The other end of the connection receives the packets, one by one and in their order, whether
it runs the C or the Rust client. -/
def Reads (c : Connection) (packets : List (List UInt8)) : Prop :=
  ∀ s : Chunks UInt8, s.contents = c.output.written →
    (receives (C.authTcpRecv maxDatagram) packets.length s).1 = packets.map .ok ∧
      (receives Rust.recvFramed packets.length s).1 = packets.map .ok

theorem Written.reads {α : Type} {replyOf : α → Option (List UInt8)} {c₀ c : Connection}
    {done rest : List α} {part : List UInt8} (h : Written replyOf c₀ c done rest part)
    (hnew : c₀.output.written = []) : Reads c (done.filterMap replyOf) := fun _ hs =>
  ⟨h.read hnew (fun _ _ _ => C.authTcpRecv_frame 0) hs,
    h.read hnew (fun _ _ _ => Rust.recvFramed_frame) hs⟩

section

variable {L J α : Type} {ℓ : Line L J α} {conn : L → Connection}
  {packetOf : J → Option (List UInt8)} {replyOf : α → Option (List UInt8)} {l₀ l : L}

/-- What a TCP connection has carried. -/
structure TcpServed (packetOf : J → Option (List UInt8)) (replyOf : α → Option (List UInt8))
    (c₀ c : Connection) (jobs : List J) (answers : List α) : Prop where
  /-- There is a job for every packet, in their order, and nothing is left out. -/
  received : framesOf packetOf jobs <+: c₀.input.contents
  /-- A job is answered before the next one is received. -/
  turns : answers.length ≤ jobs.length ∧ jobs.length ≤ answers.length + 1
  /-- The answers are written in their order, all but the last, and the other end reads them. -/
  sent : ∃ done rest part, answers = done ++ rest ∧ Written replyOf c₀ c done rest part ∧
    Reads c (done.filterMap replyOf)

/-- What is written is the frames of the answers, up to the last one, of which it may be a part. -/
theorem TcpServed.written {c₀ c : Connection} {jobs : List J} {answers : List α}
    (h : TcpServed packetOf replyOf c₀ c jobs answers) (hnew : c₀.output.written = []) :
    ∃ packets cut part, answers.filterMap replyOf = packets ++ cut ∧
      c.output.written = packets.flatMap tcpFrame ++ part ∧ Reads c packets ∧
      cut.length ≤ 1 ∧ part <+: cut.flatMap tcpFrame := by
  obtain ⟨done, rest, part, rfl, hw, hreads⟩ := h.sent
  refine ⟨done.filterMap replyOf, rest.filterMap replyOf, part, List.filterMap_append, ?_, hreads,
    (List.length_filterMap_le _ _).trans hw.short, ?_⟩
  · rw [hw.written, hnew, List.nil_append, framesOf_eq]
  · rw [← framesOf_eq]
    exact hw.part_prefix

/-- Every thread of a TCP connection serves it like that. -/
theorem FramedLine.served {I : Sections} (hℓ : FramedLine ℓ conn packetOf replyOf)
    (hnew : (conn l₀).output.written = []) {seat : Seat I J α} {jobs : List J} {answers : List α}
    (h : Drivers.Serves ℓ l₀ seat l jobs answers) :
    TcpServed packetOf replyOf (conn l₀) (conn l) jobs answers := by
  cases h with
  | listening t =>
      obtain ⟨done, rest, part, hxs, hw, -⟩ := hℓ.wrote t
      refine ⟨?_, by simp, done, rest, part, hxs, hw, hw.reads hnew⟩
      simpa using (hℓ.received t).2
  | working t =>
      obtain ⟨done, rest, part, hxs, hw, -⟩ := hℓ.wrote t
      exact ⟨(hℓ.received t).2, by simp, done, rest, part, hxs, hw, hw.reads hnew⟩
  | @sending xs l j a t =>
      obtain ⟨done, rest, part, hxs, hw, hrest⟩ := hℓ.wrote t
      cases hrest rfl
      cases List.prefix_nil.mp hw.part_prefix
      refine ⟨(hℓ.received t).2, by simp, done, [a], [], ?_, ?_, hw.reads hnew⟩
      · rw [hxs, List.append_nil]
      · exact ⟨hw.written, Nat.le_refl 1, List.nil_prefix, hw.fit⟩
  | gone t =>
      obtain ⟨done, rest, part, hxs, hw, -⟩ := hℓ.wrote t
      refine ⟨?_, by simp, done, rest, part, hxs, hw, hw.reads hnew⟩
      simpa using (hℓ.received t).2

end

/-! ### The framings of C and Rust -/

theorem C.readAll_ok {len : ℕ} {s s' : Chunks UInt8} {got : List UInt8}
    (h : (readAll len).exec s = (.ok got, s')) :
    got.length = len ∧ s.contents = got ++ s'.contents := by
  by_cases hlen : len ≤ s.contents.length
  · obtain ⟨s'', hread, hs''⟩ := readAll_eq_ok (List.take_append_drop len s.contents).symm
    rw [List.length_take, Nat.min_eq_left hlen, h] at hread
    cases hread
    refine ⟨by rw [List.length_take, Nat.min_eq_left hlen], ?_⟩
    rw [hs'', List.take_append_drop]
  · obtain ⟨s'', hread, -⟩ := readAll_eq_error (Nat.lt_of_not_le hlen)
    rw [h] at hread
    cases hread

theorem Rust.readExact_ok {what : String} {len : ℕ} {s s' : Chunks UInt8} {got : List UInt8}
    (h : (readExact what len).exec s = (.ok got, s')) :
    got.length = len ∧ s.contents = got ++ s'.contents := by
  obtain ⟨hgot, hleft⟩ := Chunks.gather_eq (s := s)
    (show ([] : List UInt8).length ≤ len from Nat.zero_le _)
  rw [List.length_nil, Nat.sub_zero, List.nil_append] at hgot
  rw [List.length_nil, Nat.sub_zero] at hleft
  simp only [readExact, Routine.exec_op, hgot] at h
  split at h
  next => cases h
  next hlen =>
    cases h
    rw [hleft, List.take_append_drop]
    refine ⟨?_, rfl⟩
    rw [List.length_take] at hlen ⊢
    omega

/-- A packet behind its length is a frame. -/
theorem frame_of_length {hdr packet rest : List UInt8} (hhdr : hdr.length = 4)
    (hlen : packet.length = leNat hdr) : hdr ++ (packet ++ rest) = tcpFrame packet ++ rest := by
  have hback := natLE_leNat hdr
  rw [hhdr, ← hlen] at hback
  rw [tcpFrame, hback, List.append_assoc]

/-- A send that refuses what is too long, and writes the frame of anything else. -/
theorem Framing.of_send {ε : Type} {recv : Routine ε (Chunks UInt8) (List UInt8)}
    {send : List UInt8 → Routine ε (Sink UInt8) Unit}
    (hrecv : ∀ s packet s', recv.exec s = (.ok packet, s') →
      packet.length ≤ maxDatagram ∧ s.contents = tcpFrame packet ++ s'.contents)
    (hfits : ∀ packet s, packet.length ≤ maxDatagram → ((send packet).exec s).1 = .ok () ∧
      ((send packet).exec s).2.written = s.written ++ tcpFrame packet)
    (hlong : ∀ packet s, packet.length > maxDatagram → ∃ e, (send packet).exec s = (.error e, s)) :
    Framing recv send := by
  refine ⟨hrecv, ?_, ?_⟩
  · intro packet s s' h
    by_cases hmax : packet.length > maxDatagram
    · obtain ⟨e, herr⟩ := hlong packet s hmax
      rw [h] at herr
      cases herr
    · have hsend := hfits packet s (Nat.le_of_not_gt hmax)
      rw [h] at hsend
      exact ⟨Nat.le_of_not_gt hmax, hsend.2⟩
  · intro packet s e s' h
    by_cases hmax : packet.length > maxDatagram
    · obtain ⟨e', herr⟩ := hlong packet s hmax
      rw [h] at herr
      cases herr
      rfl
    · have hsend := hfits packet s (Nat.le_of_not_gt hmax)
      rw [h] at hsend
      cases hsend.1

theorem C.framing : Framing (authTcpRecv maxDatagram) authTcpSend := by
  apply Framing.of_send
  · intro s packet s' h
    rw [authTcpRecv, Routine.exec_bind] at h
    split at h
    next hdr s₁ hhdr =>
      obtain ⟨hlen, hs⟩ := readAll_ok hhdr
      by_cases hmax : leNat hdr > maxDatagram
      · simp only [ensure_neg (not_not.mpr hmax)] at h
        cases h
      · simp only [ensure_pos hmax] at h
        obtain ⟨hpacket, hs₁⟩ := readAll_ok h
        refine ⟨by omega, ?_⟩
        rw [hs, hs₁]
        exact frame_of_length hlen hpacket
    next => cases h
  · exact fun packet s hfit => authTcpSend_frame hfit s
  · intro packet s hlong
    rw [authTcpSend, ensure_neg (not_not.mpr hlong)]
    exact ⟨_, rfl⟩

theorem Rust.framing : Framing recvFramed sendFramed := by
  apply Framing.of_send
  · intro s packet s' h
    rw [recvFramed, Routine.exec_bind] at h
    split at h
    next hdr s₁ hhdr =>
      obtain ⟨hlen, hs⟩ := readExact_ok hhdr
      by_cases hmax : leNat hdr > maxDatagram
      · simp only [ensure_neg (not_not.mpr hmax)] at h
        cases h
      · simp only [ensure_pos hmax] at h
        obtain ⟨hpacket, hs₁⟩ := readExact_ok h
        refine ⟨by omega, ?_⟩
        rw [hs, hs₁]
        exact frame_of_length hlen hpacket
    next => cases h
  · exact fun packet s hfit => sendFramed_frame hfit s
  · intro packet s hlong
    rw [sendFramed, ensure_neg (not_not.mpr hlong)]
    exact ⟨_, rfl⟩

/-! ## UDP -/

/-- A UDP socket, as its thread sees it: the sender of the datagram that is being served, the
datagrams received and those sent, oldest first. -/
structure UdpSocket (Addr : Type) where
  peer : Option Addr
  received : List (Addr × List UInt8)
  sent : List (Addr × List UInt8)

/-- A socket that has just been bound. -/
def UdpSocket.bound {Addr : Type} : UdpSocket Addr := ⟨none, [], []⟩

/-- A datagram is received.  The buffer cuts it off. -/
def UdpSocket.Receives {Addr : Type} (u : UdpSocket Addr) (src : Addr) (packet : List UInt8)
    (u' : UdpSocket Addr) : Prop :=
  ∃ datagram : List UInt8, packet = datagram.take maxDatagram ∧
    u' = { u with peer := some src, received := u.received ++ [(src, packet)] }

/-- A datagram is sent to the peer, or the socket refuses it. -/
def UdpSocket.Sends {Addr : Type} (u : UdpSocket Addr) (packet : List UInt8)
    (u' : UdpSocket Addr) : Prop :=
  u' = u ∨ packet.length ≤ maxDatagram ∧
    ∃ peer, u.peer = some peer ∧ u' = { u with sent := u.sent ++ [(peer, packet)] }

section

variable {Addr L J α : Type} {ℓ : Line L J α} {sock : L → UdpSocket Addr}
  {packetOf : J → Option (List UInt8)} {replyOf : α → Option (List UInt8)} {l₀ l : L}
  {xs : List (J × α)} {pending : Option J} {go : Bool}

/-- A line over a UDP socket. -/
structure DatagramLine (ℓ : Line L J α) (sock : L → UdpSocket Addr)
    (packetOf : J → Option (List UInt8)) (replyOf : α → Option (List UInt8)) : Prop where
  recv : ∀ {l j l'}, ℓ.recv l j l' → (sock l').sent = (sock l).sent ∧
    match packetOf j with
    | some packet => ∃ src, (sock l').peer = some src ∧
        (sock l').received = (sock l).received ++ [(src, packet)]
    | none => (sock l').peer = none ∧ (sock l').received = (sock l).received
  miss : ∀ {l go l'}, ℓ.miss l go l' → sock l' = sock l
  send : ∀ {l a go l'}, ℓ.send l a go l' → sock l' = sock l ∨
    ∃ packet, replyOf a = some packet ∧ (sock l).Sends packet (sock l')

/-- The answers to the datagrams. -/
def datagramAnswers (packetOf : J → Option (List UInt8)) (xs : List (J × α)) : List α :=
  (xs.filter fun x => (packetOf x.1).isSome).map Prod.snd

/-- The answers that go out, each with the sender of the datagram it answers. -/
def addressed (replyOf : α → Option (List UInt8)) (received : List (Addr × List UInt8))
    (answers : List α) : List (Addr × List UInt8) :=
  (received.zip answers).filterMap fun x => (replyOf x.2).map fun packet => (x.1.1, packet)

theorem datagramAnswers_length (packetOf : J → Option (List UInt8)) (xs : List (J × α)) :
    (datagramAnswers packetOf xs).length = ((xs.map Prod.fst).filterMap packetOf).length := by
  induction xs with
  | nil => rfl
  | cons x xs ih =>
      cases h : packetOf x.1 with
      | none =>
          rw [List.map_cons, List.filterMap_cons_none h, ← ih]
          simp [datagramAnswers, h]
      | some p =>
          rw [List.map_cons, List.filterMap_cons_some h, List.length_cons, ← ih]
          simp [datagramAnswers, h]

@[simp] theorem addressed_append {r r' : List (Addr × List UInt8)} {as as' : List α}
    (h : r.length = as.length) : addressed replyOf (r ++ r') (as ++ as') =
      addressed replyOf r as ++ addressed replyOf r' as' := by
  rw [addressed, List.zip_append h, List.filterMap_append]
  rfl

/-- How a socket stands. -/
structure DatagramLine.Stands (packetOf : J → Option (List UInt8))
    (replyOf : α → Option (List UInt8)) (u : UdpSocket Addr) (xs : List (J × α))
    (pending : Option J) : Prop where
  received : u.received.map Prod.snd =
    (xs.map Prod.fst ++ pending.toList).filterMap packetOf
  sent : u.sent.Sublist (addressed replyOf u.received (datagramAnswers packetOf xs))
  /-- The peer is the sender of the datagram that is being served. -/
  serving : ∀ j, pending = some j → match packetOf j with
    | some packet => ∃ src r, u.peer = some src ∧ u.received = r ++ [(src, packet)]
    | none => u.peer = none

/-- Every datagram received so far is answered. -/
theorem DatagramLine.Stands.length_eq {u : UdpSocket Addr}
    (h : Stands packetOf replyOf u xs none) :
    u.received.length = (datagramAnswers packetOf xs).length := by
  rw [datagramAnswers_length, ← List.length_map (f := Prod.snd), h.received]
  simp

theorem DatagramLine.Stands.recv {u u' : UdpSocket Addr} (h : Stands packetOf replyOf u xs none) {j : J}
    (hsent : u'.sent = u.sent) (hpacket : match packetOf j with
      | some packet => ∃ src, u'.peer = some src ∧ u'.received = u.received ++ [(src, packet)]
      | none => u'.peer = none ∧ u'.received = u.received) :
    Stands packetOf replyOf u' xs (some j) := by
  have hlength := h.length_eq
  obtain ⟨hreceived, hsub, -⟩ := h
  cases hp : packetOf j with
  | some packet =>
      simp only [hp] at hpacket
      obtain ⟨src, hpeer, hgot⟩ := hpacket
      refine ⟨?_, ?_, ?_⟩
      · rw [hgot, List.map_append, hreceived]
        simp [hp]
      · rw [hsent, hgot, ← List.append_nil (datagramAnswers packetOf xs), addressed_append hlength]
        exact hsub.trans (List.sublist_append_left _ _)
      · rintro j' ⟨⟩
        simp only [hp]
        exact ⟨src, _, hpeer, hgot⟩
  | none =>
      simp only [hp] at hpacket
      refine ⟨?_, ?_, ?_⟩
      · rw [hpacket.2, hreceived]
        simp [hp]
      · rwa [hsent, hpacket.2]
      · rintro j' ⟨⟩
        simp only [hp]
        exact hpacket.1

/-- The sender of the datagram that is being served is the only one who may be answered. -/
theorem DatagramLine.Stands.answer {u : UdpSocket Addr} {j : J}
    (h : Stands packetOf replyOf u xs (some j)) (a : α) :
    (addressed replyOf u.received (datagramAnswers packetOf (xs ++ [(j, a)]))) =
      addressed replyOf u.received (datagramAnswers packetOf xs) ++
        ((u.peer.bind fun peer => (replyOf a).map fun packet => (peer, packet)).toList) := by
  obtain ⟨hreceived, -, hserving⟩ := h
  have hserving := hserving j rfl
  cases hp : packetOf j with
  | none =>
      simp only [hp] at hserving
      simp [hserving, datagramAnswers, hp]
  | some packet =>
      simp only [hp] at hserving
      obtain ⟨src, r, hpeer, hr⟩ := hserving
      have hlength : r.length = (datagramAnswers packetOf xs).length := by
        have hlen := congrArg List.length hreceived
        rw [hr] at hlen
        rw [datagramAnswers_length]
        simpa [hp] using hlen
      have hanswers : datagramAnswers packetOf (xs ++ [(j, a)]) =
          datagramAnswers packetOf xs ++ [a] := by simp [datagramAnswers, hp]
      have hold : addressed replyOf (r ++ [(src, packet)]) (datagramAnswers packetOf xs) =
          addressed replyOf r (datagramAnswers packetOf xs) := by
        have happ : addressed replyOf (r ++ [(src, packet)]) (datagramAnswers packetOf xs ++ []) =
            addressed replyOf r (datagramAnswers packetOf xs) ++ [] := addressed_append hlength
        rwa [List.append_nil, List.append_nil] at happ
      rw [hr, hanswers, addressed_append hlength, hold, hpeer]
      cases hreply : replyOf a <;> simp [addressed, hreply]

theorem DatagramLine.Stands.send {u u' : UdpSocket Addr} {j : J} {a : α}
    (h : Stands packetOf replyOf u xs (some j))
    (hs : u' = u ∨ ∃ packet, replyOf a = some packet ∧ u.Sends packet u') :
    Stands packetOf replyOf u' (xs ++ [(j, a)]) none := by
  have hanswer := h.answer a
  have hjobs : (xs ++ [(j, a)]).map Prod.fst ++ (none : Option J).toList =
      xs.map Prod.fst ++ (some j).toList := by simp
  -- the datagram is not answered
  have hsilent : Stands packetOf replyOf u (xs ++ [(j, a)]) none := by
    refine ⟨by rw [hjobs, h.received], ?_, nofun⟩
    rw [hanswer]
    exact h.sent.trans (List.sublist_append_left _ _)
  rcases hs with rfl | ⟨packet, hreply, rfl | ⟨-, peer, hpeer, rfl⟩⟩
  · exact hsilent
  · exact hsilent
  · refine ⟨hsilent.received, ?_, nofun⟩
    rw [hanswer]
    refine h.sent.append ?_
    simp [hpeer, hreply]

theorem DatagramLine.stands (hℓ : DatagramLine ℓ sock packetOf replyOf) (hl₀ : sock l₀ = .bound)
    (t : ℓ.Talk l₀ xs pending go l) : Stands packetOf replyOf (sock l) xs pending := by
  induction t with
  | start =>
      rw [hl₀]
      exact ⟨rfl, List.Sublist.refl _, nofun⟩
  | recv t hr ih => exact ih.recv (hℓ.recv hr).1 (hℓ.recv hr).2
  | miss t hm ih =>
      rw [hℓ.miss hm]
      exact ih
  | send t hs ih => exact ih.send (hℓ.send hs)

/-- What a UDP socket has carried: there is a job for every datagram, in their order, and what was
sent are answers, in their order, each to the sender of the datagram it answers. -/
structure UdpServed (packetOf : J → Option (List UInt8)) (replyOf : α → Option (List UInt8))
    (u : UdpSocket Addr) (jobs : List J) (answers : List α) : Prop where
  received : u.received.map Prod.snd = jobs.filterMap packetOf
  sent : u.sent.Sublist
    (addressed replyOf u.received (datagramAnswers packetOf (jobs.zip answers)))

/-- The thread of a UDP socket serves it like that. -/
theorem DatagramLine.served {I : Sections} (hℓ : DatagramLine ℓ sock packetOf replyOf)
    (hl₀ : sock l₀ = .bound) {seat : Seat I J α} {jobs : List J} {answers : List α}
    (h : Drivers.Serves ℓ l₀ seat l jobs answers) :
    UdpServed packetOf replyOf (sock l) jobs answers := by
  cases h with
  | listening t =>
      obtain ⟨hreceived, hsent, -⟩ := hℓ.stands hl₀ t
      exact ⟨by simpa using hreceived, by rwa [Drivers.zip_answered]⟩
  | working t =>
      obtain ⟨hreceived, hsent, -⟩ := hℓ.stands hl₀ t
      exact ⟨hreceived, by rwa [Drivers.zip_jobs, Drivers.zip_answered]⟩
  | @sending xs l j a t =>
      have hstands := hℓ.stands hl₀ t
      refine ⟨hstands.received, ?_⟩
      rw [List.zip_append (by simp), Drivers.zip_answered]
      exact (hstands.send (a := a) (.inl rfl)).sent
  | gone t =>
      obtain ⟨hreceived, hsent, -⟩ := hℓ.stands hl₀ t
      exact ⟨by simpa using hreceived, by rwa [Drivers.zip_answered]⟩

end

end ZkArche
