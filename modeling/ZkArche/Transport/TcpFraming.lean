import ZkArche.Lib.Chunks
import ZkArche.Lib.Routine
import ZkArche.Wire.Errors
import ZkArche.Wire.Header

/-!
# Packets over TCP

A TCP connection is a stream of bytes.  A packet is sent as a *frame*, its length in four bytes and
the packet itself (`transport_tcp.c`, `transport/tcp.rs`).  A receive reads the length, checks it,
and reads the packet.  The socket delivers the stream in chunks, and takes what is written in parts.

The C read loop tells an end of the stream before the first byte from an end in the middle of what
it reads.  A receive runs the loop twice, and each run starts without a byte.  So a stream that ends
between the length and the packet looks like one that ends between two frames
(`tcp_framing_iff`).

There are no timeouts here.
-/

namespace ZkArche

/-- A packet that fits into a frame. -/
abbrev TcpPacket := { bytes : List UInt8 // bytes.length ≤ maxDatagram }

/-- The bytes of a packet on the wire. -/
def tcpFrame (packet : List UInt8) : List UInt8 := natLE 4 packet.length ++ packet

/-! ## C -/

namespace C

/-- The loop of `read_all`, with what is in the buffer and `got_any`. -/
def readAllLoop (len : ℕ) (buf : List UInt8) (gotAny : Bool) (s : Chunks UInt8) :
    Except AuthErr (List UInt8) × Chunks UInt8 :=
  if _hroom : buf.length < len then
    if _hend : (s.recv (len - buf.length)).1 = [] then
      (.error (if gotAny then .malformedPacket else .io), (s.recv (len - buf.length)).2)
    else
      readAllLoop len (buf ++ (s.recv (len - buf.length)).1) true (s.recv (len - buf.length)).2
  else (.ok buf, s)
termination_by len - buf.length
decreasing_by
  have hpos := List.length_pos_iff.mpr _hend
  rw [List.length_append]
  omega

/-- `read_all`. -/
def readAll (len : ℕ) : Routine AuthErr (Chunks UInt8) (List UInt8) :=
  .op (readAllLoop len [] false)

/-- `auth_tcp_recv`. -/
def authTcpRecv (bufCap : ℕ) : Routine AuthErr (Chunks UInt8) (List UInt8) := do
  let hdr ← readAll 4
  let len := leNat hdr
  Routine.lift (ensure (¬ len > maxDatagram) .payloadTooLarge)
  Routine.lift (ensure (¬ len > bufCap) .bufferTooSmall)
  readAll len

/-- `write_all`. -/
def writeAll (buf : List UInt8) : Routine AuthErr (Sink UInt8) Unit :=
  .op fun s => (.ok (), s.writeAll buf)

/-- `auth_tcp_send`. -/
def authTcpSend (buf : List UInt8) : Routine AuthErr (Sink UInt8) Unit := do
  Routine.lift (ensure (¬ buf.length > maxDatagram) .payloadTooLarge)
  writeAll (natLE 4 buf.length)
  writeAll buf

end C

/-! ## Rust -/

namespace Rust

/-- `read_exact`. -/
def readExact (what : String) (len : ℕ) : Routine ProtoError (Chunks UInt8) (List UInt8) :=
  .op fun s =>
    let r := s.gather len []
    if r.1.length < len then (.error (.transport (what ++ ": failed to fill whole buffer")), r.2)
    else (.ok r.1, r.2)

/-- `recv_framed`. -/
def recvFramed : Routine ProtoError (Chunks UInt8) (List UInt8) := do
  let lenBuf ← readExact "tcp read len" 4
  let len := leNat lenBuf
  Routine.lift (ensure (¬ len > maxDatagram)
    (.transport ("tcp frame " ++ toString len ++ " > MAX_DATAGRAM " ++ toString maxDatagram)))
  readExact "tcp read body" len

/-- `write_all` of a stream. -/
def writeAll (buf : List UInt8) : Routine ProtoError (Sink UInt8) Unit :=
  .op fun s => (.ok (), s.writeAll buf)

/-- `send_framed`. -/
def sendFramed (packet : List UInt8) : Routine ProtoError (Sink UInt8) Unit := do
  Routine.lift (ensure (¬ packet.length > maxDatagram)
    (.transport ("packet " ++ toString packet.length ++ " > MAX_DATAGRAM " ++
      toString maxDatagram)))
  writeAll (natLE 4 packet.length)
  writeAll packet

end Rust

/-! ## One receive -/

/-- What the read loop of C makes of the contents. -/
theorem C.readAllLoop_eq {len : ℕ} {buf : List UInt8} {gotAny : Bool} {s : Chunks UInt8}
    (hbuf : buf.length ≤ len) (hany : gotAny = true ↔ buf ≠ []) :
    (readAllLoop len buf gotAny s).1 =
        (if len ≤ (buf ++ s.contents).length then .ok ((buf ++ s.contents).take len)
        else .error (if buf ++ s.contents = [] then .io else .malformedPacket)) ∧
      (readAllLoop len buf gotAny s).2.contents = (buf ++ s.contents).drop len := by
  induction buf, gotAny, s using readAllLoop.induct len with
  | case1 buf gotAny s hroom hend =>
      have hnil := (Chunks.recv_eq_nil_iff (Nat.sub_pos_of_lt hroom)).mp hend
      have happ := Chunks.recv_append (len - buf.length) s
      rw [hend, List.nil_append, hnil] at happ
      rw [readAllLoop, dif_pos hroom, dif_pos hend, hnil, happ, List.append_nil,
        if_neg (Nat.not_le.mpr hroom), List.drop_eq_nil_of_le hbuf]
      refine ⟨?_, rfl⟩
      by_cases hempty : buf = []
      · rw [if_pos hempty, if_neg fun h => hany.mp h hempty]
      · rw [if_neg hempty, if_pos (hany.mpr hempty)]
  | case2 buf gotAny s hroom hmore ih =>
      have hlen := Chunks.length_recv_le (len - buf.length) s
      have happ := Chunks.recv_append (len - buf.length) s
      rw [readAllLoop, dif_pos hroom, dif_neg hmore]
      have hnext := ih (by rw [List.length_append]; omega) (by simp [hmore])
      rwa [List.append_assoc, happ] at hnext
  | case3 buf gotAny s hfull =>
      have hlen : buf.length = len := by omega
      rw [readAllLoop, dif_neg hfull, if_pos (by rw [List.length_append]; omega),
        List.take_left' hlen, List.drop_left' hlen]
      exact ⟨rfl, rfl⟩

/-- A read that the stream has the bytes for. -/
theorem C.readAll_eq_ok {s : Chunks UInt8} {front rest : List UInt8}
    (hs : s.contents = front ++ rest) :
    ∃ s', (readAll front.length).exec s = (.ok front, s') ∧ s'.contents = rest := by
  obtain ⟨hres, hleft⟩ := readAllLoop_eq (s := s) (Nat.zero_le front.length)
    (show false = true ↔ ([] : List UInt8) ≠ [] by simp)
  refine ⟨(readAllLoop front.length [] false s).2, Prod.ext ?_ rfl, ?_⟩
  · show (readAllLoop front.length [] false s).1 = .ok front
    rw [hres, List.nil_append, hs, if_pos (by simp), List.take_left]
  · rw [hleft, List.nil_append, hs, List.drop_left]

/-- A read at which the stream ends. -/
theorem C.readAll_eq_error {s : Chunks UInt8} {len : ℕ} (hs : s.contents.length < len) :
    ∃ s', (readAll len).exec s =
      (.error (if s.contents = [] then .io else .malformedPacket), s') ∧ s'.contents = [] := by
  obtain ⟨hres, hleft⟩ := readAllLoop_eq (s := s) (Nat.zero_le len)
    (show false = true ↔ ([] : List UInt8) ≠ [] by simp)
  refine ⟨(readAllLoop len [] false s).2, Prod.ext ?_ rfl, ?_⟩
  · show (readAllLoop len [] false s).1 = _
    rw [hres, List.nil_append, if_neg (Nat.not_le.mpr hs)]
  · rw [hleft, List.nil_append, List.drop_eq_nil_of_le hs.le]

section

variable {s : Chunks UInt8} {packet rest : List UInt8} (extra : ℕ)

theorem leNat_length {packet : List UInt8} (h : packet.length ≤ maxDatagram) :
    leNat (natLE 4 packet.length) = packet.length :=
  leNat_natLE (lt_of_le_of_lt h (by decide))

/-- After the length of a packet comes the packet. -/
theorem C.authTcpRecv_after_length (hpacket : packet.length ≤ maxDatagram)
    (hs : s.contents = natLE 4 packet.length ++ rest) :
    ∃ s', (authTcpRecv (maxDatagram + extra)).exec s = (readAll packet.length).exec s' ∧
      s'.contents = rest := by
  obtain ⟨s', hhdr, hs'⟩ := readAll_eq_ok hs
  rw [natLE_length] at hhdr
  refine ⟨s', ?_, hs'⟩
  have hcap : ¬ packet.length > maxDatagram + extra := by omega
  rw [authTcpRecv, Routine.exec_bind_ok hhdr]
  simp only [leNat_length hpacket, ensure_pos (Nat.not_lt.mpr hpacket), ensure_pos hcap]
  rfl

/-- A frame is received. -/
theorem C.authTcpRecv_frame (hpacket : packet.length ≤ maxDatagram)
    (hs : s.contents = tcpFrame packet ++ rest) :
    ∃ s', (authTcpRecv (maxDatagram + extra)).exec s = (.ok packet, s') ∧ s'.contents = rest := by
  rw [tcpFrame, List.append_assoc] at hs
  obtain ⟨s', hrecv, hs'⟩ := authTcpRecv_after_length extra hpacket hs
  rw [hrecv]
  exact readAll_eq_ok hs'

/-- A stream that is over, or ends inside a frame. -/
theorem C.authTcpRecv_cut (hpacket : packet.length ≤ maxDatagram) {cut : ℕ}
    (hcut : cut < (tcpFrame packet).length) (hs : s.contents = (tcpFrame packet).take cut) :
    ((authTcpRecv (maxDatagram + extra)).exec s).1 =
      .error (if cut = 0 ∨ cut = 4 then .io else .malformedPacket) := by
  have hlen : (tcpFrame packet).length = 4 + packet.length := by
    rw [tcpFrame, List.length_append, natLE_length]
  by_cases hhdr : cut < 4
  · -- the stream ends in the length
    have hshort : s.contents.length < 4 := by
      rw [hs, List.length_take]
      omega
    obtain ⟨s', hread, -⟩ := readAll_eq_error hshort
    have hnil : s.contents = [] ↔ cut = 0 ∨ cut = 4 := by
      rw [hs, List.take_eq_nil_iff, ← List.length_eq_zero_iff, hlen]
      omega
    rw [authTcpRecv, Routine.exec_bind, hread]
    simp only [hnil]
  · -- the stream ends in the packet
    have hsplit : s.contents = natLE 4 packet.length ++ packet.take (cut - 4) := by
      rw [hs, tcpFrame, List.take_append, natLE_length, List.take_of_length_le (by simp; omega)]
    obtain ⟨s', hrecv, hs'⟩ := authTcpRecv_after_length extra hpacket hsplit
    have hshort : s'.contents.length < packet.length := by
      rw [hs', List.length_take]
      omega
    obtain ⟨s'', hread, -⟩ := readAll_eq_error hshort
    have hnil : s'.contents = [] ↔ cut = 0 ∨ cut = 4 := by
      rw [hs', List.take_eq_nil_iff, ← List.length_eq_zero_iff]
      omega
    rw [hrecv, hread]
    simp only [hnil]

/-- A length that is too large ends the receive, and what follows it is not read. -/
theorem C.authTcpRecv_too_large {len : ℕ} (hlarge : maxDatagram < len) (hlen : len < 2 ^ 32)
    (hs : s.contents = natLE 4 len ++ rest) :
    ∃ s', (authTcpRecv (maxDatagram + extra)).exec s = (.error .payloadTooLarge, s') ∧
      s'.contents = rest := by
  obtain ⟨s', hhdr, hs'⟩ := readAll_eq_ok hs
  rw [natLE_length] at hhdr
  refine ⟨s', ?_, hs'⟩
  rw [authTcpRecv, Routine.exec_bind_ok hhdr]
  simp only [leNat_natLE (show len < 256 ^ 4 from hlen), ensure_neg (not_not.mpr hlarge)]
  rfl

theorem Rust.readExact_eq_ok (what : String) {front : List UInt8}
    (hs : s.contents = front ++ rest) :
    ∃ s', (readExact what front.length).exec s = (.ok front, s') ∧ s'.contents = rest := by
  obtain ⟨hgot, hleft⟩ := Chunks.gather_eq (s := s)
    (show ([] : List UInt8).length ≤ front.length from Nat.zero_le _)
  rw [List.length_nil, Nat.sub_zero, hs, List.nil_append, List.take_left] at hgot
  rw [List.length_nil, Nat.sub_zero, hs, List.drop_left] at hleft
  refine ⟨(s.gather front.length []).2, ?_, hleft⟩
  simp only [readExact, Routine.exec_op, hgot, lt_irrefl, if_false]

/-- Rust receives the frames of C. -/
theorem Rust.recvFramed_frame (hpacket : packet.length ≤ maxDatagram)
    (hs : s.contents = tcpFrame packet ++ rest) :
    ∃ s', recvFramed.exec s = (.ok packet, s') ∧ s'.contents = rest := by
  rw [tcpFrame, List.append_assoc] at hs
  obtain ⟨s', hhdr, hs'⟩ := readExact_eq_ok "tcp read len" hs
  rw [natLE_length] at hhdr
  rw [recvFramed, Routine.exec_bind_ok hhdr]
  simp only [leNat_length hpacket, ensure_pos (Nat.not_lt.mpr hpacket)]
  exact readExact_eq_ok "tcp read body" hs'

theorem written_writeFrame (sink : Sink UInt8) (packet : List UInt8) :
    ((sink.writeAll (natLE 4 packet.length)).writeAll packet).written =
      sink.written ++ tcpFrame packet := by
  rw [Sink.written_writeAll, Sink.written_writeAll, List.append_assoc, tcpFrame]

/-- C writes the frame of a packet. -/
theorem C.authTcpSend_frame (hpacket : packet.length ≤ maxDatagram) (sink : Sink UInt8) :
    ((authTcpSend packet).exec sink).1 = .ok () ∧
      ((authTcpSend packet).exec sink).2.written = sink.written ++ tcpFrame packet := by
  have hexec : (authTcpSend packet).exec sink =
      (.ok (), (sink.writeAll (natLE 4 packet.length)).writeAll packet) := by
    rw [authTcpSend, ensure_pos (Nat.not_lt.mpr hpacket)]
    rfl
  rw [hexec]
  exact ⟨rfl, written_writeFrame sink packet⟩

/-- Rust writes the frame of a packet. -/
theorem Rust.sendFramed_frame (hpacket : packet.length ≤ maxDatagram) (sink : Sink UInt8) :
    ((sendFramed packet).exec sink).1 = .ok () ∧
      ((sendFramed packet).exec sink).2.written = sink.written ++ tcpFrame packet := by
  have hexec : (sendFramed packet).exec sink =
      (.ok (), (sink.writeAll (natLE 4 packet.length)).writeAll packet) := by
    rw [sendFramed, ensure_pos (Nat.not_lt.mpr hpacket)]
    rfl
  rw [hexec]
  exact ⟨rfl, written_writeFrame sink packet⟩

end

/-! ## Successive receives -/

/-- The results of a number of receives, and the stream they leave. -/
def receives {ε : Type} (recv : Routine ε (Chunks UInt8) (List UInt8)) :
    ℕ → Chunks UInt8 → List (Except ε (List UInt8)) × Chunks UInt8
  | 0, s => ([], s)
  | n + 1, s =>
      let r := recv.exec s
      let rs := receives recv n r.2
      (r.1 :: rs.1, rs.2)

/-- Frames are received one by one, and what follows them after that. -/
theorem receives_frames {ε : Type} {recv : Routine ε (Chunks UInt8) (List UInt8)}
    (hrecv : ∀ (s : Chunks UInt8) (packet rest : List UInt8), packet.length ≤ maxDatagram →
      s.contents = tcpFrame packet ++ rest →
      ∃ s', recv.exec s = (.ok packet, s') ∧ s'.contents = rest)
    (packets : List TcpPacket) {s : Chunks UInt8} {rest : List UInt8}
    (hs : s.contents = packets.flatMap (fun p => tcpFrame p.val) ++ rest) (n : ℕ) :
    ∃ s', s'.contents = rest ∧ (receives recv (packets.length + n) s).1 =
      packets.map (fun p => .ok p.val) ++ (receives recv n s').1 := by
  induction packets generalizing s with
  | nil =>
      refine ⟨s, hs, ?_⟩
      rw [List.length_nil, Nat.zero_add, List.map_nil, List.nil_append]
  | cons p packets ih =>
      rw [List.flatMap_cons, List.append_assoc] at hs
      obtain ⟨s₁, hexec, hs₁⟩ := hrecv s p.val _ p.property hs
      obtain ⟨s', hs', hrest⟩ := ih hs₁
      refine ⟨s', hs', ?_⟩
      rw [List.length_cons, Nat.succ_add, receives, hexec]
      simp only [hrest, List.map_cons, List.cons_append]

/-- Packets are received as they were sent, by either side, however the stream is cut.  A length
that is too large is refused before the packet is read.  The end of the stream is reported as an
end between frames or inside one, unless it is right behind the length of a frame. -/
theorem tcp_framing_iff (packets : List TcpPacket) (last : TcpPacket)
    (cut : Fin (tcpFrame last.val).length) (extra : ℕ) :
    (∀ s : Chunks UInt8,
      s.contents = packets.flatMap (fun p => tcpFrame p.val) ++ (tcpFrame last.val).take cut →
      (receives (C.authTcpRecv (maxDatagram + extra)) packets.length s).1 =
        packets.map (fun p => .ok p.val) ∧
      (receives Rust.recvFramed packets.length s).1 = packets.map (fun p => .ok p.val) ∧
      ((receives (C.authTcpRecv (maxDatagram + extra)) (packets.length + 1) s).1 =
          packets.map (fun p => .ok p.val) ++
            [.error (if cut.val = 0 then .io else .malformedPacket)] ↔
        cut.val ≠ 4)) ∧
    (∀ (len : ℕ) (rest : List UInt8) (s : Chunks UInt8), maxDatagram < len → len < 2 ^ 32 →
      s.contents = natLE 4 len ++ rest →
      ∃ s', (C.authTcpRecv (maxDatagram + extra)).exec s = (.error .payloadTooLarge, s') ∧
        s'.contents = rest) ∧
    (∀ (p : TcpPacket) (sink sink' : Sink UInt8), sink.written = sink'.written →
      ((C.authTcpSend p.val).exec sink).1 = .ok () ∧
      ((Rust.sendFramed p.val).exec sink').1 = .ok () ∧
      ((C.authTcpSend p.val).exec sink).2.written = sink.written ++ tcpFrame p.val ∧
      ((C.authTcpSend p.val).exec sink).2.written =
        ((Rust.sendFramed p.val).exec sink').2.written) := by
  have hC : ∀ (s : Chunks UInt8) (packet rest : List UInt8), packet.length ≤ maxDatagram →
      s.contents = tcpFrame packet ++ rest → ∃ s',
        (C.authTcpRecv (maxDatagram + extra)).exec s = (.ok packet, s') ∧ s'.contents = rest :=
    fun _ _ _ hpacket hs => C.authTcpRecv_frame extra hpacket hs
  refine ⟨fun s hs => ⟨?_, ?_, ?_⟩, ?_, ?_⟩
  · obtain ⟨s', -, hrecv⟩ := receives_frames hC packets hs 0
    rw [Nat.add_zero] at hrecv
    rw [hrecv, receives, List.append_nil]
  · obtain ⟨s', -, hrecv⟩ := receives_frames
      (fun _ _ _ hpacket hs => Rust.recvFramed_frame hpacket hs) packets hs 0
    rw [Nat.add_zero] at hrecv
    rw [hrecv, receives, List.append_nil]
  · obtain ⟨s', hs', hrecv⟩ := receives_frames hC packets hs 1
    have hend := C.authTcpRecv_cut extra last.property cut.isLt hs'
    rw [hrecv]
    simp only [receives, hend, List.append_cancel_left_eq]
    by_cases hzero : cut.val = 0
    · simp [hzero]
    · by_cases hfour : cut.val = 4
      · simp [hfour]
      · simp [hzero, hfour]
  · exact fun _ _ _ hlarge hlen hs => C.authTcpRecv_too_large extra hlarge hlen hs
  · intro p sink sink' hsame
    obtain ⟨hokC, hC⟩ := C.authTcpSend_frame p.property sink
    obtain ⟨hokR, hR⟩ := Rust.sendFramed_frame p.property sink'
    exact ⟨hokC, hokR, hC, by rw [hC, hR, hsame]⟩

/-- A stream that ends behind the length of a packet of one byte. -/
theorem tcp_end_after_length :
    4 < (tcpFrame [0]).length ∧
    (receives (C.authTcpRecv maxDatagram) 1 (.whole ((tcpFrame [0]).take 4))).1 = [.error .io] ∧
    ¬ (receives (C.authTcpRecv maxDatagram) 1 (.whole ((tcpFrame [0]).take 4))).1 =
      [.error .malformedPacket] := by
  have hend : ((C.authTcpRecv (maxDatagram + 0)).exec (.whole ((tcpFrame [0]).take 4))).1 =
      .error .io :=
    C.authTcpRecv_cut 0 (by decide) (by decide) (Chunks.contents_whole _)
  have hres : (receives (C.authTcpRecv maxDatagram) 1 (.whole ((tcpFrame [0]).take 4))).1 =
      [.error .io] := congrArg (fun r => [r]) hend
  refine ⟨by decide, hres, ?_⟩
  rw [hres]
  decide

end ZkArche
