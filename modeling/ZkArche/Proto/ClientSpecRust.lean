import ZkArche.Proto.ClientRust

/-!
# What the Rust client has received

One lemma per operation of the client says what it can do to the world.  `sendExpect_ends`
covers both receive loops of `send_expect`: whatever the transport does, the store is as
before, and a response that is returned is the payload of the last packet received, which
has the session identifier, the sequence number and the type that were expected.
-/

namespace ZkArche.Rust

variable {q : ℕ} {G : Type}

/-! ## Operations -/

/-- The client has only talked: the store is as before, and the log has grown by packets. -/
structure Talked (w w' : World q G) : Prop where
  store : w'.store = w.store
  log : ∃ new, w'.log = new ++ w.log ∧ ∀ K, .savedServerPub K ∉ new

theorem Talked.refl (w : World q G) : Talked w w := ⟨rfl, [], rfl, fun _ => List.not_mem_nil⟩

theorem Talked.trans {w w' w'' : World q G} (h : Talked w w') (h' : Talked w' w'') :
    Talked w w'' := by
  obtain ⟨new, hnew, hs⟩ := h.log
  obtain ⟨new', hnew', hs'⟩ := h'.log
  refine ⟨h'.store.trans h.store, new' ++ new, ?_, ?_⟩
  · rw [hnew', hnew, List.append_assoc]
  · intro K hK
    rcases List.mem_append.mp hK with hK | hK
    · exact hs' K hK
    · exact hs K hK

/-- The packet carries the payload under the given session, sequence number and type. -/
def Carries (bytes : List UInt8) (sid : SessionId) (seq : UInt32) (ty : UInt8)
    (payload : List UInt8) : Prop :=
  ∃ hdr, parsePacket bytes = .ok (hdr, payload) ∧ hdr.sessionId = sid ∧ hdr.seq = seq ∧
    hdr.pktType = ty

/-- The last thing that happened since `w` is that the client received the payload. -/
def Answered (sid : SessionId) (seq : UInt32) (ty : UInt8) (w w' : World q G)
    (payload : List UInt8) : Prop :=
  ∃ bytes mid, w'.log = .received bytes :: (mid ++ w.log) ∧ Carries bytes sid seq ty payload

theorem Answered.of_talked {sid : SessionId} {seq : UInt32} {ty : UInt8} {w w' w'' : World q G}
    {payload : List UInt8} (h : Talked w w') (ha : Answered sid seq ty w' w'' payload) :
    Answered sid seq ty w w'' payload := by
  obtain ⟨new, hnew, -⟩ := h.log
  obtain ⟨bytes, mid, hlog, hc⟩ := ha
  refine ⟨bytes, mid ++ new, ?_, hc⟩
  rw [hlog, hnew, List.append_assoc]

theorem send_ends (packet : List UInt8) (w : World q G) :
    Routine.Ends (send packet) w fun _ w' => Talked w w' :=
  ⟨rfl, [.sent packet], rfl, fun K hK => by cases List.mem_singleton.mp hK⟩

theorem recv_ends (w : World q G) :
    Routine.Ends recv w fun r w' => Talked w w' ∧
      ∀ bytes, r = .ok (.ok bytes) → w'.log = .received bytes :: w.log := by
  unfold Routine.Ends recv
  rw [Routine.exec_op]
  split
  next => exact ⟨.refl w, nofun⟩
  next => exact ⟨⟨rfl, [], rfl, fun _ => List.not_mem_nil⟩, nofun⟩
  next bytes rest h =>
    refine ⟨⟨rfl, [.received bytes], rfl, fun K hK => by cases List.mem_singleton.mp hK⟩, ?_⟩
    rintro bytes' ⟨⟩
    rfl

/-- The `?` operator passes a value on. -/
theorem exec_attempt_ok {α : Type} {r : Except Stop α} {a : α} (hr : r = .ok a)
    (w : World q G) : (attempt r).exec w = (.ok a, w) := by
  rw [hr]
  rfl

/-- `?` leaves the world alone. -/
theorem attempt_ends {α : Type} (r : Except Stop α) (w : World q G) :
    Routine.Ends (attempt r) w fun r' w' => w = w' ∧ ∀ a, r' = .ok a → r = .ok a := by
  refine ⟨rfl, ?_⟩
  intro a ha
  cases r with
  | ok b =>
      cases ha
      rfl
  | error s => cases ha

theorem handleResponseHeader_eq_ok_iff {hdr : Header} {resp resp' : List UInt8}
    {expected : UInt8} :
    handleResponseHeader hdr resp expected = .ok resp' ↔
      hdr.pktType ≠ pktError ∧ hdr.pktType = expected ∧ resp = resp' := by
  unfold handleResponseHeader
  split
  next h => simp [h]
  next h =>
    split
    next h' => simp [h']
    next h' =>
      rw [not_not] at h'
      constructor
      · rintro ⟨⟩
        exact ⟨h, h', rfl⟩
      · rintro ⟨-, -, rfl⟩
        rfl

/-! ## Requests -/

/-- What a request has to show for itself. -/
def Requested (sid : SessionId) (seq : UInt32) (expected : UInt8) (w : World q G)
    (r : Except Halt (List UInt8)) (w' : World q G) : Prop :=
  Talked w w' ∧ ∀ resp, r = .ok resp → Answered sid seq expected w w' resp

theorem Requested.of_talked {sid : SessionId} {seq : UInt32} {expected : UInt8}
    {w w' w'' : World q G} {r : Except Halt (List UInt8)} (h : Talked w w')
    (hr : Requested sid seq expected w' r w'') : Requested sid seq expected w r w'' :=
  ⟨h.trans hr.1, fun resp hresp => (hr.2 resp hresp).of_talked h⟩

/-- An error returned to the caller. -/
theorem Requested.error {sid : SessionId} {seq : UInt32} {expected : UInt8} {w w' : World q G}
    {e : Halt} (h : Talked w w') : Requested sid seq expected w (.error e) w' := ⟨h, nofun⟩

/-- A packet of the request's session and sequence number ends the request. -/
theorem response_ends {sid : SessionId} {seq : UInt32} {expected : UInt8} {w w' : World q G}
    {bytes resp : List UInt8} {hdr : Header} (hlog : w'.log = .received bytes :: w.log)
    (ht : Talked w w') (hp : parsePacket bytes = .ok (hdr, resp)) (hs : ¬ stray hdr sid seq) :
    Routine.Ends (attempt (orStop (handleResponseHeader hdr resp expected))) w'
      (Requested sid seq expected w) := by
  apply (attempt_ends _ w').mono
  rintro r _ ⟨rfl, hr⟩
  refine ⟨ht, ?_⟩
  intro resp' hresp
  obtain ⟨-, hty, rfl⟩ := handleResponseHeader_eq_ok_iff.mp (orStop_eq_ok_iff.mp (hr resp' hresp))
  obtain ⟨hsid, hseq⟩ := not_or.mp hs
  exact ⟨bytes, [], hlog, hdr, hp, not_not.mp hsid, not_not.mp hseq, hty⟩

theorem awaitResponse_ends (sid : SessionId) (seq : UInt32) (expected : UInt8) (n : ℕ)
    (w : World q G) :
    Routine.Ends (awaitResponse sid seq expected n) w (Requested sid seq expected w) := by
  induction n generalizing w with
  | zero => exact .error (.refl w)
  | succ n ih =>
      apply (recv_ends w).bind
      · rintro r w₁ ⟨ht, hlog⟩
        apply (attempt_ends _ w₁).bind
        · rintro bytes _ ⟨rfl, hr⟩
          have hrb := orStop_eq_ok_iff.mp (hr bytes rfl)
          apply (attempt_ends _ _).bind
          · rintro ⟨hdr, resp⟩ _ ⟨rfl, hp⟩
            have hparse := orStop_eq_ok_iff.mp (hp _ rfl)
            dsimp only
            split
            next => exact (ih _).mono fun _ _ h => h.of_talked ht
            next hs => exact response_ends (hlog bytes (by rw [hrb])) ht hparse hs
          · rintro e _ ⟨rfl, -⟩
            exact .error ht
        · rintro e _ ⟨rfl, -⟩
          exact .error ht
      · rintro e w₁ ⟨ht, -⟩
        exact .error ht

theorem retryLoop_ends (packet : List UInt8) (sid : SessionId) (seq : UInt32)
    (expected : UInt8) (n : ℕ) (lastErr : Option ProtoError) (w : World q G) :
    Routine.Ends (retryLoop packet sid seq expected n lastErr) w
      (Requested sid seq expected w) := by
  induction n generalizing w lastErr with
  | zero => exact .error (.refl w)
  | succ n ih =>
      apply (send_ends packet w).bind
      · rintro - w₁ hsent
        apply (recv_ends w₁).bind
        · rintro r w₂ ⟨ht, hlog⟩
          have hcont : ∀ last, Routine.Ends (retryLoop packet sid seq expected n last) w₂
              (Requested sid seq expected w) :=
            fun last => (ih last w₂).mono fun _ _ h => h.of_talked (hsent.trans ht)
          cases r with
          | error e => exact hcont (some e)
          | ok bytes =>
              cases hp : parsePacket bytes with
              | error e =>
                  simp only [hp]
                  exact hcont (some e)
              | ok v =>
                  obtain ⟨hdr, resp⟩ := v
                  simp only [hp]
                  split
                  next => exact hcont lastErr
                  next hs =>
                    exact (response_ends (hlog bytes rfl) ht hp hs).mono
                      fun _ _ h => h.of_talked hsent
        · rintro e w₂ ⟨ht, -⟩
          exact .error (hsent.trans ht)
      · exact fun e w₁ hsent => .error hsent

/-- Whatever the transport does, a request ends with the response it expects, or without
one. -/
theorem sendExpect_ends (maxRetries : ℕ) (ty : UInt8) (sid : SessionId) (seq : UInt32)
    (payload : List UInt8) (expected : UInt8) (w : World q G) :
    Routine.Ends (sendExpect maxRetries ty sid seq payload expected) w
      (Requested sid seq expected w) := by
  apply (attempt_ends _ w).bind
  · rintro packet _ ⟨rfl, -⟩
    show Routine.Ends (if w.transport.isReliable then _ else _) w _
    split
    · apply (send_ends packet w).bind
      · exact fun _ w₁ hsent =>
          (awaitResponse_ends sid seq expected _ w₁).mono fun _ _ h => h.of_talked hsent
      · exact fun e w₁ hsent => .error hsent
    · exact retryLoop_ends packet sid seq expected _ none w
  · rintro e _ ⟨rfl, -⟩
    exact .error (.refl w)

/-! ## Messages -/

section

variable [AddCommGroup G] [Module (ZMod q) G]

/-- The key-confirmation parts of a client and the AUTH_2 it received. -/
def AuthStart.parts (st : AuthStart q G) (a2 : Auth2 q G) : KcTranscriptParts q G :=
  ⟨st.a1.pid, st.a1.clientProof.a, st.a1.clientProof.s, st.a1.nonceC, st.a1.ephC, a2.serverPub,
    a2.serverProof.a, a2.serverProof.s, a2.nonceS, a2.ephS⟩

/-- The confirmation the client derives. -/
def AuthStart.confirmation (S : Suite q G) (st : AuthStart q G) (a2 : Auth2 q G) :
    Confirmation :=
  ⟨(st.parts a2).encode S, S.encPoint (st.ephSecret • a2.ephS)⟩

/-- What the client holds of a confirmation. -/
def confirmedOf (S : Suite q G) (c : Confirmation) : Confirmed :=
  ⟨c.sessionKey S, c.th S, c.key S .s2c, c.key S .c2s⟩

variable {S : Suite q G} [DecidableEq G]

/-- An accepted AUTH_2. -/
theorem acceptAuth2_eq_ok_iff {st : AuthStart q G} {payload : List UInt8} {c : Confirmed} :
    acceptAuth2 S st payload = .ok c ↔ ∃ a2, Auth2.decode S payload = .ok a2 ∧
      a2.serverPub = st.serverPub ∧
      verifyAuthServer S a2.serverPub a2.nonceS a2.ephS a2.serverProof = true ∧
      a2.tagS = (st.confirmation S a2).tag S .s2c ∧
      c = confirmedOf S (st.confirmation S a2) := by
  simp only [acceptAuth2, Except.bind_eq_ok_iff, orStop_eq_ok_iff, ensure_eq_ok_iff,
    Except.pure_eq_ok, Except.ok.injEq]
  constructor
  · rintro ⟨a2, hd, -, hpub, -, hv, -, ht, rfl⟩
    exact ⟨a2, hd, S.encPoint_inj hpub, hv, ht.symm, rfl⟩
  · rintro ⟨a2, hd, hpub, hv, ht, rfl⟩
    exact ⟨a2, hd, (), by rw [hpub], (), hv, (), ht.symm, rfl⟩

/-- An accepted SETUP_2. -/
theorem acceptSetup2_eq_ok_iff {pinned : Option G} {deviceId : Bytes 32} {devicePub : G}
    {clientNonce : Bytes 32} {payload : List UInt8} {s2 : Setup2 q G} :
    acceptSetup2 S pinned deviceId devicePub clientNonce payload = .ok s2 ↔
      Setup2.decode S payload = .ok s2 ∧ (∀ p, pinned = some p → p = s2.serverPub) ∧
      verifySetupServer S ⟨deviceId, devicePub, s2.serverPub, clientNonce, s2.serverNonce,
        s2.setupChallenge⟩ s2.serverProof = true := by
  cases pinned with
  | none =>
      simp only [acceptSetup2, Except.bind_eq_ok_iff, orStop_eq_ok_iff, ensure_eq_ok_iff,
        Except.pure_eq_ok, Except.ok.injEq]
      constructor
      · rintro ⟨s2', hd, -, hv, rfl⟩
        exact ⟨hd, nofun, hv⟩
      · rintro ⟨hd, -, hv⟩
        exact ⟨s2, hd, (), hv, rfl⟩
  | some p =>
      simp only [acceptSetup2, Except.bind_eq_ok_iff, orStop_eq_ok_iff, ensure_eq_ok_iff,
        Except.pure_eq_ok, Except.ok.injEq]
      constructor
      · rintro ⟨s2', hd, -, hp, -, hv, rfl⟩
        refine ⟨hd, ?_, hv⟩
        rintro p' ⟨⟩
        exact S.encPoint_inj hp
      · rintro ⟨hd, hp, hv⟩
        exact ⟨s2, hd, (), by rw [hp p rfl], (), hv, rfl⟩

end

end ZkArche.Rust
