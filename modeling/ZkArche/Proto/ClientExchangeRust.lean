import ZkArche.Proto.ClientSpecRust

/-!
# One request of the Rust client over a network

A request of the client is one packet, sent again as often as the retries allow.  Whatever the
transport does, `send_expect` sends nothing but copies of that packet and leaves the store alone
(`Conversed`).

A network that loses, repeats and reorders packets, but does not make any up, delivers to a
request only packets of other requests and the answer (`Clear`).  Then the request ends with the
answer as soon as it is received, and if it never is, with an error that the transport reported
(`sendExpect_settles`).
-/

namespace ZkArche.Rust

variable {q : ℕ} {G : Type}

/-- The packet that was sent. -/
def sentOf : ClientEvent G → Option (List UInt8)
  | .sent packet => some packet
  | _ => none

/-- An error that a call of the transport returns, or the one for the last retry. -/
def Reported (w : World q G) (e : ProtoError) : Prop :=
  (∃ n, w.transport.sendResult n = .error e) ∨ .error e ∈ w.transport.inbox ∨
    e = .transport "retries exhausted"

/-- The client has not returned yet, or it has stopped with such an error. -/
def Unanswered {α : Type} (w : World q G) (r : Except Halt α) : Prop :=
  r = .error .waiting ∨ ∃ e, r = .error (.stopped (.err e)) ∧ Reported w e

/-- Since `w`, the client has sent copies of one packet, and received. -/
structure Conversed (budget : ℕ) (request : List UInt8) (new : List (ClientEvent G))
    (w w' : World q G) : Prop where
  log : w'.log = new ++ w.log
  sent : ∃ k ≤ budget, new.filterMap sentOf = List.replicate k request
  unsaved : ∀ K, .savedServerPub K ∉ new
  store : w'.store = w.store
  isReliable : w'.transport.isReliable = w.transport.isReliable
  sendResult : w'.transport.sendResult = w.transport.sendResult
  inbox : w'.transport.inbox <:+ w.transport.inbox

/-- What was received for the request is the answer. -/
def Clear (sid : SessionId) (seq : UInt32) (answer : List UInt8) (new : List (ClientEvent G)) :
    Prop :=
  ∀ bytes, .received bytes ∈ new → ∃ hdr payload, parsePacket bytes = .ok (hdr, payload) ∧
    (¬ stray hdr sid seq → bytes = answer)

/-- The request has ended with the answer, or without having received it. -/
def Settled (w : World q G) (answer resp : List UInt8) (new : List (ClientEvent G))
    (r : Except Halt (List UInt8)) : Prop :=
  (r = .ok resp ∧ .received answer ∈ new) ∨ (.received answer ∉ new ∧ Unanswered w r)

/-! ## Small facts -/

theorem Conversed.refl (request : List UInt8) (w : World q G) :
    Conversed 0 request [] w w :=
  ⟨rfl, ⟨0, le_rfl, rfl⟩, fun _ => List.not_mem_nil, rfl, rfl, rfl, List.suffix_rfl⟩

theorem Conversed.mono {b b' : ℕ} {request : List UInt8} {new : List (ClientEvent G)}
    {w w' : World q G} (h : Conversed b request new w w') (hb : b ≤ b') :
    Conversed b' request new w w' := by
  obtain ⟨k, hk, hsent⟩ := h.sent
  exact { h with sent := ⟨k, hk.trans hb, hsent⟩ }

theorem Conversed.trans {b b' : ℕ} {request : List UInt8} {new new' : List (ClientEvent G)}
    {w w' w'' : World q G} (h : Conversed b request new w w')
    (h' : Conversed b' request new' w' w'') : Conversed (b + b') request (new' ++ new) w w'' := by
  obtain ⟨k, hk, hsent⟩ := h.sent
  obtain ⟨k', hk', hsent'⟩ := h'.sent
  refine ⟨?_, ⟨k' + k, by omega, ?_⟩, ?_, h'.store.trans h.store, h'.isReliable.trans h.isReliable,
    h'.sendResult.trans h.sendResult, h'.inbox.trans h.inbox⟩
  · rw [h'.log, h.log, List.append_assoc]
  · rw [List.filterMap_append, hsent, hsent', List.replicate_append_replicate]
  · intro K hK
    rcases List.mem_append.mp hK with hK | hK
    · exact h'.unsaved K hK
    · exact h.unsaved K hK

/-- The packets that a request sends are its packet. -/
theorem Conversed.eq_of_sent {b : ℕ} {request packet : List UInt8} {new : List (ClientEvent G)}
    {w w' : World q G} (h : Conversed b request new w w') (hp : .sent packet ∈ new) :
    packet = request := by
  obtain ⟨k, -, hsent⟩ := h.sent
  have hm : packet ∈ new.filterMap sentOf := List.mem_filterMap.mpr ⟨_, hp, rfl⟩
  rw [hsent] at hm
  exact List.eq_of_mem_replicate hm

theorem Reported.of_conversed {b : ℕ} {request : List UInt8} {new : List (ClientEvent G)}
    {w w' : World q G} {e : ProtoError} (h : Conversed b request new w w') (he : Reported w' e) :
    Reported w e := by
  obtain ⟨n, hn⟩ | hm | hlast := he
  · exact .inl ⟨n, by rw [← h.sendResult, hn]⟩
  · exact .inr (.inl (h.inbox.subset hm))
  · exact .inr (.inr hlast)

theorem Unanswered.of_conversed {α : Type} {b : ℕ} {request : List UInt8}
    {new : List (ClientEvent G)} {w w' : World q G} {r : Except Halt α}
    (h : Conversed b request new w w') (hr : Unanswered w' r) : Unanswered w r := by
  obtain hw | ⟨e, he, hrep⟩ := hr
  · exact .inl hw
  · exact .inr ⟨e, he, hrep.of_conversed h⟩

/-- An unfinished request has returned no value. -/
theorem Unanswered.not_ok {α : Type} {w : World q G} {a : α}
    (h : Unanswered w (.ok a : Except Halt α)) : False := by
  obtain h | ⟨e, h, -⟩ := h <;> cases h

theorem Clear.of_append {sid : SessionId} {seq : UInt32} {answer : List UInt8}
    {new old : List (ClientEvent G)} (h : Clear sid seq answer (new ++ old)) :
    Clear sid seq answer new ∧ Clear sid seq answer old :=
  ⟨fun bytes hb => h bytes (List.mem_append_left old hb),
    fun bytes hb => h bytes (List.mem_append_right new hb)⟩

/-- A request that goes on after events without the answer. -/
theorem Settled.of_append {answer resp : List UInt8} {new new' : List (ClientEvent G)}
    {w : World q G} {r : Except Halt (List UInt8)} (hno : .received answer ∉ new)
    (hr : Settled w answer resp new' r) : Settled w answer resp (new' ++ new) r := by
  obtain ⟨hok, hm⟩ | ⟨hm, hun⟩ := hr
  · exact .inl ⟨hok, List.mem_append_left new hm⟩
  · refine .inr ⟨?_, hun⟩
    intro hin
    exact (List.mem_append.mp hin).elim hm hno

/-! ## Calls of the transport -/

/-- A call of `send`. -/
theorem send_converses (request : List UInt8) (w : World q G) :
    Routine.Ends (send request) w fun r w' => Conversed 1 request [.sent request] w w' ∧
      (r = .ok () ∨ ∃ e, r = .error (.stopped (.err e)) ∧ Reported w e) := by
  refine ⟨⟨rfl, ⟨1, le_rfl, rfl⟩, ?_, rfl, rfl, rfl, List.suffix_rfl⟩, ?_⟩
  · intro K hK
    cases List.mem_singleton.mp hK
  · have hr : ((send request).exec w).1
        = orHalt (orStop (w.transport.sendResult w.transport.sends)) := rfl
    rw [hr]
    cases hs : w.transport.sendResult w.transport.sends with
    | ok u => exact .inl rfl
    | error e => exact .inr ⟨e, rfl, .inl ⟨_, hs⟩⟩

/-- A call of `recv`: the script has ended, or it says what is next. -/
theorem recv_converses (request : List UInt8) (w : World q G) :
    Routine.Ends recv w fun r w' => (r = .error .waiting ∧ w' = w) ∨
      (∃ e, r = .ok (.error e) ∧ Conversed 0 request [] w w' ∧ Reported w e) ∨
      ∃ bytes, r = .ok (.ok bytes) ∧ Conversed 0 request [.received bytes] w w' := by
  unfold Routine.Ends recv
  rw [Routine.exec_op]
  split
  next => exact .inl ⟨rfl, rfl⟩
  next e rest hinbox =>
    refine .inr (.inl ⟨e, rfl, ⟨rfl, ⟨0, le_rfl, rfl⟩, fun _ => List.not_mem_nil, rfl, rfl, rfl, ?_⟩,
      .inr (.inl (hinbox ▸ List.mem_cons_self))⟩)
    exact hinbox ▸ List.suffix_cons _ rest
  next bytes rest hinbox =>
    refine .inr (.inr ⟨bytes, rfl, ⟨rfl, ⟨0, le_rfl, rfl⟩, ?_, rfl, rfl, rfl, ?_⟩⟩)
    · intro K hK
      cases List.mem_singleton.mp hK
    · exact hinbox ▸ List.suffix_cons _ rest

/-- `?` on an error. -/
theorem ends_attempt_error {α β : Type} {e : Stop} {f : α → Client q G β} {w : World q G}
    {Q : Except Halt β → World q G → Prop} (h : Q (.error (.stopped e)) w) :
    Routine.Ends (attempt (.error e) >>= f) w Q := by
  rw [Routine.Ends, Routine.exec_bind]
  exact h

/-- `?` on a value. -/
theorem ends_attempt_ok {α β : Type} {r : Except Stop α} {a : α} {f : α → Client q G β}
    {w : World q G} {Q : Except Halt β → World q G → Prop} (hr : r = .ok a)
    (h : Routine.Ends (f a) w Q) : Routine.Ends (attempt r >>= f) w Q := by
  rw [Routine.Ends, Routine.exec_bind_ok (exec_attempt_ok hr w)]
  exact h

/-! ## The loops -/

section

variable {sid : SessionId} {seq : UInt32} {expected : UInt8} {resp : List UInt8}

/-- A received packet that is no stray is the answer. -/
theorem response_settles (hne : expected ≠ pktError) {bytes payload : List UInt8} {hdr : Header}
    {new : List (ClientEvent G)} {w : World q G}
    (hp : parsePacket bytes = .ok (hdr, payload)) (hs : ¬ stray hdr sid seq)
    (hclear : Clear sid seq (frame expected sid seq resp) (.received bytes :: new)) :
    Settled w (frame expected sid seq resp) resp (.received bytes :: new)
      (orHalt (orStop (handleResponseHeader hdr payload expected))) := by
  obtain ⟨hdr', payload', hp', himp⟩ := hclear bytes List.mem_cons_self
  rw [hp] at hp'
  cases hp'
  obtain rfl := himp hs
  rw [parsePacket_frame] at hp
  cases hp
  have hheader : handleResponseHeader (Header.fresh expected sid seq) resp expected = .ok resp :=
    handleResponseHeader_eq_ok_iff.mpr ⟨hne, rfl, rfl⟩
  rw [hheader]
  exact .inl ⟨rfl, List.mem_cons_self⟩

/-- A stray packet is not the answer. -/
theorem not_mem_of_stray {bytes payload : List UInt8} {hdr : Header}
    (hp : parsePacket bytes = .ok (hdr, payload)) (hs : stray hdr sid seq) :
    ClientEvent.received (frame expected sid seq resp) ∉
      [(ClientEvent.received bytes : ClientEvent G)] := by
  intro hm
  cases List.mem_singleton.mp hm
  rw [parsePacket_frame] at hp
  cases hp
  simp [stray, Header.fresh] at hs

/-- What a loop has to show that was entered in `w₀` and is now in `w`.  A condition on the way
it got there may be given. -/
def Settles (given : Prop) (w₀ : World q G) (answer resp : List UInt8) (sid : SessionId)
    (seq : UInt32) (budget : ℕ) (request : List UInt8) (w : World q G)
    (r : Except Halt (List UInt8)) (w' : World q G) : Prop :=
  ∃ new, Conversed budget request new w w' ∧
    (given → Clear sid seq answer new → Settled w₀ answer resp new r)

/-- A loop that goes on after events without the answer. -/
theorem Settles.of_conversed {given given' : Prop} {b b' : ℕ} {request answer : List UInt8}
    {new : List (ClientEvent G)} {w₀ w w' w'' : World q G} {r : Except Halt (List UInt8)}
    (h : Conversed b request new w w') (hno : .received answer ∉ new)
    (hgiven : given → Clear sid seq answer new → given')
    (hr : Settles given' w₀ answer resp sid seq b' request w' r w'') :
    Settles given w₀ answer resp sid seq (b + b') request w r w'' := by
  obtain ⟨new', hconv, hset⟩ := hr
  refine ⟨new' ++ new, h.trans hconv, fun hg hclear => ?_⟩
  obtain ⟨hnew', hnew⟩ := hclear.of_append
  exact (hset (hgiven hg hnew) hnew').of_append hno

/-- A loop that ends without the answer. -/
theorem Settles.unanswered {given : Prop} {b : ℕ} {request answer : List UInt8}
    {new : List (ClientEvent G)} {w₀ w w' : World q G} {r : Except Halt (List UInt8)}
    (h : Conversed b request new w w') (hno : .received answer ∉ new)
    (hr : given → Unanswered w₀ r) : Settles given w₀ answer resp sid seq b request w r w' :=
  ⟨new, h, fun hg _ => .inr ⟨hno, hr hg⟩⟩

/-- A clear log has no packet without a header. -/
theorem not_clear_of_parse_error {bytes : List UInt8} {e : ProtoError}
    {new : List (ClientEvent G)} (hp : parsePacket bytes = .error e)
    (hclear : Clear sid seq (frame expected sid seq resp) (.received bytes :: new)) : False := by
  obtain ⟨hdr, payload, hp', -⟩ := hclear bytes List.mem_cons_self
  rw [hp] at hp'
  cases hp'

variable (resp) (hne : expected ≠ pktError)
include hne

/-- The loop over a reliable transport. -/
theorem awaitResponse_settles (request : List UInt8) (n : ℕ) {w₀ w : World q G}
    (hup : ∀ e, Reported w e → Reported w₀ e) :
    Routine.Ends (awaitResponse sid seq expected n) w
      (Settles True w₀ (frame expected sid seq resp) resp sid seq 0 request w) := by
  induction n generalizing w with
  | zero => exact .unanswered (.refl request w) List.not_mem_nil fun _ => .inl rfl
  | succ n ih =>
      refine (recv_converses request w).bind ?_ ?_
      · rintro r w₁ (⟨hr, -⟩ | ⟨e, hr, hconv, hrep⟩ | ⟨bytes, hr, hconv⟩)
        · cases hr
        · cases hr
          apply ends_attempt_error
          exact .unanswered hconv List.not_mem_nil fun _ => .inr ⟨e, rfl, hup e hrep⟩
        · cases hr
          apply ends_attempt_ok rfl
          cases hp : parsePacket bytes with
          | error e =>
              apply ends_attempt_error
              exact ⟨_, hconv, fun _ hclear => (not_clear_of_parse_error hp hclear).elim⟩
          | ok v =>
              obtain ⟨hdr, payload⟩ := v
              apply ends_attempt_ok rfl
              dsimp only
              split
              next hs =>
                have hrest := ih (w := w₁) fun e he => hup e (he.of_conversed hconv)
                exact hrest.mono fun r w₂ hset => .of_conversed hconv
                  (not_mem_of_stray hp hs) (fun _ _ => trivial) hset
              next hs => exact ⟨_, hconv, fun _ hclear => response_settles hne hp hs hclear⟩
      · rintro e w₁ (⟨hr, rfl⟩ | ⟨e, hr, -⟩ | ⟨bytes, hr, -⟩)
        · cases hr
          exact .unanswered (.refl request w₁) List.not_mem_nil fun _ => .inl rfl
        · cases hr
        · cases hr

/-- The loop over an unreliable transport.  The last error is reported when the log is clear. -/
theorem retryLoop_settles (request : List UInt8) (n : ℕ) (lastErr : Option ProtoError)
    {w₀ w : World q G} (hup : ∀ e, Reported w e → Reported w₀ e) :
    Routine.Ends (retryLoop request sid seq expected n lastErr) w
      (Settles (∀ e, lastErr = some e → Reported w₀ e) w₀ (frame expected sid seq resp) resp sid
        seq n request w) := by
  induction n generalizing w lastErr with
  | zero =>
      refine .unanswered (.refl request w) List.not_mem_nil fun hlast => .inr ⟨_, rfl, ?_⟩
      cases lastErr with
      | none => exact .inr (.inr rfl)
      | some e => exact hlast e rfl
  | succ n ih =>
      have hsilent : ClientEvent.received (frame expected sid seq resp) ∉
          [(ClientEvent.sent request : ClientEvent G)] := by
        intro h
        cases List.mem_singleton.mp h
      refine (send_converses request w).bind ?_ ?_
      · rintro - w₁ ⟨hsent, -⟩
        have hup₁ : ∀ e, Reported w₁ e → Reported w₀ e := fun e he => hup e (he.of_conversed hsent)
        -- what is left after the packet was sent
        refine Routine.Ends.mono (Q := Settles (∀ e, lastErr = some e → Reported w₀ e) w₀
          (frame expected sid seq resp) resp sid seq n request w₁) ?_ fun r w₂ hset => ?_
        · refine (recv_converses request w₁).bind ?_ ?_
          · rintro r w₂ (⟨hr, -⟩ | ⟨e, hr, hconv, hrep⟩ | ⟨bytes, hr, hconv⟩)
            · cases hr
            · cases hr
              have hrest := ih (some e) (w := w₂) fun e he => hup₁ e (he.of_conversed hconv)
              refine hrest.mono fun r w₃ hset => Nat.zero_add n ▸ .of_conversed hconv
                List.not_mem_nil (fun _ _ => ?_) hset
              rintro e' ⟨⟩
              exact hup₁ e hrep
            · cases hr
              have hup₂ : ∀ e, Reported w₂ e → Reported w₀ e :=
                fun e he => hup₁ e (he.of_conversed hconv)
              cases hp : parsePacket bytes with
              | error e =>
                  simp only [hp]
                  obtain ⟨new, hconv', -⟩ := ih (some e) (w := w₂) hup₂
                  refine ⟨_, Nat.zero_add n ▸ hconv.trans hconv', fun _ hclear => ?_⟩
                  exact (not_clear_of_parse_error hp hclear.of_append.2).elim
              | ok v =>
                  obtain ⟨hdr, payload⟩ := v
                  simp only [hp]
                  split
                  next hs =>
                    refine (ih lastErr (w := w₂) hup₂).mono fun r w₃ hset => Nat.zero_add n ▸
                      .of_conversed hconv (not_mem_of_stray hp hs) (fun hlast _ => hlast) hset
                  next hs =>
                    exact ⟨_, hconv.mono (Nat.zero_le n),
                      fun _ hclear => response_settles hne hp hs hclear⟩
          · rintro e w₂ (⟨hr, rfl⟩ | ⟨e, hr, -⟩ | ⟨bytes, hr, -⟩)
            · cases hr
              exact .unanswered ((Conversed.refl request w₂).mono (Nat.zero_le n)) List.not_mem_nil
                fun _ => .inl rfl
            · cases hr
            · cases hr
        · exact Nat.add_comm 1 n ▸ .of_conversed hsent hsilent (fun hlast _ => hlast) hset
      · rintro e w₁ ⟨hsent, hr⟩
        refine .unanswered (hsent.mono (Nat.le_add_left 1 n)) hsilent fun _ => ?_
        obtain hr | ⟨e', hr, hrep⟩ := hr
        · cases hr
        · cases hr
          exact .inr ⟨e', rfl, hup e' hrep⟩

/-- A request sends copies of its packet only, at most one more than it may retry.  When nothing
but the answer is received for it, it ends with the answer if it received it, and else with an
error of the transport or not yet. -/
theorem sendExpect_settles (maxRetries : ℕ) (ty : UInt8) {payload : List UInt8}
    (hlen : payload.length ≤ maxPayload) (w : World q G) :
    Routine.Ends (sendExpect maxRetries ty sid seq payload expected) w
      (Settles True w (frame expected sid seq resp) resp sid seq (maxRetries + 1)
        (frame ty sid seq payload) w) := by
  have hbuild : buildPacket ty sid seq payload = .ok (frame ty sid seq payload) :=
    buildPacket_eq_ok_iff.mpr ⟨hlen, rfl⟩
  apply ends_attempt_ok hbuild
  show Routine.Ends (if w.transport.isReliable then _ else _) w _
  split
  next =>
    have hsilent : ClientEvent.received (frame expected sid seq resp) ∉
        [(ClientEvent.sent (frame ty sid seq payload) : ClientEvent G)] :=
      fun h => nomatch List.mem_singleton.mp h
    refine (send_converses (frame ty sid seq payload) w).bind ?_ ?_
    · rintro - w₁ ⟨hsent, -⟩
      refine (awaitResponse_settles resp hne (frame ty sid seq payload) _
        fun e he => he.of_conversed hsent).mono fun r w₂ hset => ?_
      have hone : Settles True w (frame expected sid seq resp) resp sid seq 1
          (frame ty sid seq payload) w r w₂ := .of_conversed hsent hsilent (fun _ _ => trivial) hset
      obtain ⟨new, hconv, hnew⟩ := hone
      exact ⟨new, hconv.mono (Nat.le_add_left 1 maxRetries), hnew⟩
    · rintro e w₁ ⟨hsent, hr⟩
      refine .unanswered (hsent.mono (Nat.le_add_left 1 maxRetries)) hsilent fun _ => ?_
      obtain hr | ⟨e', hr, hrep⟩ := hr
      · cases hr
      · cases hr
        exact .inr ⟨e', rfl, hrep⟩
  next =>
    refine (retryLoop_settles resp hne _ (maxRetries + 1) none fun _ he => he).mono fun r w' hset => ?_
    obtain ⟨new, hconv, hnew⟩ := hset
    exact ⟨new, hconv, fun _ => hnew nofun⟩

end

end ZkArche.Rust
