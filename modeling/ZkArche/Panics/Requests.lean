import ZkArche.Panics.Stores
import ZkArche.Proto.ClientSpecRust

/-!
# How a request of the Rust client ends

`send_expect` panics only in `build_packet` (`safe_sendExpect`).

Over an unreliable transport it takes one answer per attempt, so it returns when there are enough
(`returnsWithin_sendExpect`).  Over a reliable transport it skips the packets of other requests, for
as long as they come (`awaitResponse_waits`), and ends with the first other answer
(`awaitResponse_answered`).
-/

namespace ZkArche.Rust

/-! ## How a client ends -/

variable {q : ℕ} {G : Type} {α β : Type}

/-- The client panicked. -/
def Panicked (r : Except Halt α) : Prop := ∃ m, r = .error (.stopped (.panic m))

/-- The client returned `Ok` or `Err`. -/
def Returned (r : Except Halt α) : Prop := (∃ a, r = .ok a) ∨ ∃ e, r = .error (.stopped (.err e))

theorem returned_iff {r : Except Halt α} : Returned r ↔ ¬ Panicked r ∧ r ≠ .error .waiting := by
  unfold Returned Panicked
  rcases r with ((e | m) | -) | a
  · simp
  · simp
  · simp
  · simp

theorem returned_orHalt {x : Except Stop α} (h : FailsWith Checked.NoPanic x) :
    Returned (orHalt x) := by
  cases x with
  | ok a => exact .inl ⟨a, rfl⟩
  | error e =>
      obtain ⟨p, rfl⟩ := h e rfl
      exact .inr ⟨p, rfl⟩

/-! ## Clients that never panic -/

/-- The code does not panic, whatever world it meets. -/
def Safe (x : Client q G α) : Prop := ∀ w, ¬ Panicked (x.exec w).1

theorem Safe.bind {x : Client q G α} {f : α → Client q G β} (hx : Safe x)
    (hf : ∀ a, Safe (f a)) : Safe (x >>= f) := by
  intro w
  show Routine.Ends (x >>= f) w fun r _ => ¬ Panicked r
  apply Routine.Ends.bind (R := fun r _ => ¬ Panicked r) (hx w)
  · exact fun a w' _ => hf a w'
  · rintro e w' he ⟨m, hm⟩
    exact he ⟨m, by rw [Except.error.inj hm]⟩

theorem Safe.attempt {x : Except Stop α} (h : FailsWith Checked.NoPanic x) :
    Safe (attempt x : Client q G α) :=
  fun _ => (returned_iff.mp (returned_orHalt h)).1

theorem Safe.pure (a : α) : Safe (Pure.pure a : Client q G α) := by
  rintro w ⟨m, hm⟩
  cases hm

theorem Safe.send (packet : List UInt8) : Safe (send packet : Client q G Unit) :=
  fun _ => (returned_iff.mp (returned_orHalt (Checked.orStop_noPanic _))).1

theorem Safe.recv : Safe (recv : Client q G (Except ProtoError (List UInt8))) := by
  rintro w ⟨m, hm⟩
  unfold Rust.recv at hm
  rw [Routine.exec_op] at hm
  split at hm <;> cases hm

theorem safe_awaitResponse (sid : SessionId) (seq : UInt32) (expected : UInt8) (n : ℕ) :
    Safe (awaitResponse sid seq expected n : Client q G (List UInt8)) := by
  induction n with
  | zero =>
      rintro w ⟨m, hm⟩
      cases hm
  | succ n ih =>
      refine .bind .recv fun r => .bind (.attempt (Checked.orStop_noPanic _)) fun bytes => ?_
      refine .bind (.attempt (Checked.orStop_noPanic _)) ?_
      rintro ⟨hdr, resp⟩
      dsimp only
      split
      next => exact ih
      next => exact .attempt (Checked.orStop_noPanic _)

theorem safe_retryLoop (packet : List UInt8) (sid : SessionId) (seq : UInt32) (expected : UInt8)
    (n : ℕ) (lastErr : Option ProtoError) :
    Safe (retryLoop packet sid seq expected n lastErr : Client q G (List UInt8)) := by
  induction n generalizing lastErr with
  | zero => exact .attempt (.error ⟨_, rfl⟩)
  | succ n ih =>
      refine .bind (.send packet) fun _ => .bind .recv fun r => ?_
      cases r with
      | error e => exact ih (some e)
      | ok bytes =>
          cases hp : parsePacket bytes with
          | error e =>
              simp only [hp]
              exact ih (some e)
          | ok v =>
              simp only [hp]
              split
              next => exact ih lastErr
              next => exact .attempt (Checked.orStop_noPanic _)

/-- A request whose payload fits a packet never panics. -/
theorem safe_sendExpect (maxRetries : ℕ) (ty : UInt8) (sid : SessionId) (seq : UInt32)
    {payload : List UInt8} (h : payload.length ≤ maxPayload) (expected : UInt8) :
    Safe (sendExpect maxRetries ty sid seq payload expected : Client q G (List UInt8)) := by
  refine .bind (.attempt ?_) fun packet => .bind ?_ fun w => ?_
  · rw [buildPacket_eq_ok_iff.mpr ⟨h, rfl⟩]
    exact .ok _
  · rintro w ⟨m, hm⟩
    cases hm
  · split
    next => exact .bind (.send packet) fun _ => safe_awaitResponse sid seq expected _
    next => exact safe_retryLoop packet sid seq expected _ none

/-! ## Unreliable transports -/

/-- The code returns when `n` answers are left, and takes no more than `n`. -/
def ReturnsWithin (n : ℕ) (x : Client q G α) (w : World q G) : Prop :=
  n ≤ w.transport.inbox.length → Routine.Ends x w fun r w' => r ≠ .error .waiting ∧
    w'.transport.isReliable = w.transport.isReliable ∧
    w.transport.inbox.length ≤ w'.transport.inbox.length + n

theorem ReturnsWithin.mono {m n : ℕ} {x : Client q G α} {w : World q G} (h : ReturnsWithin m x w)
    (hmn : m ≤ n) : ReturnsWithin n x w := by
  intro hlen
  apply (h (by omega)).mono
  rintro r w' ⟨hr, hrel, htaken⟩
  exact ⟨hr, hrel, by omega⟩

theorem ReturnsWithin.bind {m n : ℕ} {x : Client q G α} {f : α → Client q G β} {w : World q G}
    (hx : ReturnsWithin m x w)
    (hf : ∀ a w', w'.transport.isReliable = w.transport.isReliable → ReturnsWithin n (f a) w') :
    ReturnsWithin (m + n) (x >>= f) w := by
  intro hlen
  apply (hx (by omega)).bind
  · rintro a w' ⟨-, hrel, htaken⟩
    apply (hf a w' hrel (by omega)).mono
    rintro r w'' ⟨hr, hrel', htaken'⟩
    exact ⟨hr, hrel'.trans hrel, by omega⟩
  · rintro e w' ⟨he, hrel, htaken⟩
    exact ⟨fun h => he (by rw [Except.error.inj h]), hrel, by omega⟩

theorem returnsWithin_attempt (x : Except Stop α) (w : World q G) :
    ReturnsWithin 0 (attempt x) w := by
  intro _
  refine ⟨?_, rfl, Nat.le_refl _⟩
  cases x with
  | ok a => exact nofun
  | error e => exact nofun

theorem returnsWithin_send (packet : List UInt8) (w : World q G) :
    ReturnsWithin 0 (send packet) w := by
  intro _
  refine ⟨?_, rfl, Nat.le_refl _⟩
  show orHalt (orStop (w.transport.sendResult w.transport.sends)) ≠ _
  cases w.transport.sendResult w.transport.sends with
  | ok u => exact nofun
  | error e => exact nofun

theorem returnsWithin_recv (w : World q G) : ReturnsWithin 1 recv w := by
  intro hlen
  unfold Routine.Ends recv
  rw [Routine.exec_op]
  cases hin : w.transport.inbox with
  | nil =>
      rw [hin] at hlen
      cases hlen
  | cons a rest => cases a <;> exact ⟨nofun, rfl, Nat.le_refl _⟩

/-- Every attempt takes one answer. -/
theorem returnsWithin_retryLoop (packet : List UInt8) (sid : SessionId) (seq : UInt32)
    (expected : UInt8) (n : ℕ) (lastErr : Option ProtoError) (w : World q G) :
    ReturnsWithin n (retryLoop packet sid seq expected n lastErr) w := by
  induction n generalizing lastErr w with
  | zero => exact returnsWithin_attempt _ w
  | succ n ih =>
      have hround : ReturnsWithin (0 + (1 + n)) (retryLoop packet sid seq expected (n + 1) lastErr)
          w := by
        refine (returnsWithin_send packet w).bind fun _ w₁ _ => ?_
        refine (returnsWithin_recv w₁).bind fun r w₂ _ => ?_
        cases r with
        | error e => exact ih (some e) w₂
        | ok bytes =>
            cases hp : parsePacket bytes with
            | error e =>
                simp only [hp]
                exact ih (some e) w₂
            | ok v =>
                simp only [hp]
                split
                next => exact ih lastErr w₂
                next => exact (returnsWithin_attempt _ w₂).mono (Nat.zero_le n)
      rwa [Nat.zero_add, Nat.add_comm] at hround

theorem returnsWithin_sendExpect (maxRetries : ℕ) (ty : UInt8) (sid : SessionId) (seq : UInt32)
    (payload : List UInt8) (expected : UInt8) {w : World q G}
    (hrel : w.transport.isReliable = false) :
    ReturnsWithin (maxRetries + 1) (sendExpect maxRetries ty sid seq payload expected) w := by
  have hread : ReturnsWithin (0 + (0 + (maxRetries + 1)))
      (sendExpect maxRetries ty sid seq payload expected) w := by
    refine (returnsWithin_attempt _ w).bind fun packet w₁ hrel₁ => ?_
    have hop : Routine.exec (Routine.op fun w => (.ok w, w) : Client q G (World q G)) w₁ =
      (.ok w₁, w₁) := rfl
    intro hlen
    unfold Routine.Ends
    rw [Routine.exec_bind_ok hop, if_neg (by rw [hrel₁, hrel]; exact Bool.false_ne_true)]
    exact (returnsWithin_retryLoop packet sid seq expected _ none w₁).mono (by omega) hlen
  rwa [Nat.zero_add, Nat.zero_add] at hread

/-! ## Reliable transports -/

/-- A packet of another request. -/
def StrayAnswer (sid : SessionId) (seq : UInt32) (a : Except ProtoError (List UInt8)) : Prop :=
  ∃ bytes hdr resp, a = .ok bytes ∧ parsePacket bytes = .ok (hdr, resp) ∧ stray hdr sid seq

/-- What `send_expect` makes of an answer that it does not skip. -/
def responseIn (expected : UInt8) (a : Except ProtoError (List UInt8)) :
    Except ProtoError (List UInt8) := do
  let bytes ← a
  let (hdr, resp) ← parsePacket bytes
  handleResponseHeader hdr resp expected

theorem recv_exec {w : World q G} {a : Except ProtoError (List UInt8)}
    {rest : List (Except ProtoError (List UInt8))} (h : w.transport.inbox = a :: rest) :
    ∃ w', recv.exec w = (.ok a, w') ∧ w'.transport = { w.transport with inbox := rest } := by
  unfold recv
  rw [Routine.exec_op, h]
  cases a with
  | error e => exact ⟨_, rfl, rfl⟩
  | ok bytes => exact ⟨_, rfl, rfl⟩

/-- The loop skips a packet of another request. -/
theorem awaitResponse_skip {sid : SessionId} {seq : UInt32} (expected : UInt8) (n : ℕ)
    {w : World q G} {a : Except ProtoError (List UInt8)}
    {rest : List (Except ProtoError (List UInt8))} (h : w.transport.inbox = a :: rest)
    (ha : StrayAnswer sid seq a) :
    ∃ w', (awaitResponse sid seq expected (n + 1)).exec w =
        (awaitResponse sid seq expected n).exec w' ∧
      w'.transport = { w.transport with inbox := rest } := by
  obtain ⟨bytes, hdr, resp, rfl, hp, hs⟩ := ha
  obtain ⟨w', hrecv, ht⟩ := recv_exec h
  refine ⟨w', ?_, ht⟩
  have hbytes : Routine.exec (attempt (orStop (.ok bytes)) : Client q G _) w' = (.ok bytes, w') :=
    rfl
  have hparse : Routine.exec (attempt (orStop (parsePacket bytes)) : Client q G _) w' =
      (.ok (hdr, resp), w') := by
    rw [hp]
    rfl
  rw [awaitResponse, Routine.exec_bind_ok hrecv, Routine.exec_bind_ok hbytes,
    Routine.exec_bind_ok hparse]
  dsimp only
  rw [if_pos hs]

/-- The loop ends with any other answer. -/
theorem awaitResponse_end {sid : SessionId} {seq : UInt32} (expected : UInt8) (n : ℕ)
    {w : World q G} {a : Except ProtoError (List UInt8)}
    {rest : List (Except ProtoError (List UInt8))} (h : w.transport.inbox = a :: rest)
    (ha : ¬ StrayAnswer sid seq a) :
    ∃ w', (awaitResponse sid seq expected (n + 1)).exec w =
        (orHalt (orStop (responseIn expected a)), w') ∧
      w'.transport = { w.transport with inbox := rest } := by
  obtain ⟨w', hrecv, ht⟩ := recv_exec h
  refine ⟨w', ?_, ht⟩
  rw [awaitResponse, Routine.exec_bind_ok hrecv]
  cases a with
  | error e => rfl
  | ok bytes =>
      have hbytes : Routine.exec (attempt (orStop (.ok bytes)) : Client q G _) w' =
          (.ok bytes, w') := rfl
      rw [Routine.exec_bind_ok hbytes]
      cases hp : parsePacket bytes with
      | error e =>
          simp only [responseIn, Except.ok_bind', hp]
          rfl
      | ok v =>
          obtain ⟨hdr, resp⟩ := v
          have hs : ¬ stray hdr sid seq := fun hs => ha ⟨bytes, hdr, resp, rfl, hp, hs⟩
          have hparse : Routine.exec (attempt (orStop (.ok (hdr, resp))) : Client q G _) w' =
              (.ok (hdr, resp), w') := rfl
          rw [Routine.exec_bind_ok hparse]
          simp only [responseIn, Except.ok_bind', hp, if_neg hs]
          rfl

theorem awaitResponse_waits {sid : SessionId} {seq : UInt32} (expected : UInt8) (n : ℕ)
    {w : World q G} (h : ∀ a ∈ w.transport.inbox, StrayAnswer sid seq a) :
    ((awaitResponse sid seq expected n).exec w).1 = .error .waiting := by
  induction n generalizing w with
  | zero => rfl
  | succ n ih =>
      cases hin : w.transport.inbox with
      | nil =>
          have hrecv : recv.exec w = (.error .waiting, w) := by
            unfold recv
            rw [Routine.exec_op, hin]
          rw [awaitResponse, Routine.exec_bind, hrecv]
      | cons a rest =>
          rw [hin] at h
          obtain ⟨w', hskip, ht⟩ := awaitResponse_skip expected n hin (h a List.mem_cons_self)
          rw [hskip]
          apply ih
          rw [ht]
          exact fun b hb => h b (List.mem_cons_of_mem _ hb)

theorem awaitResponse_answered {sid : SessionId} {seq : UInt32} (expected : UInt8) {n : ℕ}
    {w : World q G} {a : Except ProtoError (List UInt8)}
    {strays rest : List (Except ProtoError (List UInt8))}
    (hin : w.transport.inbox = strays ++ a :: rest) (hn : strays.length < n)
    (hs : ∀ b ∈ strays, StrayAnswer sid seq b) (ha : ¬ StrayAnswer sid seq a) :
    ∃ w', (awaitResponse sid seq expected n).exec w =
        (orHalt (orStop (responseIn expected a)), w') ∧
      w'.transport = { w.transport with inbox := rest } := by
  induction strays generalizing n w with
  | nil =>
      obtain ⟨n, rfl⟩ := Nat.exists_eq_succ_of_ne_zero (Nat.ne_of_gt hn)
      exact awaitResponse_end expected n hin ha
  | cons b strays ih =>
      obtain ⟨n, rfl⟩ := Nat.exists_eq_succ_of_ne_zero (Nat.ne_of_gt (Nat.zero_lt_of_lt hn))
      obtain ⟨w₁, hskip, ht₁⟩ := awaitResponse_skip expected n hin (hs b List.mem_cons_self)
      have hin₁ : w₁.transport.inbox = strays ++ a :: rest := by
        rw [ht₁]
        rfl
      obtain ⟨w₂, hend, ht₂⟩ := ih hin₁ (Nat.lt_of_succ_lt_succ hn)
        fun c hc => hs c (List.mem_cons_of_mem _ hc)
      refine ⟨w₂, hskip.trans hend, ?_⟩
      rw [ht₂, ht₁]

/-- The world after a packet was sent. -/
def World.afterSend (w : World q G) (packet : List UInt8) : World q G :=
  { w with
    transport := { w.transport with sends := w.transport.sends + 1 }
    log := .sent packet :: w.log }

/-- Over a reliable transport, `send_expect` sends the packet and waits. -/
theorem sendExpect_reliable (maxRetries : ℕ) (ty : UInt8) (sid : SessionId) (seq : UInt32)
    {payload : List UInt8} (hp : payload.length ≤ maxPayload) (expected : UInt8) {w : World q G}
    (hrel : w.transport.isReliable = true) :
    (sendExpect maxRetries ty sid seq payload expected).exec w =
      match w.transport.sendResult w.transport.sends with
      | .ok () => (awaitResponse sid seq expected (w.transport.inbox.length + 1)).exec
          (w.afterSend (frame ty sid seq payload))
      | .error e => (.error (.stopped (.err e)), w.afterSend (frame ty sid seq payload)) := by
  have hbuild : Routine.exec (attempt (buildPacket ty sid seq payload) : Client q G _) w =
      (.ok (frame ty sid seq payload), w) := by
    rw [buildPacket_eq_ok_iff.mpr ⟨hp, rfl⟩]
    rfl
  have hop : Routine.exec (Routine.op fun w => (.ok w, w) : Client q G (World q G)) w =
      (.ok w, w) := rfl
  have hsend : Routine.exec (send (frame ty sid seq payload)) w =
      (orHalt (orStop (w.transport.sendResult w.transport.sends)),
        w.afterSend (frame ty sid seq payload)) := rfl
  rw [sendExpect, Routine.exec_bind_ok hbuild, Routine.exec_bind_ok hop, if_pos hrel,
    Routine.exec_bind, hsend]
  cases w.transport.sendResult w.transport.sends with
  | ok u => rfl
  | error e => rfl

end ZkArche.Rust
