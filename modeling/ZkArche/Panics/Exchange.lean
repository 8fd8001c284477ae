import ZkArche.Panics.Requests

/-!
# Two requests over any network

A *network* says what every call of `send` and `recv` of a transport returns.  A run over its first
`n` answers is the run of a world with these in its inbox.  A client returns over a network when its
run over enough answers does.

Once it is ready to talk, each client makes two requests (`Exchange`).  An exchange never panics.
It returns unless a reliable transport keeps it waiting with packets of other requests
(`Exchange.returns_iff`).
-/

namespace ZkArche.Rust

variable {q : ℕ} {G : Type} {α β : Type}

/-! ## Networks -/

/-- What the calls of `send` and `recv` of a transport return. -/
structure Network where
  isReliable : Bool
  sendResult : ℕ → Except ProtoError Unit
  answer : ℕ → Except ProtoError (List UInt8)

/-- `n` answers, from the `i`-th on. -/
def Network.answers (N : Network) (i n : ℕ) : List (Except ProtoError (List UInt8)) :=
  (List.range' i n).map N.answer

theorem Network.answers_split (N : Network) (i k n : ℕ) :
    N.answers i (k + 1 + n) = N.answers i k ++ N.answer (i + k) :: N.answers (i + k + 1) n := by
  have hrange : List.range' i (k + 1 + n) =
      List.range' i k ++ (i + k) :: List.range' (i + k + 1) n := by
    rw [← List.range'_succ, List.range'_append_1, Nat.add_assoc, Nat.add_comm 1 n]
  rw [Network.answers, hrange, List.map_append, List.map_cons]
  rfl

theorem Network.mem_answers {N : Network} {i n : ℕ} {a : Except ProtoError (List UInt8)} :
    a ∈ N.answers i n ↔ ∃ k, i ≤ k ∧ k < i + n ∧ N.answer k = a := by
  simp only [Network.answers, List.mem_map, List.mem_range'_1, and_assoc]

/-- A world with the first `n` answers of the network. -/
def Network.world (N : Network) (store : CredentialStore q G) (n : ℕ) : World q G :=
  ⟨⟨N.isReliable, N.sendResult, 0, N.answers 0 n⟩, store, []⟩

/-- Over the network the client never panics, and it returns `Ok` or `Err`. -/
def Returns (x : Client q G α) (N : Network) (store : CredentialStore q G) : Prop :=
  (∀ n, ¬ Panicked (x.exec (N.world store n)).1) ∧ ∃ n, Returned (x.exec (N.world store n)).1

/-- A reliable transport keeps the client waiting: for the answer to its first request, or for the
answer to its second, after an answer to the first that it accepts. -/
inductive Network.Stalls (N : Network) (sid : SessionId) (expected : UInt8)
    (accept : List UInt8 → Except Stop β) : Prop where
  | first : N.isReliable = true → N.sendResult 0 = .ok () →
      (∀ i, StrayAnswer sid 0 (N.answer i)) → N.Stalls sid expected accept
  | second {j : ℕ} {payload : List UInt8} {b : β} : N.isReliable = true →
      N.sendResult 0 = .ok () → (∀ i < j, StrayAnswer sid 0 (N.answer i)) →
      ¬ StrayAnswer sid 0 (N.answer j) → responseIn expected (N.answer j) = .ok payload →
      accept payload = .ok b → N.sendResult 1 = .ok () →
      (∀ i > j, StrayAnswer sid 1 (N.answer i)) → N.Stalls sid expected accept

/-- `k` packets were sent, and `n` answers from the `i`-th on are in the inbox. -/
def Network.At (N : Network) (k i n : ℕ) (w : World q G) : Prop :=
  w.transport = ⟨N.isReliable, N.sendResult, k, N.answers i n⟩

section

variable {N : Network} {k i n : ℕ} {w : World q G} (maxRetries : ℕ) (ty : UInt8)
  (sid : SessionId) {seq : UInt32} {payload : List UInt8} (expected : UInt8)

/-- A request that cannot be sent. -/
theorem request_unsent (hN : N.isReliable = true)
    (hp : payload.length ≤ maxPayload) (hw : N.At k i n w) {e : ProtoError}
    (hsend : N.sendResult k = .error e) :
    ∃ w', (sendExpect maxRetries ty sid seq payload expected).exec w =
      (.error (.stopped (.err e)), w') := by
  have hrel : w.transport.isReliable = true := by rw [hw, hN]
  have hsend' : w.transport.sendResult w.transport.sends = .error e := by
    rw [hw]
    exact hsend
  refine ⟨w.afterSend (frame ty sid seq payload), ?_⟩
  rw [sendExpect_reliable maxRetries ty sid seq hp expected hrel, hsend']

/-- A request that is sent waits in the world after the packet. -/
theorem request_sent (hN : N.isReliable = true)
    (hp : payload.length ≤ maxPayload) (hw : N.At k i n w) (hsend : N.sendResult k = .ok ()) :
    ∃ w', (sendExpect maxRetries ty sid seq payload expected).exec w =
        (awaitResponse sid seq expected (n + 1)).exec w' ∧ N.At (k + 1) i n w' := by
  have hrel : w.transport.isReliable = true := by rw [hw, hN]
  have hsend' : w.transport.sendResult w.transport.sends = .ok () := by
    rw [hw]
    exact hsend
  have hlen : w.transport.inbox.length = n := by
    rw [hw]
    simp [Network.answers]
  refine ⟨w.afterSend (frame ty sid seq payload), ?_, ?_⟩
  · rw [sendExpect_reliable maxRetries ty sid seq hp expected hrel, hsend', hlen]
  · rw [Network.At, World.afterSend, hw]

/-- A request that gets only packets of other requests waits. -/
theorem request_waits (hN : N.isReliable = true)
    (hp : payload.length ≤ maxPayload) (hw : N.At k i n w) (hsend : N.sendResult k = .ok ())
    (hs : ∀ j, i ≤ j → j < i + n → StrayAnswer sid seq (N.answer j)) :
    ((sendExpect maxRetries ty sid seq payload expected).exec w).1 = .error .waiting := by
  obtain ⟨w', hexec, hw'⟩ := request_sent maxRetries ty sid expected hN hp hw hsend
  rw [hexec]
  apply awaitResponse_waits
  rw [hw']
  intro a ha
  obtain ⟨j, hij, hj, rfl⟩ := Network.mem_answers.mp ha
  exact hs j hij hj

/-- A request that gets another answer ends with it. -/
theorem request_answered (hN : N.isReliable = true)
    (hp : payload.length ≤ maxPayload) {m r : ℕ} (hw : N.At k i (m + 1 + r) w)
    (hsend : N.sendResult k = .ok ())
    (hs : ∀ j, i ≤ j → j < i + m → StrayAnswer sid seq (N.answer j))
    (ha : ¬ StrayAnswer sid seq (N.answer (i + m))) :
    ∃ w', (sendExpect maxRetries ty sid seq payload expected).exec w =
        (orHalt (orStop (responseIn expected (N.answer (i + m)))), w') ∧
      N.At (k + 1) (i + m + 1) r w' := by
  obtain ⟨w₁, hexec, hw₁⟩ := request_sent maxRetries ty sid expected hN hp hw hsend
  have hin : w₁.transport.inbox =
      N.answers i m ++ N.answer (i + m) :: N.answers (i + m + 1) r := by
    rw [hw₁]
    exact N.answers_split i m r
  have hstrays : ∀ b ∈ N.answers i m, StrayAnswer sid seq b := by
    intro b hb
    obtain ⟨j, hij, hj, rfl⟩ := Network.mem_answers.mp hb
    exact hs j hij hj
  obtain ⟨w', hend, ht⟩ := awaitResponse_answered expected hin
    (n := m + 1 + r + 1) (by simp [Network.answers]; omega) hstrays ha
  refine ⟨w', hexec.trans hend, ?_⟩
  rw [Network.At, ht, hw₁]

end

/-- From some index on, the first that does not satisfy `P`. -/
theorem exists_first {P : ℕ → Prop} {i : ℕ} (h : ∃ j, i ≤ j ∧ ¬ P j) :
    ∃ m, (∀ j, i ≤ j → j < i + m → P j) ∧ ¬ P (i + m) := by
  classical
  obtain ⟨j, hij, hj⟩ := h
  have hex : ∃ m, ¬ P (i + m) := ⟨j - i, by rwa [Nat.add_sub_cancel' hij]⟩
  refine ⟨Nat.find hex, fun l hil hl => ?_, Nat.find_spec hex⟩
  by_contra hP
  exact Nat.find_min hex (m := l - i) (by omega) (by rwa [Nat.add_sub_cancel' hil])

/-! ## Two requests -/

/-- What both clients do once they are ready: a request, a check of its answer, a second request,
and what follows its acknowledgement. -/
structure Exchange (α β : Type) where
  ty₁ : UInt8
  payload₁ : List UInt8
  fits₁ : payload₁.length ≤ maxPayload
  expected₁ : UInt8
  accept : List UInt8 → Except Stop β
  accept_noPanic : ∀ resp, FailsWith Checked.NoPanic (accept resp)
  ty₂ : UInt8
  payload₂ : β → List UInt8
  fits₂ : ∀ b, (payload₂ b).length ≤ maxPayload
  expected₂ : UInt8
  finish : β → Except Stop α
  finish_noPanic : ∀ b, FailsWith Checked.NoPanic (finish b)

namespace Exchange

variable (E : Exchange α β) (maxRetries : ℕ) (sid : SessionId)

/-- What follows an accepted answer. -/
def second (b : β) : Client q G α := do
  let ack ← sendExpect maxRetries E.ty₂ sid 1 (E.payload₂ b) E.expected₂
  attempt (orStop (decodeAck ack))
  attempt (E.finish b)

/-- The exchange. -/
def run : Client q G α := do
  let resp ← sendExpect maxRetries E.ty₁ sid 0 E.payload₁ E.expected₁
  let b ← attempt (E.accept resp)
  E.second maxRetries sid b

theorem run_safe : Safe (E.run maxRetries sid : Client q G α) := by
  refine .bind (safe_sendExpect _ _ _ _ E.fits₁ _) fun resp => ?_
  refine .bind (.attempt (E.accept_noPanic resp)) fun b => ?_
  refine .bind (safe_sendExpect _ _ _ _ (E.fits₂ b) _) fun ack => ?_
  exact .bind (.attempt (Checked.orStop_noPanic _)) fun _ => .attempt (E.finish_noPanic b)

/-- The retries are counted. -/
theorem run_returnsWithin {w : World q G} (hrel : w.transport.isReliable = false) :
    ReturnsWithin (2 * (maxRetries + 1)) (E.run maxRetries sid) w := by
  have hboth : ReturnsWithin (maxRetries + 1 + (0 + (maxRetries + 1 + (0 + 0))))
      (E.run maxRetries sid) w := by
    refine (returnsWithin_sendExpect maxRetries _ sid 0 _ _ hrel).bind fun resp w₁ h₁ => ?_
    refine (returnsWithin_attempt _ w₁).bind fun b w₂ h₂ => ?_
    refine (returnsWithin_sendExpect maxRetries _ sid 1 _ _ ?_).bind fun ack w₃ _ => ?_
    · rw [h₂, h₁, hrel]
    · exact (returnsWithin_attempt _ w₃).bind fun _ w₄ _ => returnsWithin_attempt _ w₄
  exact hboth.mono (by omega)

variable {sid : SessionId} {N : Network} (store : CredentialStore q G)

/-- An answer to the first request that is accepted leads to the second. -/
theorem run_accepted (hN : N.isReliable = true) (hsend : N.sendResult 0 = .ok ()) {m : ℕ} (r : ℕ)
    (hs : ∀ j < m, StrayAnswer sid 0 (N.answer j)) (ha : ¬ StrayAnswer sid 0 (N.answer m))
    {resp : List UInt8} (hresp : responseIn E.expected₁ (N.answer m) = .ok resp) {b : β}
    (hb : E.accept resp = .ok b) :
    ∃ w', (E.run maxRetries sid).exec (N.world store (m + 1 + r)) =
        (E.second maxRetries sid b).exec w' ∧ N.At 1 (m + 1) r w' := by
  have h0 : N.At 0 0 (m + 1 + r) (N.world store (m + 1 + r)) := rfl
  obtain ⟨w', hexec, hw'⟩ := request_answered maxRetries E.ty₁ sid E.expected₁ hN E.fits₁ h0 hsend
    (fun j _ hj => hs j (by omega)) (by rwa [Nat.zero_add])
  simp only [Nat.zero_add] at hexec hw'
  rw [hresp] at hexec
  have hacc : Routine.exec (attempt (E.accept resp) : Client q G β) w' = (.ok b, w') := by
    rw [hb]
    rfl
  exact ⟨w', by rw [run, Routine.exec_bind_ok hexec, Routine.exec_bind_ok hacc], hw'⟩

/-- Any other answer ends the exchange. -/
theorem run_refused (hN : N.isReliable = true) (hsend : N.sendResult 0 = .ok ()) {m : ℕ}
    (hs : ∀ j < m, StrayAnswer sid 0 (N.answer j)) (ha : ¬ StrayAnswer sid 0 (N.answer m))
    (hno : ∀ resp b, responseIn E.expected₁ (N.answer m) = .ok resp → E.accept resp ≠ .ok b) :
    Returned ((E.run maxRetries sid).exec (N.world store (m + 1))).1 := by
  have h0 : N.At 0 0 (m + 1 + 0) (N.world store (m + 1)) := rfl
  obtain ⟨w', hexec, -⟩ := request_answered maxRetries E.ty₁ sid E.expected₁ hN E.fits₁ h0 hsend
    (fun j _ hj => hs j (by omega)) (by rwa [Nat.zero_add])
  rw [Nat.zero_add] at hexec
  rw [run]
  cases hresp : responseIn E.expected₁ (N.answer m) with
  | error e =>
      rw [hresp] at hexec
      rw [Routine.exec_bind_error (congrArg Prod.fst hexec)]
      exact .inr ⟨e, rfl⟩
  | ok resp =>
      rw [hresp] at hexec
      rw [Routine.exec_bind_ok hexec]
      cases hb : E.accept resp with
      | error e =>
          obtain ⟨p, rfl⟩ := E.accept_noPanic resp e hb
          exact .inr ⟨p, rfl⟩
      | ok b => exact absurd hb (hno resp b hresp)

theorem second_waits (hN : N.isReliable = true) (hsend : N.sendResult 1 = .ok ()) {i n : ℕ}
    {w : World q G} (hw : N.At 1 i n w) (hs : ∀ j, i ≤ j → StrayAnswer sid 1 (N.answer j)) (b : β) :
    ((E.second maxRetries sid b).exec w).1 = .error .waiting :=
  Routine.exec_bind_error
    (request_waits maxRetries E.ty₂ sid E.expected₂ hN (E.fits₂ b) hw hsend fun j hj _ => hs j hj) _

theorem second_unsent (hN : N.isReliable = true) {e : ProtoError} (hsend : N.sendResult 1 = .error e)
    {i n : ℕ} {w : World q G} (hw : N.At 1 i n w) (b : β) :
    Returned ((E.second maxRetries sid b).exec w).1 := by
  obtain ⟨w', hexec⟩ := request_unsent maxRetries E.ty₂ sid E.expected₂ hN (E.fits₂ b) hw hsend
  rw [second, Routine.exec_bind_error (congrArg Prod.fst hexec)]
  exact .inr ⟨e, rfl⟩

theorem second_answered (hN : N.isReliable = true) (hsend : N.sendResult 1 = .ok ()) {i m : ℕ}
    {w : World q G} (hw : N.At 1 i (m + 1) w)
    (hs : ∀ j, i ≤ j → j < i + m → StrayAnswer sid 1 (N.answer j))
    (ha : ¬ StrayAnswer sid 1 (N.answer (i + m))) (b : β) :
    Returned ((E.second maxRetries sid b).exec w).1 := by
  obtain ⟨w', hexec, -⟩ := request_answered maxRetries E.ty₂ sid E.expected₂ hN (E.fits₂ b) (r := 0)
    hw hsend hs ha
  rw [second]
  cases hresp : responseIn E.expected₂ (N.answer (i + m)) with
  | error e =>
      rw [hresp] at hexec
      rw [Routine.exec_bind_error (congrArg Prod.fst hexec)]
      exact .inr ⟨e, rfl⟩
  | ok ack =>
      rw [hresp] at hexec
      rw [Routine.exec_bind_ok hexec]
      cases decodeAck ack with
      | error e => exact .inr ⟨e, rfl⟩
      | ok u => exact returned_orHalt (E.finish_noPanic b)

/-- A network that stalls keeps the exchange waiting. -/
theorem waits_of_stalls (h : N.Stalls sid E.expected₁ E.accept) (n : ℕ) :
    ((E.run maxRetries sid).exec (N.world store n)).1 = .error .waiting := by
  have h0 : N.At 0 0 n (N.world store n) := rfl
  cases h with
  | first hN hsend hs =>
      exact Routine.exec_bind_error
        (request_waits maxRetries E.ty₁ sid E.expected₁ hN E.fits₁ h0 hsend fun j _ _ => hs j) _
  | @second j payload b hN hsend hs ha hresp hb hsend' hs' =>
      by_cases hn : n ≤ j
      · exact Routine.exec_bind_error
          (request_waits maxRetries E.ty₁ sid E.expected₁ hN E.fits₁ h0 hsend
            fun i _ hi => hs i (by omega)) _
      · obtain ⟨r, rfl⟩ : ∃ r, n = j + 1 + r := ⟨n - (j + 1), by omega⟩
        obtain ⟨w', hexec, hw'⟩ := E.run_accepted maxRetries store hN hsend r hs ha
          hresp hb
        rw [hexec]
        exact E.second_waits maxRetries hN hsend' hw' (fun i hi => hs' i hi) b

/-- After an accepted answer the exchange returns when the second request does not wait forever. -/
theorem returned_of_accepted (hN : N.isReliable = true) (hsend : N.sendResult 0 = .ok ()) {m : ℕ}
    (hs : ∀ j < m, StrayAnswer sid 0 (N.answer j)) (ha : ¬ StrayAnswer sid 0 (N.answer m))
    {resp : List UInt8} (hresp : responseIn E.expected₁ (N.answer m) = .ok resp) {b : β}
    (hb : E.accept resp = .ok b)
    (h : N.sendResult 1 = .ok () → ∃ j, m + 1 ≤ j ∧ ¬ StrayAnswer sid 1 (N.answer j)) :
    ∃ n, Returned ((E.run maxRetries sid).exec (N.world store n)).1 := by
  cases hsend' : N.sendResult 1 with
  | error e =>
      obtain ⟨w', hexec, hw'⟩ := E.run_accepted maxRetries store hN hsend 0 hs ha hresp hb
      refine ⟨m + 1 + 0, ?_⟩
      rw [hexec]
      exact E.second_unsent maxRetries hN hsend' hw' b
  | ok u =>
      obtain ⟨m', hbetween, hanswer⟩ := exists_first (h hsend')
      obtain ⟨w', hexec, hw'⟩ := E.run_accepted maxRetries store hN hsend (m' + 1) hs ha hresp hb
      refine ⟨m + 1 + (m' + 1), ?_⟩
      rw [hexec]
      exact E.second_answered maxRetries hN hsend' hw' hbetween hanswer b

/-- Over a reliable transport that does not stall the exchange returns. -/
theorem returned_of_not_stalls (hN : N.isReliable = true)
    (h : ¬ N.Stalls sid E.expected₁ E.accept) :
    ∃ n, Returned ((E.run maxRetries sid).exec (N.world store n)).1 := by
  cases hsend : N.sendResult 0 with
  | error e =>
      have h0 : N.At 0 0 0 (N.world store 0) := rfl
      obtain ⟨w', hexec⟩ := request_unsent maxRetries E.ty₁ sid E.expected₁ hN E.fits₁ h0 hsend
      refine ⟨0, ?_⟩
      rw [run, Routine.exec_bind_error (congrArg Prod.fst hexec)]
      exact .inr ⟨e, rfl⟩
  | ok u =>
      have hfirst : ∃ j, 0 ≤ j ∧ ¬ StrayAnswer sid 0 (N.answer j) := by
        by_contra hall
        push Not at hall
        exact h (.first hN hsend fun i => hall i (Nat.zero_le i))
      obtain ⟨m, hs, ha⟩ := exists_first hfirst
      rw [Nat.zero_add] at ha
      have hs' : ∀ j < m, StrayAnswer sid 0 (N.answer j) := fun j hj => hs j (Nat.zero_le j) (by omega)
      by_cases hyes : ∃ resp b, responseIn E.expected₁ (N.answer m) = .ok resp ∧
          E.accept resp = .ok b
      · obtain ⟨resp, b, hresp, hb⟩ := hyes
        refine E.returned_of_accepted maxRetries store hN hsend hs' ha hresp hb fun hsend' => ?_
        by_contra hall
        push Not at hall
        exact h (.second hN hsend hs' ha hresp hb hsend' fun i hi => hall i hi)
      · push Not at hyes
        exact ⟨m + 1, E.run_refused maxRetries store hN hsend hs' ha fun resp b hresp => hyes resp b hresp⟩

/-- The exchange never panics, and it returns unless a reliable transport stalls. -/
theorem returns_iff : Returns (E.run maxRetries sid) N store ↔
    ¬ N.Stalls sid E.expected₁ E.accept := by
  have hsafe : ∀ n, ¬ Panicked ((E.run maxRetries sid).exec (N.world store n)).1 :=
    fun n => E.run_safe maxRetries sid _
  constructor
  · rintro ⟨-, n, hret⟩ hstalls
    exact (returned_iff.mp hret).2 (E.waits_of_stalls maxRetries store hstalls n)
  · intro h
    refine ⟨hsafe, ?_⟩
    cases hN : N.isReliable with
    | true => exact E.returned_of_not_stalls maxRetries store hN h
    | false =>
        have hlen : 2 * (maxRetries + 1) ≤
            (N.world store (2 * (maxRetries + 1))).transport.inbox.length := by
          simp [Network.world, Network.answers]
        refine ⟨2 * (maxRetries + 1), returned_iff.mpr ⟨hsafe _, ?_⟩⟩
        exact (E.run_returnsWithin maxRetries sid hN hlen).1

end Exchange

end ZkArche.Rust
