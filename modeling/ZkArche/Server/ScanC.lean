import ZkArche.Proto.ServerSpecC
import ZkArche.Server.DispatchC

/-!
# The candidate loop of the C server

`try_handle_auth1` offers an AUTH_1 to one registry entry after the other.  A failed proof
passes the AUTH_1 on to the next entry, and every other answer ends the loop.  When nobody
interferes, the loop is a search through the answers of the entries (`scanCandidates_eq`).
-/

namespace ZkArche.C

/-- The errors that pass an AUTH_1 on to the next candidate. -/
def AuthErr.passesOn (e : AuthErr) : Bool := decide (e = .proofVerify ∨ e = .roleNotPermitted)

/-- The first answer that ends the candidate loop.  `last` is the error of the previous
candidate. -/
def search {α : Type} : List (Except AuthErr α) → AuthErr → Except AuthErr α
  | [], last => .error last
  | .ok r :: _, _ => .ok r
  | .error e :: rest, _ => if e.passesOn then search rest e else .error e

variable {q : ℕ} {G : Type} [AddCommGroup G] [Module (ZMod q) G]

/-- The answer of a registry entry to an AUTH_1. -/
def verdict (S : Suite q G) (cap : ℕ) (cfg : ServerConfig) (st : ServerState) (hdr : Header)
    (payload : List UInt8) (draws : ℕ → Auth2Draws) (j : ℕ) :
    Except AuthErr (PendingAuth × List UInt8) :=
  (authServerHandleAuth1Guarded S cap st.replayCache cfg hdr.sessionId hdr.seq payload
    (.ok ((st.registry.getD j default).devicePub, (st.registry.getD j default).roleCommitment))
    (draws j) maxDatagram).2

/-- The answers of all entries. -/
def verdicts (S : Suite q G) (cap : ℕ) (cfg : ServerConfig) (st : ServerState) (hdr : Header)
    (payload : List UInt8) (draws : ℕ → Auth2Draws) :
    List (Except AuthErr (PendingAuth × List UInt8)) :=
  (List.range st.registry.length).map (verdict S cap cfg st hdr payload draws)

/-- The replay cache after an AUTH_1 was accepted. -/
def remember (S : Suite q G) (cap : ℕ) (cache : ReplayCache) (payload : List UInt8) :
    ReplayCache :=
  match payloadKey S payload with
  | some key => (authReplayCacheInsert cap cache key).1
  | none => cache

/-- What the outcome of the search makes of the state. -/
def settle (S : Suite q G) (cap : ℕ) (st : ServerState) (slot : ℕ) (payload : List UInt8) :
    Except AuthErr (PendingAuth × List UInt8) → ServerState × Except AuthErr (List UInt8)
  | .ok (p, pkt) =>
      ({ st with
        sessions := st.sessions.set slot (.auth p)
        replayCache := remember S cap st.replayCache payload }, .ok pkt)
  | .error e => ({ st with sessions := authSessionTableRelease st.sessions slot }, .error e)

variable {S : Suite q G} {cap : ℕ} {cfg : ServerConfig}

/-! ## Slots -/

/-- A reservation that is given back changes nothing. -/
theorem release_reserved {t : SessionTable} {i : ℕ} (h : t[i]? = some .free) :
    authSessionTableRelease (t.set i .reserved) i = t := by
  obtain ⟨hlt, hf⟩ := List.getElem?_eq_some_iff.mp h
  rw [authSessionTableRelease, List.set_set, ← hf, List.set_getElem_self]

/-- A reserved slot is activated. -/
theorem activateOrRelease_reserved {st : ServerState} {i : ℕ} (slot : Slot)
    (h : st.sessions[i]? = some .reserved) :
    activateOrRelease st i slot = ({ st with sessions := st.sessions.set i slot }, .ok ()) := by
  simp only [activateOrRelease, activate, h, if_true]

theorem getElem?_set_reserved {t : SessionTable} {i : ℕ} (h : t[i]? = some .free) :
    (t.set i .reserved)[i]? = some .reserved := by
  obtain ⟨hlt, -⟩ := List.getElem?_eq_some_iff.mp h
  rw [getElem?_set_slot, if_pos ⟨rfl, hlt⟩]

/-- A call that reserved the first free slot goes on with that slot. -/
theorem reserve_some {st : ServerState} {i : ℕ} (h : st.sessions.findIdx? (· = .free) = some i) :
    execReq S cap cfg st .reserve =
      ({ st with sessions := st.sessions.set i .reserved }, some i) := by
  simp only [execReq, authSessionTableReserve, h]
  rfl

theorem reserve_none {st : ServerState} (h : st.sessions.findIdx? (· = .free) = none) :
    execReq S cap cfg st .reserve = (st, none) := by
  simp only [execReq, authSessionTableReserve, h]
  rfl

theorem free_of_findIdx? {t : SessionTable} {i : ℕ} (h : t.findIdx? (· = .free) = some i) :
    t[i]? = some .free := by
  obtain ⟨hlt, hf, -⟩ := List.findIdx?_eq_some_iff_getElem.mp h
  rw [List.getElem?_eq_getElem hlt]
  simpa using hf

/-! ## The loop -/

/-- The candidate loop after the guard has answered. -/
def afterGuard (S : Suite q G) (cap : ℕ) (cfg : ServerConfig) (slot : ℕ) (hdr : Header)
    (payload : List UInt8) (draws : ℕ → Auth2Draws) (n i : ℕ) :
    Except AuthErr (PendingAuth × List UInt8) →
      Prog (serverSections S cap cfg) (Except AuthErr (List UInt8))
  | .ok (pending, pkt) => .req (.activateAuth slot pending) fun
      | .ok () => .ret (.ok pkt)
      | .error e => .ret (.error e)
  | .error e =>
      if e ≠ .proofVerify ∧ e ≠ .roleNotPermitted then
        .req (.release slot) fun _ => .ret (.error e)
      else scanCandidates S cap cfg slot hdr payload draws n (i + 1) e

theorem scanCandidates_succ (slot : ℕ) (hdr : Header) (payload : List UInt8)
    (draws : ℕ → Auth2Draws) (n i : ℕ) (last : AuthErr) :
    scanCandidates S cap cfg slot hdr payload draws (n + 1) i last =
      .req (.registryEntry i) fun entry : RegistryEntry =>
        .req (.guardedAuth1 hdr.sessionId hdr.seq payload
          (entry.devicePub, entry.roleCommitment) (draws i))
          (afterGuard S cap cfg slot hdr payload draws n i) := by
  rw [scanCandidates]
  show Prog.req _ _ = _
  congr 1
  funext entry
  show Prog.req _ _ = _
  congr 1
  funext res
  cases res with
  | ok r =>
      show Prog.req _ _ = Prog.req _ _
      congr 1
      funext a
      cases a <;> rfl
  | error e => rfl

/-- One turn of the candidate loop. -/
theorem scanCandidates_succ_run (slot : ℕ) {hdr : Header} {payload : List UInt8}
    {draws : ℕ → Auth2Draws} (n : ℕ) {i : ℕ} (last : AuthErr) {st : ServerState}
    {cache : ReplayCache} {res : Except AuthErr (PendingAuth × List UInt8)}
    (hg : authServerHandleAuth1Guarded S cap st.replayCache cfg hdr.sessionId hdr.seq payload
      (.ok ((st.registry.getD i default).devicePub, (st.registry.getD i default).roleCommitment))
      (draws i) maxDatagram = (cache, res)) :
    (scanCandidates S cap cfg slot hdr payload draws (n + 1) i last).run st =
      (afterGuard S cap cfg slot hdr payload draws n i res).run
        { st with replayCache := cache } := by
  rw [scanCandidates_succ]
  simp only [Prog.run, execReq]
  rw [hg]

/-- The guard answers with the verdict, and remembers what it accepts. -/
theorem guarded_eq (st : ServerState) (hdr : Header) (payload : List UInt8)
    (draws : ℕ → Auth2Draws) (j : ℕ) :
    authServerHandleAuth1Guarded S cap st.replayCache cfg hdr.sessionId hdr.seq payload
      (.ok ((st.registry.getD j default).devicePub, (st.registry.getD j default).roleCommitment))
      (draws j) maxDatagram =
    (match verdict S cap cfg st hdr payload draws j with
      | .ok _ => remember S cap st.replayCache payload
      | .error _ => st.replayCache, verdict S cap cfg st hdr payload draws j) := by
  unfold verdict remember
  obtain ⟨e, hg⟩ | ⟨key, r, hk, -, -, hg⟩ := authServerHandleAuth1Guarded_cases (S := S) cap
    st.replayCache cfg hdr.sessionId hdr.seq payload
    (.ok ((st.registry.getD j default).devicePub, (st.registry.getD j default).roleCommitment))
    (draws j) maxDatagram
  · rw [hg]
  · rw [hg, hk]

/-- The candidate loop is a search. -/
theorem scanCandidates_eq (slot : ℕ) (hdr : Header) (payload : List UInt8)
    (draws : ℕ → Auth2Draws) (n i : ℕ) (last : AuthErr) (st : ServerState)
    (hs : st.sessions[slot]? = some .reserved) :
    (scanCandidates S cap cfg slot hdr payload draws n i last).run st =
      settle S cap st slot payload
        (search ((List.range' i n).map (verdict S cap cfg st hdr payload draws)) last) := by
  induction n generalizing i last with
  | zero => rfl
  | succ n ih =>
      rw [List.range'_succ, List.map_cons,
        scanCandidates_succ_run slot n last (guarded_eq st hdr payload draws i)]
      cases hv : verdict S cap cfg st hdr payload draws i with
      | error e =>
          simp only [afterGuard, search, AuthErr.passesOn, decide_eq_true_eq]
          by_cases hp : e = .proofVerify ∨ e = .roleNotPermitted
          · rw [if_neg (by tauto), if_pos hp]
            exact ih (i + 1) e
          · rw [if_pos (by tauto), if_neg hp]
            rfl
      | ok r =>
          obtain ⟨p, pkt⟩ := r
          have hact := @activateOrRelease_reserved
            { st with replayCache := remember S cap st.replayCache payload } slot (.auth p) hs
          simp only [afterGuard, Prog.run, execReq, hact, search, settle]

end ZkArche.C
