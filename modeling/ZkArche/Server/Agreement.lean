import ZkArche.Server.Interop

/-!
# Agreement by key confirmation

A server that has accepted an AUTH_1, in C or in Rust, and a client that has derived its
keys from an AUTH_2, in C or in Rust.  What each of the four holds is read off its messages
and its state (`ServerAccepts`, `ClientDerives`), and each computes a `Confirmation`.

Agreement is then a matter of confirmations only: a tag that passes on the other side means
the same ten values and the same keys, or two calls of a hash function that collide.

The C client takes the values of its AUTH_1 from its context.  They are those of the packet
it sent, as long as it has not begun another exchange (`clientRun_kept`).
-/

namespace ZkArche

/-- What a party holds: the ten values of the exchange, the session key and both MAC keys. -/
structure Held where
  parts : KcParts
  sessionKey : Bytes 32
  kcKS2c : Bytes 32
  kcKC2s : Bytes 32

/-- The ten values of an AUTH_1 and an AUTH_2 on the wire. -/
def kcParts (a1 : C.Auth1) (a2 : C.Auth2) : KcParts :=
  ⟨a1.pid, a1.clientProof.a, a1.clientProof.s, a1.nonceC, a1.ephC, a2.serverPub,
    a2.serverProof.a, a2.serverProof.s, a2.nonceS, a2.ephS⟩

/-- A server after AUTH_1: what it holds, the tag it sent, and the AUTH_3 payloads it takes. -/
structure ServerSide where
  held : Held
  tagS : Bytes 32
  takes : List UInt8 → Prop

/-- A client after AUTH_2: what it holds, the tag it received, whether it accepted, and the
tag it answers with. -/
structure ClientSide where
  held : Held
  tagS : Bytes 32
  accepted : Prop
  tagC : Bytes 32

variable {q : ℕ} {G : Type} [AddCommGroup G] [Module (ZMod q) G]

/-- What a confirmation gives. -/
def Confirmation.held (S : Suite q G) (c : Confirmation) : Held :=
  ⟨c.parts, c.sessionKey S, c.key S .s2c, c.key S .c2s⟩

/-- The server side computes the confirmation. -/
structure ServerSide.Computes (S : Suite q G) (v : ServerSide) (c : Confirmation) : Prop where
  held : v.held = c.held S
  tagS : v.tagS = c.tag S .s2c
  takes : ∀ payload, v.takes payload → payload = (c.tag S .c2s).val

/-- The client side computes the confirmation. -/
structure ClientSide.Computes (S : Suite q G) (v : ClientSide) (c : Confirmation) : Prop where
  held : v.held = c.held S
  tagS : v.accepted → v.tagS = c.tag S .s2c
  tagC : v.tagC = c.tag S .c2s

variable [DecidableEq G]

/-- The servers that have accepted an AUTH_1. -/
inductive ServerAccepts (S : Suite q G) : ServerSide → Prop where
  | c {cfg : C.ServerConfig} {sid : SessionId} {seq : UInt32} {payload : List UInt8}
      {lookup : Except C.AuthErr (Bytes 32 × Bytes 32)} {draws : C.Auth2Draws} {cap : ℕ}
      {p : C.PendingAuth} {pkt : List UInt8} {a1 : C.Auth1} {a2 : C.Auth2} :
      C.authServerHandleAuth1 S cfg sid seq payload lookup draws cap = .ok (p, pkt) →
      C.authAuth1Decode payload = .ok a1 → pkt = frame pktAuth2 sid seq a2.bytes →
      ServerAccepts S
        ⟨⟨kcParts a1 a2, p.sessionKey, p.kcKS2c, p.kcKC2s⟩, a2.tagS, fun payload3 =>
          ∃ sid' seq' cap' ack, C.authServerHandleAuth3 S p sid' seq' payload3 cap' = .ok ack⟩
  -- the session key and the MAC keys are local variables of `handle_auth_1`
  | rust {sk : ZMod q} {records : List (Bytes 32 × Rust.DeviceRecord G)}
      {replay : Rust.MemoryReplayCache} {roles : List UInt64} {sid : SessionId} {seq : UInt32}
      {payload : List UInt8} {draws : Rust.Auth2Draws} {p : Rust.PendingAuth}
      {a1 : Rust.Auth1 q G} {a2 : Rust.Auth2 q G} {key : Bytes 32} {keys : Bytes 32 × Bytes 32} :
      (Rust.handleAuth1 S (.ok sk) records replay roles sid seq payload draws).2 = .ok p →
      Rust.Auth1.decode S payload = .ok a1 →
      p.responsePacket = frame pktAuth2 sid seq (a2.encode S) →
      key = Rust.deriveSessionKey S (scalarOf draws.eph) a1.ephC a1.nonceC draws.nonce a1.pid
        a1.ephC a2.ephS →
      keys = Rust.deriveKcKeys S key (Rust.kcTranscriptHash S ⟨a1.pid, a1.clientProof.a,
        a1.clientProof.s, a1.nonceC, a1.ephC, a2.serverPub, a2.serverProof.a, a2.serverProof.s,
        a2.nonceS, a2.ephS⟩) →
      ServerAccepts S
        ⟨⟨kcParts (a1.wire S) (a2.wire S), key, keys.1, keys.2⟩, a2.tagS, fun payload3 =>
          ∃ sid' seq' ack, Rust.handleAuth3 p sid' seq' payload3 = .ok ack⟩

/-- The clients that have derived keys from an AUTH_2.  A C client has derived its keys also
when the tag does not match. -/
inductive ClientDerives (S : Suite q G) : ClientSide → Prop where
  -- a C client in any context: the values of its AUTH_1 are those of the context
  | c {ctx ctx' : C.ClientCtx} {input : List UInt8} {r : Except C.AuthErr Unit} {a2 : C.Auth2}
      {shared : Bytes 32} :
      C.auth2Checks S ctx input = .ok a2 →
      C.authScalarmult S ctx.ephSecret a2.ephS = .ok shared →
      C.authClientHandleAuth2 S ctx input = (ctx', r) →
      ClientDerives S
        ⟨⟨(ctx.confirmation S a2 shared).parts, ctx'.sessionKey, ctx'.kcKS2c, ctx'.kcKC2s⟩,
          a2.tagS, r = .ok (), ctx'.tagC S⟩
  -- a C client that sent an AUTH_1 and has not begun a new exchange since
  | sent {ctx₀ ctx ctx' : C.ClientCtx} {roles : List UInt64} {draws : C.Auth1Draws} {cap : ℕ}
      {pkt input : List UInt8} {a1 : C.Auth1} {calls : List C.ClientOp}
      {r : Except C.AuthErr Unit} {a2 : C.Auth2} {shared : Bytes 32} :
      C.authClientBuildAuth1 S ctx₀ roles draws cap = (ctx, .ok pkt) →
      pkt = frame pktAuth1 ctx.sessionId ctx.seq a1.bytes → a1.branches.length ≤ maxRoles →
      (∀ op ∈ calls, op.continues = true) →
      C.auth2Checks S (C.clientRun S ctx calls) input = .ok a2 →
      C.authScalarmult S ctx.ephSecret a2.ephS = .ok shared →
      C.authClientHandleAuth2 S (C.clientRun S ctx calls) input = (ctx', r) →
      ClientDerives S
        ⟨⟨kcParts a1 a2, ctx'.sessionKey, ctx'.kcKS2c, ctx'.kcKC2s⟩, a2.tagS, r = .ok (),
          ctx'.tagC S⟩
  | rust {x : ZMod q} {pinned : G} {role : Rust.RoleCredential q G} {roles : List UInt64}
      {draws : Rust.AuthClientDraws} {st : Rust.AuthStart q G} {payload : List UInt8}
      {a2 : Rust.Auth2 q G} {c : Rust.Confirmed} :
      Rust.authStart S x pinned role roles draws = .ok st →
      Rust.Auth2.decode S payload = .ok a2 → Rust.acceptAuth2 S st payload = .ok c →
      ClientDerives S
        ⟨⟨kcParts (st.a1.wire S) (a2.wire S), c.sessionKey, c.kS2c, c.kC2s⟩, a2.tagS, True,
          c.tagC S⟩

/-! ## Each side computes a confirmation -/

/-- A frame determines its payload. -/
theorem frame_inj {ty : UInt8} {sid : SessionId} {seq : UInt32} {p p' : List UInt8}
    (h : frame ty sid seq p = frame ty sid seq p') : p = p' := by
  have hd := C.authHeaderDecode_frame ty sid seq p
  rw [h, C.authHeaderDecode_frame] at hd
  cases hd
  rfl

theorem auth2_bytes_inj {a a' : C.Auth2} (h : a.bytes = a'.bytes) : a = a' := by
  have hd := C.Auth2.decode_bytes a
  rw [h, C.Auth2.decode_bytes] at hd
  cases hd
  rfl

theorem auth1_bytes_inj {a a' : C.Auth1} (ha : a.branches.length ≤ maxRoles)
    (ha' : a'.branches.length ≤ maxRoles) (h : a.bytes = a'.bytes) : a = a' := by
  have hd := C.Auth1.decode_bytes ha
  rw [h, C.Auth1.decode_bytes ha'] at hd
  cases hd
  rfl

/-- A server that has accepted an AUTH_1 computes a confirmation. -/
theorem ServerAccepts.computes {S : Suite q G} {v : ServerSide} (h : ServerAccepts S v) :
    ∃ y, v.Computes S y := by
  cases h with
  | c hh hd hp =>
      obtain ⟨a1, pub, rc, hd', -, -, hr⟩ := C.authServerHandleAuth1_eq_ok_iff.mp hh
      obtain ⟨-, ephS, proof, shared, -, -, -, rfl, hpkt⟩ := C.auth1Respond_eq_ok_iff.mp hr
      rw [hd] at hd'
      cases hd'
      cases auth2_bytes_inj (frame_inj (hp.symm.trans hpkt))
      refine ⟨_, rfl, rfl, ?_⟩
      rintro payload ⟨sid', seq', cap', ack, h3⟩
      exact (C.authServerHandleAuth3_eq_ok_iff.mp h3).2.1
  | rust hh hd hp hkey hkeys =>
      rename_i sk records replay roles sid seq payload draws p a1 a2 key keys
      obtain ⟨e, he⟩ | ⟨k, p', -, -, ha, he⟩ :=
        Rust.handleAuth1_cases (S := S) (.ok sk) records replay roles sid seq payload draws
      · rw [he] at hh
        cases hh
      · rw [he] at hh
        cases hh
        obtain ⟨a1, sk, deviceId, rec, hd', -, hsk, -, hr⟩ := Rust.auth1Accept_eq_ok_iff.mp ha
        rw [hd] at hd'
        cases hd'
        cases hsk
        cases hr
        refine ⟨Rust.serverConfirmation S sk a1 draws, ?_⟩
        have hw : a2.wire S = C.auth2Of S (Rust.serverConfirmation S sk a1 draws) :=
          auth2_bytes_inj (frame_inj hp.symm)
        have hparts : kcParts (a1.wire S) (a2.wire S)
            = (Rust.serverConfirmation S sk a1 draws).parts := by
          rw [hw]
          rfl
        have heph : S.encPoint a2.ephS = S.encPoint ((scalarOf draws.eph : ZMod q) • S.base) :=
          congrArg C.Auth2.ephS hw
        have hk : key = (Rust.serverConfirmation S sk a1 draws).sessionKey S := by
          rw [hkey, Rust.deriveSessionKey, heph]
          rfl
        have hks : keys = ((Rust.serverConfirmation S sk a1 draws).key S .s2c,
            (Rust.serverConfirmation S sk a1 draws).key S .c2s) := by
          have hth : Rust.kcTranscriptHash S ⟨a1.pid, a1.clientProof.a, a1.clientProof.s,
              a1.nonceC, a1.ephC, a2.serverPub, a2.serverProof.a, a2.serverProof.s, a2.nonceS,
              a2.ephS⟩ = (Rust.serverConfirmation S sk a1 draws).th S :=
            congrArg (fun p : KcParts => S.sha256 (transcript tKcV2 p.fields)) hparts
          rw [hkeys, hth, hk]
          rfl
        refine ⟨?_, congrArg C.Auth2.tagS hw, ?_⟩
        · rw [hparts, hk, hks]
          rfl
        · rintro payload ⟨sid', seq', ack, h3⟩
          exact (Rust.handleAuth3_eq_ok_iff.mp h3).1

omit [DecidableEq G] in
/-- A C client computes the confirmation of its context. -/
theorem handleAuth2_computes {S : Suite q G} {ctx ctx' : C.ClientCtx} {input : List UInt8}
    {r : Except C.AuthErr Unit} {a2 : C.Auth2} {shared : Bytes 32}
    (hc : C.auth2Checks S ctx input = .ok a2)
    (hm : C.authScalarmult S ctx.ephSecret a2.ephS = .ok shared)
    (hh : C.authClientHandleAuth2 S ctx input = (ctx', r)) :
    ClientSide.Computes S
      ⟨⟨(ctx.confirmation S a2 shared).parts, ctx'.sessionKey, ctx'.kcKS2c, ctx'.kcKC2s⟩,
        a2.tagS, r = .ok (), ctx'.tagC S⟩ (ctx.confirmation S a2 shared) := by
  obtain ⟨e, -, hno⟩ | ⟨a2', shared', hc', hm', h⟩ := C.authClientHandleAuth2_cases S ctx input
  · exact absurd hm (hno a2 shared hc)
  · rw [hc] at hc'
    cases hc'
    rw [hm] at hm'
    cases hm'
    rw [h] at hh
    cases hh
    refine ⟨rfl, ?_, rfl⟩
    intro hok
    by_contra hne
    rw [if_neg (Ne.symm hne)] at hok
    cases hok

/-- A client that has derived keys from an AUTH_2 computes a confirmation. -/
theorem ClientDerives.computes {S : Suite q G} {v : ClientSide} (h : ClientDerives S v) :
    ∃ x, v.Computes S x := by
  cases h with
  | c hc hm hh => exact ⟨_, handleAuth2_computes hc hm hh⟩
  | sent hb hpkt hlen hops hc hm hh =>
      rename_i ctx₀ ctx ctx' roles draws cap pkt input a1 calls r a2 shared
      obtain ⟨a1, hpkt', hlen', hpid, hproof, hn, he, hpin⟩ := C.authClientBuildAuth1_eq_ok S hb
      have hk := C.clientRun_kept S hpin hops
      cases auth1_bytes_inj hlen hlen' (frame_inj (hpkt.symm.trans hpkt'))
      have hsent := hk.sent
      simp only [C.ClientCtx.sent, Prod.mk.injEq] at hsent
      obtain ⟨hpub, hnonce, hsecret, heph, hpend⟩ := hsent
      rw [← hsecret] at hm
      have hparts : ∀ (a2 : C.Auth2) (z : Bytes 32), kcParts a1 a2
          = ((C.clientRun S ctx calls).confirmation S a2 z).parts := by
        intro a2 z
        simp only [kcParts, C.ClientCtx.confirmation, C.ClientCtx.pid, hpid, hproof, hn, he, hpub,
          hnonce, heph, hpend, hk.serverPub]
      rw [hparts a2 shared]
      exact ⟨_, handleAuth2_computes hc hm hh⟩
  | rust hs hd hh =>
      obtain ⟨a2, hd', -, -, ht, rfl⟩ := Rust.acceptAuth2_eq_ok_iff.mp hh
      rw [hd] at hd'
      cases hd'
      exact ⟨_, rfl, fun _ => ht, rfl⟩

/-! ## Agreement -/

omit [DecidableEq G] in
/-- Confirmations that agree are held as one. -/
theorem held_agree {S : Suite q G} {client : ClientSide} {server : ServerSide}
    {x y : Confirmation} {d : Direction} (hx : client.Computes S x) (hy : server.Computes S y)
    (h : Confirmation.Agree S x y ∨ Confirmation.Collision S x y d) :
    client.held = server.held ∨ Confirmation.Collision S x y d := by
  refine h.imp_left ?_
  intro ha
  rw [hx.held, hy.held, Confirmation.held, Confirmation.held, ha.parts, ha.sessionKey, ha.keys,
    ha.keys]

/-- Key confirmation.  A client that accepts the tag of a server, and a server that takes the
tag of a client, hold what the other holds, or two calls of a hash function collide.  A tag
that travels in the wrong direction passes only by a collision of HMAC. -/
theorem key_confirmation_agreement (S : Suite q G)
    (server server' : {v : ServerSide // ServerAccepts S v})
    (client client' : {v : ClientSide // ClientDerives S v}) :
    ∃ x x' y y' : Confirmation,
      client.val.Computes S x ∧ client'.val.Computes S x' ∧
      server.val.Computes S y ∧ server'.val.Computes S y' ∧
      (client.val.accepted → client.val.tagS = server.val.tagS →
        client.val.held = server.val.held ∨ Confirmation.Collision S x y .s2c) ∧
      (server.val.takes client.val.tagC.val →
        client.val.held = server.val.held ∨ Confirmation.Collision S x y .c2s) ∧
      (server.val.takes server'.val.tagS.val → Confirmation.HmacCollision S y .c2s y' .s2c) ∧
      (client.val.accepted → client.val.tagS = client'.val.tagC →
        Confirmation.HmacCollision S x .s2c x' .c2s) := by
  obtain ⟨x, hx⟩ := client.property.computes
  obtain ⟨x', hx'⟩ := client'.property.computes
  obtain ⟨y, hy⟩ := server.property.computes
  obtain ⟨y', hy'⟩ := server'.property.computes
  refine ⟨x, x', y, y', hx, hx', hy, hy', ?_, ?_, ?_, ?_⟩
  · intro hacc htag
    have h : x.tag S .s2c = y.tag S .s2c := by rw [← hx.tagS hacc, htag, hy.tagS]
    exact held_agree hx hy (Confirmation.agree h)
  · intro htakes
    have h : x.tag S .c2s = y.tag S .c2s := by
      rw [← hx.tagC]
      exact Bytes.val_inj.mp (hy.takes _ htakes)
    exact held_agree hx hy (Confirmation.agree h)
  · intro htakes
    apply Confirmation.cross (by decide)
    rw [← hy'.tagS]
    exact (Bytes.val_inj.mp (hy.takes _ htakes)).symm
  · intro hacc htag
    apply Confirmation.cross (by decide)
    rw [← hx.tagS hacc, htag, hx'.tagC]

/-! ## A device among two -/

/-- What both parties hold in the end. -/
def demoHeld : Held where
  parts := kcParts ((demoHonest.auth1 smallSuite).wire smallSuite)
    ((demoHonest.auth2 smallSuite).wire smallSuite)
  sessionKey := (demoHonest.confirmation smallSuite).sessionKey smallSuite
  kcKS2c := (demoHonest.confirmation smallSuite).key smallSuite .s2c
  kcKC2s := (demoHonest.confirmation smallSuite).key smallSuite .c2s

/-- What a C server keeps. -/
def demoPendingC : C.PendingAuth :=
  C.pendingOf smallSuite (byteString 15 7) (smallSuite.encPoint (demoHonest.devicePub smallSuite))
    (demoHonest.confirmation smallSuite)

/-- What a Rust server keeps. -/
def demoPendingRust : Rust.PendingAuth :=
  Rust.pendingOf smallSuite (byteString 15 7) 1 (byteString 31 1)
    (demoHonest.confirmation smallSuite)

/-- A C server that has answered the AUTH_1. -/
def demoServerC : ServerSide where
  held := demoHeld
  tagS := (demoHonest.auth2 smallSuite).tagS
  takes payload3 := ∃ sid seq cap ack,
    C.authServerHandleAuth3 smallSuite demoPendingC sid seq payload3 cap = .ok ack

/-- A Rust server that has answered it. -/
def demoServerRust : ServerSide where
  held := demoHeld
  tagS := (demoHonest.auth2 smallSuite).tagS
  takes payload3 := ∃ sid seq ack, Rust.handleAuth3 demoPendingRust sid seq payload3 = .ok ack

/-- A client that has handled the AUTH_2. -/
def demoClient (accepted : Prop) : ClientSide where
  held := demoHeld
  tagS := (demoHonest.auth2 smallSuite).tagS
  accepted := accepted
  tagC := (demoHonest.confirmation smallSuite).tag smallSuite .c2s

/-- The C client.  It has returned success. -/
def demoClientC : ClientSide := demoClient ((.ok () : Except C.AuthErr Unit) = .ok ())

/-- The Rust client. -/
def demoClientRust : ClientSide := demoClient True

theorem demoServerC_accepts : ServerAccepts smallSuite demoServerC := by
  have haccept : C.authServerHandleAuth1 smallSuite demoHonestConfig (byteString 15 7) 1
      ((demoHonest.auth1 smallSuite).encode smallSuite)
      (.ok (smallSuite.encPoint (demoHonest.devicePub smallSuite),
        smallSuite.encPoint (demoHonest.commitment smallSuite))) demoHonest.server maxDatagram
      = .ok (demoPendingC, frame pktAuth2 (byteString 15 7) 1
          ((demoHonest.auth2 smallSuite).wire smallSuite).bytes) := by
    decide +kernel
  exact .c haccept (by decide +kernel) rfl

theorem demoServerRust_accepts : ServerAccepts smallSuite demoServerRust := by
  have : Fact (Nat.Prime 11) := ⟨by decide⟩
  have hproper := demoHonest_nonDegenerate.auth1_proper (by decide) (by decide)
  have hdecode : Rust.Auth1.decode smallSuite ((demoHonest.auth1 smallSuite).encode smallSuite)
      = .ok (demoHonest.auth1 smallSuite) := Rust.Auth1.decode_eq_ok_iff.mpr ⟨rfl, hproper⟩
  obtain ⟨id, haccept⟩ := demoRecords_serves.accepts demoHonest_nonDegenerate (by decide)
    (by decide) (byteString 15 7) 1
  have hid : ((Rust.auth1Accept smallSuite (.ok demoHonest.sk) demoRecords
      (Rust.MemoryReplayCache.new 4) demoHonest.allowedRoles (byteString 15 7) 1
      ((demoHonest.auth1 smallSuite).encode smallSuite) demoHonest.serverDraws).toOption.map
        fun r => r.2.deviceId) = some (byteString 31 1) := by
    decide +kernel
  rw [haccept] at hid
  obtain rfl : id = byteString 31 1 := Option.some.inj hid
  have hhandled : (Rust.handleAuth1 smallSuite (.ok demoHonest.sk) demoRecords
      (Rust.MemoryReplayCache.new 4) demoHonest.allowedRoles (byteString 15 7) 1
      ((demoHonest.auth1 smallSuite).encode smallSuite) demoHonest.serverDraws).2
      = .ok demoPendingRust := by
    simp only [Rust.handleAuth1, haccept]
    rfl
  have hpkt : demoPendingRust.responsePacket = frame pktAuth2 (byteString 15 7) 1
      ((demoHonest.auth2 smallSuite).encode smallSuite) := rfl
  have hkey : demoHeld.sessionKey = Rust.deriveSessionKey smallSuite
      (scalarOf demoHonest.serverDraws.eph) (demoHonest.auth1 smallSuite).ephC
      (demoHonest.auth1 smallSuite).nonceC demoHonest.serverDraws.nonce
      (demoHonest.auth1 smallSuite).pid (demoHonest.auth1 smallSuite).ephC
      (demoHonest.auth2 smallSuite).ephS := by
    decide +kernel
  have hkeys : (demoHeld.kcKS2c, demoHeld.kcKC2s) = Rust.deriveKcKeys smallSuite
      demoHeld.sessionKey (Rust.kcTranscriptHash smallSuite
        (let a1 := demoHonest.auth1 smallSuite
         let a2 := demoHonest.auth2 smallSuite
         ⟨a1.pid, a1.clientProof.a, a1.clientProof.s, a1.nonceC, a1.ephC, a2.serverPub,
          a2.serverProof.a, a2.serverProof.s, a2.nonceS, a2.ephS⟩)) := by
    decide +kernel
  exact .rust hhandled hdecode hpkt hkey hkeys

theorem demoClientC_derives : ClientDerives smallSuite demoClientC := by
  have : Fact (Nat.Prime 11) := ⟨by decide⟩
  have hbuild := demoContext_holds.buildAuth1 demoHonest_nonDegenerate (by decide) (by decide)
  have hframe : frame pktAuth1 (byteString 15 7) 1 ((demoHonest.auth1 smallSuite).encode smallSuite)
      = frame pktAuth1 (byteString 15 7) 1 ((demoHonest.auth1 smallSuite).wire smallSuite).bytes := by
    rw [Rust.Auth1.encode_eq]
  have hcount := Honest.auth1_count (S := smallSuite) (h := demoHonest) (by decide) (by decide)
  have hchecks : C.auth2Checks smallSuite
      { C.started smallSuite demoHonest demoContext with seq := 1 }
      (frame pktAuth2 (byteString 15 7) 1 ((demoHonest.auth2 smallSuite).encode smallSuite))
      = .ok ((demoHonest.auth2 smallSuite).wire smallSuite) := by
    decide +kernel
  have hshared : C.authScalarmult smallSuite
      (C.started smallSuite demoHonest demoContext).ephSecret
      ((demoHonest.auth2 smallSuite).wire smallSuite).ephS
      = .ok (demoHonest.confirmation smallSuite).shared := by
    decide +kernel
  have hhandle := demoContext_holds.handleAuth2 demoHonest_nonDegenerate 1 1
  exact .sent hbuild hframe hcount (List.forall_mem_nil _) hchecks hshared hhandle

theorem demoClientRust_derives : ClientDerives smallSuite demoClientRust := by
  have : Fact (Nat.Prime 11) := ⟨by decide⟩
  have hstart := Rust.authStart_eq (S := smallSuite) (h := demoHonest) (by decide)
    (byteString 31 7)
  have hdecode : Rust.Auth2.decode smallSuite ((demoHonest.auth2 smallSuite).encode smallSuite)
      = .ok (demoHonest.auth2 smallSuite) :=
    Rust.Auth2.decode_eq_ok_iff.mpr ⟨rfl, demoHonest_nonDegenerate.auth2_proper⟩
  exact .rust hstart hdecode (Rust.acceptAuth2_honest demoHonest_nonDegenerate)

/-- The Rust client and the C server of the device accept each other's tags, and so do the C
client and the Rust server. -/
theorem key_confirmation_agreement_two_roles :
    (∃ x y, demoClientRust.Computes smallSuite x ∧ demoServerC.Computes smallSuite y ∧
      (demoClientRust.held = demoServerC.held ∨ Confirmation.Collision smallSuite x y .s2c) ∧
      (demoClientRust.held = demoServerC.held ∨ Confirmation.Collision smallSuite x y .c2s)) ∧
    ∃ x y, demoClientC.Computes smallSuite x ∧ demoServerRust.Computes smallSuite y ∧
      (demoClientC.held = demoServerRust.held ∨ Confirmation.Collision smallSuite x y .s2c) ∧
      (demoClientC.held = demoServerRust.held ∨ Confirmation.Collision smallSuite x y .c2s) := by
  let serverC : {v : ServerSide // ServerAccepts smallSuite v} := ⟨_, demoServerC_accepts⟩
  let serverRust : {v : ServerSide // ServerAccepts smallSuite v} := ⟨_, demoServerRust_accepts⟩
  let clientC : {v : ClientSide // ClientDerives smallSuite v} := ⟨_, demoClientC_derives⟩
  let clientRust : {v : ClientSide // ClientDerives smallSuite v} := ⟨_, demoClientRust_derives⟩
  have htakesC : demoServerC.takes demoClientRust.tagC.val :=
    ⟨byteString 15 7, 2, maxDatagram, _,
      C.authServerHandleAuth3_eq_ok_iff.mpr ⟨rfl, rfl, by decide, rfl⟩⟩
  have htakesRust : demoServerRust.takes demoClientC.tagC.val :=
    ⟨byteString 15 7, 2, _, Rust.handleAuth3_eq_ok_iff.mpr ⟨rfl, rfl⟩⟩
  obtain ⟨x, -, y, -, hx, -, hy, -, hs2c, hc2s, -⟩ :=
    key_confirmation_agreement smallSuite serverC serverRust clientRust clientC
  obtain ⟨x', -, y', -, hx', -, hy', -, hs2c', hc2s', -⟩ :=
    key_confirmation_agreement smallSuite serverRust serverC clientC clientRust
  exact ⟨⟨x, y, hx, hy, hs2c trivial rfl, hc2s htakesC⟩,
    ⟨x', y', hx', hy', hs2c' rfl rfl, hc2s' htakesRust⟩⟩

end ZkArche
