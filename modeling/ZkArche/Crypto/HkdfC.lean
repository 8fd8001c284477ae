import ZkArche.Lib.BlockStream
import ZkArche.Lib.StreamHash
import ZkArche.Crypto.Suite

/-!
# HKDF in the C library

`auth_hkdf_sha256` of `crypto.c` builds HKDF from the streaming interface of HMAC-SHA256.  HMAC is an
arbitrary function here, and what its streaming interface promises is `StreamHash`.

RFC 5869 says what it should compute (`rfcOkm`).  The expand loop carries the last block, the number
of bytes written and an 8-bit counter from pass to pass.  Before pass `i` the buffer holds the front
of the stream `T(1) || T(2) || ...` that `i` blocks reach, and the counter is `i + 1` (`At`).  The
largest length that is admitted takes 255 passes, so the counter wraps only after the last of them
and no two passes see the same value.
-/

namespace ZkArche

/-! ## RFC 5869 -/

section

variable (hmac : List UInt8 → List UInt8 → Bytes 32)

/-- The pseudorandom key.  No salt stands for 32 zero bytes. -/
def rfcPrk (salt ikm : List UInt8) : Bytes 32 :=
  hmac (if salt = [] then List.replicate 32 0 else salt) ikm

/-- `T(i)`. -/
def rfcBlock (prk : Bytes 32) (info : List UInt8) : ℕ → List UInt8
  | 0 => []
  | i + 1 => (hmac prk.val (rfcBlock prk info i ++ info ++ [UInt8.ofNat (i + 1)])).val

/-- The first `n` blocks `T(1) || ... || T(n)`. -/
def rfcStream (prk : Bytes 32) (info : List UInt8) (n : ℕ) : List UInt8 :=
  BlockStream.blocks (fun i => rfcBlock hmac prk info (i + 1)) n

/-- The output keying material of a length. -/
def rfcOkm (salt ikm info : List UInt8) (len : ℕ) : List UInt8 :=
  (rfcStream hmac (rfcPrk hmac salt ikm) info ((len + 31) / 32)).take len

variable {hmac} {prk : Bytes 32} {info : List UInt8}

theorem length_rfcBlock_succ (i : ℕ) : (rfcBlock hmac prk info (i + 1)).length = 32 := by
  rw [rfcBlock]
  exact Bytes.len _

/-- Any number of blocks that reaches the length has the same front. -/
theorem rfcOkm_eq {salt ikm : List UInt8} {len n : ℕ} (h : len ≤ 32 * n) :
    rfcOkm hmac salt ikm info len =
      (rfcStream hmac (rfcPrk hmac salt ikm) info n).take len :=
  BlockStream.take_blocks_eq (fun i => length_rfcBlock_succ i) (by omega) h

end

namespace C

/-! ## The C function -/

/-- A pointer argument with its length. -/
inductive Pointer where
  | null (len : ℕ)
  | bytes (b : List UInt8)
deriving DecidableEq

/-- The length argument. -/
def Pointer.len : Pointer → ℕ
  | .null n => n
  | .bytes b => b.length

/-- What the pointer gives to read. -/
def Pointer.read : Pointer → List UInt8
  | .null _ => []
  | .bytes b => b

/-- The pointer is `NULL`. -/
def Pointer.isNull : Pointer → Bool
  | .null _ => true
  | .bytes _ => false

/-- The variables of the expand loop.  `t` has the length `t_len`. -/
structure Expand where
  okm : List UInt8
  t : List UInt8
  written : ℕ
  counter : UInt8

section

variable {hmac : List UInt8 → List UInt8 → Bytes 32} (H : ∀ key, StreamHash (hmac key))

/-- An update that is made only when there is something to add. -/
def updateNonempty {key : List UInt8} (st : (H key).State) (piece : List UInt8) : (H key).State :=
  if piece.length ≠ 0 then (H key).update st piece else st

/-- `PRK = HMAC-SHA256(salt, ikm)`. -/
def hkdfExtract (salt ikm : List UInt8) : Bytes 32 :=
  (H salt).final (updateNonempty H (H salt).init ikm)

/-- The next block: the HMAC of the last one, the info and the counter. -/
def expandBlock (prk : Bytes 32) (info t : List UInt8) (counter : UInt8) : Bytes 32 :=
  let st := (H prk.val).init
  let st := updateNonempty H st t
  let st := updateNonempty H st info
  let st := (H prk.val).update st [counter]
  (H prk.val).final st

/-- One pass of the expand loop. -/
def Expand.pass (prk : Bytes 32) (info : List UInt8) (okmLen : ℕ) (e : Expand) : Expand :=
  let t := expandBlock H prk info e.t e.counter
  let toCopy := if okmLen - e.written < 32 then okmLen - e.written else 32
  { okm := BlockStream.overwrite e.okm e.written (t.val.take toCopy)
    t := t.val
    written := e.written + toCopy
    counter := e.counter + 1 }

theorem Expand.lt_written_pass (prk : Bytes 32) (info : List UInt8) {okmLen : ℕ} {e : Expand}
    (h : e.written < okmLen) : e.written < (e.pass H prk info okmLen).written := by
  simp only [Expand.pass]
  split <;> omega

/-- `while (written < okm_len)`.  Every pass writes something, so the loop ends. -/
def Expand.loop (prk : Bytes 32) (info : List UInt8) (okmLen : ℕ) (e : Expand) : Expand :=
  if e.written < okmLen then Expand.loop prk info okmLen (e.pass H prk info okmLen) else e
termination_by okmLen - e.written
decreasing_by
  have := Expand.lt_written_pass H prk info ‹e.written < okmLen›
  omega

/-- The variables at the beginning of every pass, in order. -/
def Expand.passes (prk : Bytes 32) (info : List UInt8) (okmLen : ℕ) (e : Expand) : List Expand :=
  if e.written < okmLen then e :: Expand.passes prk info okmLen (e.pass H prk info okmLen) else []
termination_by okmLen - e.written
decreasing_by
  have := Expand.lt_written_pass H prk info ‹e.written < okmLen›
  omega

/-- The variables before the first pass. -/
def Expand.start (okm : List UInt8) : Expand := ⟨okm, [], 0, 1⟩

/-- The salt that is used. -/
def effectiveSalt (salt : Pointer) : List UInt8 :=
  if salt.isNull = true ∨ salt.len = 0 then List.replicate 32 0 else salt.read

/-- `auth_hkdf_sha256`: what `okm` points to afterwards, and the result. -/
def authHkdfSha256 (okm salt ikm info : Pointer) : Pointer × Except AuthErr Unit :=
  if okm.isNull = true ∨ okm.len = 0 then (okm, .error .invalidArgument)
  else if ikm.isNull = true ∧ 0 < ikm.len then (okm, .error .invalidArgument)
  else if info.isNull = true ∧ 0 < info.len then (okm, .error .invalidArgument)
  else if okm.len > 255 * 32 then (okm, .error .invalidArgument)
  else
    let prk := hkdfExtract H (effectiveSalt salt) ikm.read
    let e := (Expand.start okm.read).loop H prk info.read okm.len
    (.bytes e.okm, .ok ())

end

/-! ## The loop -/

section

variable {hmac : List UInt8 → List UInt8 → Bytes 32} {H : ∀ key, StreamHash (hmac key)}
  {prk : Bytes 32} {info : List UInt8}

/-- A skipped update adds nothing. -/
theorem updateNonempty_foldl (key : List UInt8) (pieces : List (List UInt8)) (piece : List UInt8) :
    ∃ pieces' : List (List UInt8), updateNonempty H (pieces.foldl (H key).update (H key).init) piece =
        pieces'.foldl (H key).update (H key).init ∧
      pieces'.flatten = pieces.flatten ++ piece := by
  unfold updateNonempty
  split
  next => exact ⟨pieces ++ [piece], by simp, by simp⟩
  next h =>
    have hnil : piece = [] := List.length_eq_zero_iff.mp (not_not.mp h)
    exact ⟨pieces, rfl, by simp [hnil]⟩

theorem hkdfExtract_eq (salt ikm : List UInt8) : hkdfExtract H salt ikm = hmac salt ikm := by
  obtain ⟨pieces, hst, hflat⟩ := updateNonempty_foldl (H := H) salt [] ikm
  rw [List.foldl_nil] at hst
  rw [hkdfExtract, hst, (H salt).final_updates, hflat]
  rfl

theorem expandBlock_eq (t : List UInt8) (counter : UInt8) :
    expandBlock H prk info t counter = hmac prk.val (t ++ info ++ [counter]) := by
  obtain ⟨pieces, hst, hflat⟩ := updateNonempty_foldl (H := H) prk.val [] t
  obtain ⟨pieces', hst', hflat'⟩ := updateNonempty_foldl (H := H) prk.val pieces info
  rw [List.foldl_nil] at hst
  have hlast : (H prk.val).update (pieces'.foldl (H prk.val).update (H prk.val).init) [counter] =
      (pieces' ++ [[counter]]).foldl (H prk.val).update (H prk.val).init := by simp
  simp only [expandBlock]
  rw [hst, hst', hlast, (H prk.val).final_updates]
  congr 1
  simp [hflat', hflat]

/-- The variables before pass `i`: the buffer holds what `i` blocks reach of it. -/
structure Expand.At (hmac : List UInt8 → List UInt8 → Bytes 32) (prk : Bytes 32)
    (info okm : List UInt8) (i : ℕ) (e : Expand) : Prop where
  filled : e.okm = (rfcStream hmac prk info i).take e.written ++ okm.drop e.written
  t : e.t = rfcBlock hmac prk info i
  written : e.written = min (32 * i) okm.length
  counter : e.counter = UInt8.ofNat (i + 1)

variable {okm : List UInt8} {e : Expand}

theorem Expand.at_start (okm : List UInt8) : (Expand.start okm).At hmac prk info okm 0 :=
  ⟨rfl, rfl, by simp [start], rfl⟩

/-- A pass writes the next block, or the front of it that is asked for. -/
theorem Expand.At.pass {i : ℕ} (h : e.At hmac prk info okm i) (hlt : 32 * i < okm.length) :
    (e.pass H prk info okm.length).At hmac prk info okm (i + 1) := by
  have hw : e.written = 32 * i := by
    rw [h.written]
    omega
  have hblock : (expandBlock H prk info e.t e.counter).val = rfcBlock hmac prk info (i + 1) := by
    rw [expandBlock_eq, h.t, h.counter, rfcBlock]
  refine ⟨?_, hblock, ?_, ?_⟩
  · simp only [Expand.pass, hblock]
    generalize hk : (if okm.length - e.written < 32 then okm.length - e.written else 32) = k
    have hk32 : k ≤ 32 := by
      subst hk
      split <;> omega
    rw [h.filled, hw]
    exact BlockStream.overwrite_take_blocks (fun i => length_rfcBlock_succ i) okm i hk32
  · simp only [Expand.pass]
    split <;> omega
  · simp only [Expand.pass, h.counter]
    exact (UInt8.ofNat_add (i + 1) 1).symm

/-- The whole loop, from pass `i` on.  The induction is on the passes that are left. -/
theorem Expand.At.loop {i k : ℕ} (h : e.At hmac prk info okm i)
    (hk : i + k = (okm.length + 31) / 32) :
    (e.loop H prk info okm.length).At hmac prk info okm ((okm.length + 31) / 32) ∧
      (e.passes H prk info okm.length).map Expand.counter =
        (List.range' (i + 1) k).map UInt8.ofNat := by
  induction k generalizing i e with
  | zero =>
      have hdone : ¬ e.written < okm.length := by
        rw [h.written]
        omega
      rw [Expand.loop, Expand.passes, if_neg hdone, if_neg hdone, ← hk]
      exact ⟨h, rfl⟩
  | succ k ih =>
      have hlt : 32 * i < okm.length := by omega
      have hmore : e.written < okm.length := by
        rw [h.written]
        omega
      obtain ⟨hend, hcounters⟩ := ih (h.pass (H := H) hlt) (by omega)
      rw [Expand.loop, Expand.passes, if_pos hmore, if_pos hmore]
      refine ⟨hend, ?_⟩
      rw [List.map_cons, hcounters, h.counter, List.range'_succ, List.map_cons]

/-- Up to 255 passes see different values of the counter. -/
theorem nodup_counters {n : ℕ} (h : n ≤ 255) : ((List.range' 1 n).map UInt8.ofNat).Nodup := by
  apply List.Nodup.map_on _ List.nodup_range'
  intro a ha b hb hab
  rw [List.mem_range'_1] at ha hb
  have := congrArg UInt8.toNat hab
  simp only [UInt8.toNat_ofNat'] at this
  omega

/-- The salt of RFC 5869. -/
theorem hkdfExtract_effectiveSalt (salt : Pointer) (ikm : List UInt8) :
    hkdfExtract H (effectiveSalt salt) ikm = rfcPrk hmac salt.read ikm := by
  rw [hkdfExtract_eq, rfcPrk, effectiveSalt]
  congr 1
  cases salt with
  | null len => simp [Pointer.isNull, Pointer.read]
  | bytes b =>
      by_cases hb : b = []
      · simp [Pointer.isNull, Pointer.len, Pointer.read, hb]
      · simp [Pointer.isNull, Pointer.len, Pointer.read, hb]

/-! ## The function -/

/-- Something stands behind the pointer, or nothing is read from it. -/
def Pointer.Readable (p : Pointer) : Prop := p.isNull = true → p.len = 0

/-- The loop ends with the buffer full of the stream. -/
theorem Expand.okm_loop_start (okm : List UInt8) :
    ((Expand.start okm).loop H prk info okm.length).okm =
      (rfcStream hmac prk info ((okm.length + 31) / 32)).take okm.length := by
  obtain ⟨hend, -⟩ := (Expand.at_start okm).loop (H := H) (Nat.zero_add _)
  have hw : ((Expand.start okm).loop H prk info okm.length).written = okm.length := by
    rw [hend.written]
    omega
  rw [hend.filled, hw, List.drop_length, List.append_nil]

/-- A call that is not refused fills the buffer as RFC 5869 says. -/
theorem authHkdfSha256_eq_ok {okm salt ikm info : Pointer} (hokm : okm.isNull = false)
    (hpos : 1 ≤ okm.len) (hmax : okm.len ≤ 8160) (hikm : ikm.Readable) (hinfo : info.Readable) :
    authHkdfSha256 H okm salt ikm info =
      (.bytes (rfcOkm hmac salt.read ikm.read info.read okm.len), .ok ()) := by
  cases okm with
  | null len => cases hokm
  | bytes buf =>
      have h1 : ¬ ((Pointer.bytes buf).isNull = true ∨ (Pointer.bytes buf).len = 0) := by
        rintro (h | h)
        · cases h
        · omega
      have h2 : ¬ (ikm.isNull = true ∧ 0 < ikm.len) := by
        rintro ⟨hn, hp⟩
        rw [hikm hn] at hp
        exact Nat.lt_irrefl 0 hp
      have h3 : ¬ (info.isNull = true ∧ 0 < info.len) := by
        rintro ⟨hn, hp⟩
        rw [hinfo hn] at hp
        exact Nat.lt_irrefl 0 hp
      have h4 : ¬ (Pointer.bytes buf).len > 255 * 32 := Nat.not_lt.mpr hmax
      rw [authHkdfSha256, if_neg h1, if_neg h2, if_neg h3, if_neg h4]
      simp only [hkdfExtract_effectiveSalt, Pointer.read, Pointer.len, Expand.okm_loop_start,
        rfcOkm]

/-- For every length from 1 to 8160 the output is the front of `T(1) || T(2) || ...`, whichever
number of blocks reaches it.  The loop makes one pass per block, and its counter runs through
`1, 2, ...` without seeing a value twice.  Any other length is refused and leaves the buffer as it
was. -/
theorem authHkdfSha256_eq_rfc5869 (H : ∀ key, StreamHash (hmac key))
    (okm salt ikm info : Pointer) :
    (okm.isNull = false ∧ 1 ≤ okm.len ∧ okm.len ≤ 8160 ∧ ikm.Readable ∧ info.Readable →
      ∃ out, authHkdfSha256 H okm salt ikm info = (.bytes out, .ok ()) ∧
        out.length = okm.len ∧
        (∀ n, okm.len ≤ 32 * n →
          out = (rfcStream hmac (rfcPrk hmac salt.read ikm.read) info.read n).take okm.len) ∧
        (((Expand.start okm.read).passes H (rfcPrk hmac salt.read ikm.read) info.read
            okm.len).map Expand.counter =
          (List.range' 1 ((okm.len + 31) / 32)).map UInt8.ofNat) ∧
        (((Expand.start okm.read).passes H (rfcPrk hmac salt.read ikm.read) info.read
            okm.len).map Expand.counter).Nodup) ∧
    (okm.len = 0 ∨ 8160 < okm.len →
      authHkdfSha256 H okm salt ikm info = (okm, .error .invalidArgument)) := by
  constructor
  · rintro ⟨hokm, hpos, hmax, hikm, hinfo⟩
    have hcounters : ((Expand.start okm.read).passes H (rfcPrk hmac salt.read ikm.read) info.read
        okm.len).map Expand.counter = (List.range' 1 ((okm.len + 31) / 32)).map UInt8.ofNat := by
      cases okm with
      | null len => cases hokm
      | bytes buf =>
          exact ((Expand.at_start buf).loop (Nat.zero_add _)).2
    refine ⟨_, authHkdfSha256_eq_ok hokm hpos hmax hikm hinfo, ?_, ?_, hcounters, ?_⟩
    · rw [rfcOkm, List.length_take, rfcStream,
        BlockStream.length_blocks fun i => length_rfcBlock_succ i]
      omega
    · intro n hn
      exact rfcOkm_eq hn
    · rw [hcounters]
      exact nodup_counters (by omega)
  · intro hlen
    by_cases h1 : okm.isNull = true ∨ okm.len = 0
    · rw [authHkdfSha256, if_pos h1]
    · have h4 : okm.len > 255 * 32 := by
        rcases hlen with h | h
        · exact absurd (.inr h) h1
        · exact h
      rw [authHkdfSha256, if_neg h1]
      simp only [if_pos h4, ite_self]

end

end C

end ZkArche
