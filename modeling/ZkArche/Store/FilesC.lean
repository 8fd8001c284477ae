import ZkArche.Crypto.Suite
import ZkArche.Lib.Chunks
import ZkArche.Store.RegistryC
import ZkArche.Wire.HelloCodec

/-!
# The files of the C stores

Credentials, the registry and the server key are stored in one file each (`store_fs.c`).  A file
starts with a magic and a version.  Credentials take 154 bytes and a server key 41.  A registry is
a count and 96 bytes for each entry.

A file is read into a buffer of the length that the format has at most.  The read loop stops when
the buffer is full, so a loader never sees how long the file is.  The checks are on what is in the
buffer.  A longer file passes them when its front does (`file_formats_exact_iff`).

Writing replaces the file or fails.  A path is what it names, so paths do not appear here.
-/

namespace ZkArche.C

/-! ## Reading and writing -/

/-- What `open` and the calls of `read` give for a path. -/
inductive FileReads where
  /-- `ENOENT`. -/
  | missing
  /-- Another error. -/
  | failed
  | reads (contents : Chunks UInt8)

/-- `read_whole_file`. -/
def readWholeFile (file : FileReads) (bufCap : ℕ) : Except AuthErr (List UInt8) :=
  match file with
  | .missing => .error .credentialMissing
  | .failed => .error .storageFailure
  | .reads contents => .ok (contents.gather bufCap []).1

/-- The buffer has the front of the file. -/
@[simp] theorem readWholeFile_reads (s : Chunks UInt8) (bufCap : ℕ) :
    readWholeFile (.reads s) bufCap = .ok (s.contents.take bufCap) := by
  rw [readWholeFile, (Chunks.gather_eq (Nat.zero_le bufCap)).1]
  rfl

/-- `atomic_write`: it fails, or the file has the data. -/
def atomicWrite (failure : Option AuthErr) (data : List UInt8) (file : Option (List UInt8)) :
    Except AuthErr Unit × Option (List UInt8) :=
  match failure with
  | some e => (.error e, file)
  | none => (.ok (), some data)

/-! ## Credentials -/

/-- `auth_credentials_t`.  The two flags are only tested. -/
@[ext] structure AuthCredentials where
  deviceRoot : Bytes 32
  hasPinnedServer : Bool
  serverPubPinned : Bytes 32
  hasRole : Bool
  roleCommitment : Bytes 32
  roleBlind : Bytes 32
  roleCode : UInt64
deriving DecidableEq

/-- `CRED_FILE_LEN`. -/
def credFileLen : ℕ := 154

/-- `CRED_MAGIC`. -/
def credMagic : List UInt8 := ascii "IACRED" ++ [0x00, 0x01]

/-- The fields of a file of credentials. -/
def credentialsOf (buf : Bytes 154) : AuthCredentials where
  deviceRoot := buf.cut 10 32 (by decide)
  hasPinnedServer := buf.val.getD 9 0 &&& 1 != 0
  serverPubPinned := buf.cut 42 32 (by decide)
  hasRole := buf.val.getD 9 0 &&& 2 != 0
  roleCommitment := buf.cut 74 32 (by decide)
  roleBlind := buf.cut 106 32 (by decide)
  roleCode := loadU64LE buf.val 138

/-- `auth_creds_load`. -/
def authCredsLoad (file : FileReads) : Except AuthErr AuthCredentials := do
  let buf ← readWholeFile file credFileLen
  if h : buf.length = credFileLen then
    ensure (buf.take 8 = credMagic) .registryCorrupt
    ensure (buf.getD 8 0 = 1) .registryCorrupt
    return credentialsOf ⟨buf, h⟩
  else .error .registryCorrupt

/-- The bytes that `auth_creds_save` writes. -/
def credentialsBytes (c : AuthCredentials) : List UInt8 :=
  credMagic ++ ([1] ++ ([(if c.hasPinnedServer then 1 else 0) ||| (if c.hasRole then 2 else 0)] ++
    (c.deviceRoot.val ++
      ((if c.hasPinnedServer then c.serverPubPinned.val else List.replicate 32 0) ++
        ((if c.hasRole then c.roleCommitment.val else List.replicate 32 0) ++
          ((if c.hasRole then c.roleBlind.val else List.replicate 32 0) ++
            ((if c.hasRole then u64LE c.roleCode else List.replicate 8 0) ++
              List.replicate 8 0)))))))

/-- `auth_creds_save`. -/
def authCredsSave (c : AuthCredentials) (failure : Option AuthErr) (file : Option (List UInt8)) :
    Except AuthErr Unit × Option (List UInt8) :=
  atomicWrite failure (credentialsBytes c) file

/-! ## The registry -/

/-- `REG_HEADER_LEN`. -/
def regHeaderLen : ℕ := 13

/-- `REG_ENTRY_LEN`. -/
def regEntryLen : ℕ := 96

/-- `REG_MAGIC`. -/
def regMagic : List UInt8 := ascii "IAREG" ++ [0x00, 0x00, 0x01]

/-- The length of the buffer of the registry. -/
def regBufLen : ℕ := regHeaderLen + registryMaxEntries * regEntryLen

/-- The entry at the front of a buffer. -/
def registryEntryOf (p : List UInt8) (h : regEntryLen ≤ p.length) : RegistryEntry where
  deviceId := Bytes.cut ⟨p, rfl⟩ 0 32 (le_trans (by decide) h)
  devicePub := Bytes.cut ⟨p, rfl⟩ 32 32 (le_trans (by decide) h)
  roleCommitment := Bytes.cut ⟨p, rfl⟩ 64 32 (le_trans (by decide) h)

/-- The loop of `auth_registry_load`, with the entries left and where they are. -/
def registryEntries : (left : ℕ) → (p : List UInt8) → left * regEntryLen ≤ p.length → Registry
  | 0, _, _ => []
  | left + 1, p, h =>
      registryEntryOf p (by rw [Nat.succ_mul] at h; omega) ::
        registryEntries left (p.drop regEntryLen)
          (by rw [Nat.succ_mul] at h; rw [List.length_drop]; omega)

/-- `r32le`. -/
def r32le (p : List UInt8) : ℕ := leNat (p.take 4)

/-- `auth_registry_load`. -/
def authRegistryLoad (file : FileReads) : Except AuthErr Registry :=
  match readWholeFile file regBufLen with
  -- an empty registry is fine for a fresh server
  | .error .credentialMissing => .ok []
  | .error e => .error e
  | .ok buf => do
      ensure (¬ buf.length < regHeaderLen) .registryCorrupt
      ensure (buf.take 8 = regMagic) .registryCorrupt
      ensure (buf.getD 8 0 = 1) .registryCorrupt
      let count := r32le (buf.drop 9)
      ensure (¬ count > registryMaxEntries) .registryCorrupt
      if h : buf.length < regHeaderLen + count * regEntryLen then .error .registryCorrupt
      else return registryEntries count (buf.drop regHeaderLen) (by rw [List.length_drop]; omega)

/-- The bytes of an entry. -/
def RegistryEntry.bytes (e : RegistryEntry) : List UInt8 :=
  e.deviceId.val ++ (e.devicePub.val ++ e.roleCommitment.val)

/-- The bytes that `auth_registry_save` writes. -/
def registryBytes (reg : Registry) : List UInt8 :=
  regMagic ++ ([1] ++ (natLE 4 reg.length ++ reg.flatMap RegistryEntry.bytes))

/-- `auth_registry_save`. -/
def authRegistrySave (reg : Registry) (failure : Option AuthErr) (file : Option (List UInt8)) :
    Except AuthErr Unit × Option (List UInt8) :=
  atomicWrite failure (registryBytes reg) file

/-! ## The server key -/

/-- `SKEY_FILE_LEN`. -/
def skeyFileLen : ℕ := 41

/-- `SKEY_MAGIC`. -/
def skeyMagic : List UInt8 := ascii "IASKEY" ++ [0x00, 0x01]

/-- `auth_server_key_load_or_create`: the key, and the file after a new key was written to it.
`random` is what `auth_random_scalar` draws. -/
def authServerKeyLoadOrCreate (file : FileReads) (random : Bytes 32) (failure : Option AuthErr) :
    Except AuthErr (Bytes 32 × Option (List UInt8)) :=
  match readWholeFile file skeyFileLen with
  | .ok buf =>
      if h : buf.length = skeyFileLen then do
        ensure (buf.take 8 = skeyMagic) .registryCorrupt
        ensure (buf.getD 8 0 = 1) .registryCorrupt
        return (Bytes.cut ⟨buf, h⟩ 9 32 (by decide), none)
      else .error .registryCorrupt
  | .error .credentialMissing =>
      let (written, fresh) := atomicWrite failure (skeyMagic ++ ([1] ++ random.val)) none
      written.map fun _ => (random, fresh)
  | .error e => .error e

/-! ## What is accepted -/

/-- A file that starts with a magic and version one. -/
def Tagged (magic content : List UInt8) : Prop :=
  content.take 8 = magic ∧ content.getD 8 0 = 1

instance (magic content : List UInt8) : Decidable (Tagged magic content) :=
  inferInstanceAs (Decidable (_ ∧ _))

/-- The file of credentials or of a key of exactly this length. -/
def ExactFile (magic : List UInt8) (len : ℕ) (content : List UInt8) : Prop :=
  content.length = len ∧ Tagged magic content

/-- The count in the file of a registry. -/
def registryCount (content : List UInt8) : ℕ := r32le (content.drop 9)

/-- The file of a registry, with nothing behind its entries. -/
def ExactRegistryFile (content : List UInt8) : Prop :=
  content.length = regHeaderLen + registryCount content * regEntryLen ∧ Tagged regMagic content ∧
    registryCount content ≤ registryMaxEntries

/-- Only these contents are loaded, and all others are corrupt. -/
def LoadsOnly {α : Type} (exact : Prop) (loaded : Except AuthErr α) : Prop :=
  (∀ a, loaded = .ok a → exact) ∧ (¬ exact → loaded = .error .registryCorrupt)

/-- The front of a file has its tag. -/
theorem tagged_take {magic content : List UInt8} {n : ℕ} (h : 9 ≤ n) :
    Tagged magic (content.take n) ↔ Tagged magic content := by
  have hgetD : (content.take n).getD 8 0 = content.getD 8 0 := by
    rw [List.getD_eq_getElem?_getD, List.getD_eq_getElem?_getD, List.getElem?_take_of_lt (by omega)]
  rw [Tagged, Tagged, hgetD, List.take_take, Nat.min_eq_left (by omega)]

/-- The checks of the magic and the version, in front of the rest. -/
theorem check_tag_eq {α : Type} (magic buf : List UInt8) (rest : Except AuthErr α) :
    (do
      ensure (buf.take 8 = magic) .registryCorrupt
      ensure (buf.getD 8 0 = 1) .registryCorrupt
      rest) = if Tagged magic buf then rest else .error .registryCorrupt := by
  by_cases hmagic : buf.take 8 = magic
  · rw [ensure_pos hmagic, Except.ok_bind']
    by_cases hversion : buf.getD 8 0 = 1
    · rw [ensure_pos hversion, if_pos ⟨hmagic, hversion⟩, Except.ok_bind']
    · rw [ensure_neg hversion, if_neg fun htag => hversion htag.2, Except.error_bind']
  · rw [ensure_neg hmagic, if_neg fun htag => hmagic htag.1, Except.error_bind']

/-- The loaders of a fixed length look at the front of the file. -/
theorem fixed_load_eq {α : Type} (magic content : List UInt8) {len : ℕ} (hlen : 9 ≤ len)
    (load : Bytes len → α) :
    (if h : (content.take len).length = len then do
      ensure ((content.take len).take 8 = magic) .registryCorrupt
      ensure ((content.take len).getD 8 0 = 1) .registryCorrupt
      return load ⟨content.take len, h⟩
    else .error .registryCorrupt : Except AuthErr α) =
      if h : len ≤ content.length ∧ Tagged magic content then
        .ok (load ⟨content.take len, List.length_take_of_le h.1⟩)
      else .error .registryCorrupt := by
  have hfull : (content.take len).length = len ↔ len ≤ content.length := by
    rw [List.length_take]
    omega
  simp only [check_tag_eq, tagged_take hlen, Except.pure_eq_ok]
  by_cases hlong : len ≤ content.length
  · rw [dif_pos (hfull.mpr hlong)]
    by_cases htag : Tagged magic content
    · rw [if_pos htag, dif_pos ⟨hlong, htag⟩]
    · rw [if_neg htag, dif_neg fun h => htag h.2]
  · rw [dif_neg fun h => hlong (hfull.mp h), dif_neg fun h => hlong h.1]

theorem authCredsLoad_reads (s : Chunks UInt8) :
    authCredsLoad (.reads s) =
      if h : credFileLen ≤ s.contents.length ∧ Tagged credMagic s.contents then
        .ok (credentialsOf ⟨s.contents.take credFileLen, List.length_take_of_le h.1⟩)
      else .error .registryCorrupt := by
  rw [authCredsLoad, readWholeFile_reads, Except.ok_bind']
  exact fixed_load_eq credMagic s.contents (by decide) credentialsOf

theorem authServerKeyLoadOrCreate_reads (s : Chunks UInt8) (random : Bytes 32)
    (failure : Option AuthErr) :
    authServerKeyLoadOrCreate (.reads s) random failure =
      if h : skeyFileLen ≤ s.contents.length ∧ Tagged skeyMagic s.contents then
        .ok (Bytes.cut ⟨s.contents.take skeyFileLen, List.length_take_of_le h.1⟩ 9 32
          (by decide), none)
      else .error .registryCorrupt := by
  rw [authServerKeyLoadOrCreate, readWholeFile_reads]
  exact fixed_load_eq skeyMagic s.contents (by decide) fun buf : Bytes skeyFileLen =>
    (buf.cut 9 32 (by decide), none)

theorem registryEntryOf_take {p : List UInt8} {n : ℕ} (hn : regEntryLen ≤ n)
    (h : regEntryLen ≤ (p.take n).length) (h' : regEntryLen ≤ p.length) :
    registryEntryOf (p.take n) h = registryEntryOf p h' := by
  have hcut : ∀ off, off + 32 ≤ n → ((p.take n).drop off).take 32 = (p.drop off).take 32 := by
    intro off hoff
    rw [List.drop_take, List.take_take, Nat.min_eq_left (by omega)]
  have hlen : regEntryLen = 96 := rfl
  simp only [registryEntryOf, Bytes.cut, hcut 0 (by omega), hcut 32 (by omega),
    hcut 64 (by omega)]

/-- The loop looks at the bytes of its entries. -/
theorem registryEntries_take {left n : ℕ} {p : List UInt8} (hn : left * regEntryLen ≤ n)
    (h : left * regEntryLen ≤ (p.take n).length) (h' : left * regEntryLen ≤ p.length) :
    registryEntries left (p.take n) h = registryEntries left p h' := by
  induction left generalizing n p with
  | zero => rfl
  | succ left ih =>
      rw [Nat.succ_mul] at hn
      simp only [registryEntries, List.drop_take]
      rw [registryEntryOf_take (by omega), ih (by omega)]

/-- The registry loader looks at its buffer, which is long enough for every count it allows. -/
theorem authRegistryLoad_reads (s : Chunks UInt8) :
    authRegistryLoad (.reads s) =
      if h : regHeaderLen + registryCount s.contents * regEntryLen ≤ s.contents.length ∧
          Tagged regMagic s.contents ∧ registryCount s.contents ≤ registryMaxEntries then
        .ok (registryEntries (registryCount s.contents) (s.contents.drop regHeaderLen)
          (by rw [List.length_drop]; omega))
      else .error .registryCorrupt := by
  have hcount : r32le ((s.contents.take regBufLen).drop 9) = registryCount s.contents := by
    rw [registryCount, r32le, r32le, List.drop_take, List.take_take, Nat.min_eq_left (by decide)]
  have hmax : registryCount s.contents ≤ registryMaxEntries →
      regHeaderLen + registryCount s.contents * regEntryLen ≤ regBufLen := fun h =>
    Nat.add_le_add_left (Nat.mul_le_mul_right _ h) _
  have hlen : (s.contents.take regBufLen).length = min regBufLen s.contents.length :=
    List.length_take
  rw [authRegistryLoad, readWholeFile_reads]
  simp only [check_tag_eq, hcount, tagged_take (by decide : 9 ≤ regBufLen)]
  by_cases hlong : (s.contents.take regBufLen).length < regHeaderLen
  · have hshort : s.contents.length < regHeaderLen := by
      have hbuf : regHeaderLen ≤ regBufLen := by decide
      omega
    rw [ensure_neg (not_not.mpr hlong), Except.error_bind', dif_neg]
    rintro ⟨hall, -⟩
    omega
  rw [ensure_pos hlong, Except.ok_bind']
  by_cases htag : Tagged regMagic s.contents
  swap
  · rw [if_neg htag, dif_neg]
    exact fun h => htag h.2.1
  rw [if_pos htag]
  by_cases hfew : registryCount s.contents ≤ registryMaxEntries
  swap
  · rw [ensure_neg (not_not.mpr (Nat.not_le.mp hfew)), Except.error_bind', dif_neg]
    exact fun h => hfew h.2.2
  rw [ensure_pos (Nat.not_lt.mpr hfew), Except.ok_bind']
  have hbuf := hmax hfew
  by_cases hall : regHeaderLen + registryCount s.contents * regEntryLen ≤ s.contents.length
  · rw [dif_neg (by omega), dif_pos ⟨hall, htag, hfew⟩]
    simp only [List.drop_take]
    rw [registryEntries_take (by omega)]
    rfl
  · rw [dif_pos (by omega), dif_neg]
    exact fun h => hall h.1

/-- A loader that accepts more than the exact files. -/
theorem loadsOnly_iff {α : Type} {exact accepted : Prop} [Decidable accepted]
    {value : accepted → α} :
    LoadsOnly exact (if h : accepted then .ok (value h) else .error .registryCorrupt) ↔
      ¬ (accepted ∧ ¬ exact) := by
  by_cases hacc : accepted
  · simp [LoadsOnly, hacc]
  · simp [LoadsOnly, hacc]

/-- Each loader accepts its exact files only, but for longer files that start like one. -/
theorem file_formats_exact_iff (s : Chunks UInt8) (random : Bytes 32) (failure : Option AuthErr) :
    (LoadsOnly (ExactFile credMagic credFileLen s.contents) (authCredsLoad (.reads s)) ↔
      ¬ (Tagged credMagic s.contents ∧ credFileLen < s.contents.length)) ∧
    (LoadsOnly (ExactFile skeyMagic skeyFileLen s.contents)
        (authServerKeyLoadOrCreate (.reads s) random failure) ↔
      ¬ (Tagged skeyMagic s.contents ∧ skeyFileLen < s.contents.length)) ∧
    (LoadsOnly (ExactRegistryFile s.contents) (authRegistryLoad (.reads s)) ↔
      ¬ (Tagged regMagic s.contents ∧ registryCount s.contents ≤ registryMaxEntries ∧
        regHeaderLen + registryCount s.contents * regEntryLen < s.contents.length)) := by
  rw [authCredsLoad_reads, authServerKeyLoadOrCreate_reads, authRegistryLoad_reads, loadsOnly_iff,
    loadsOnly_iff, loadsOnly_iff]
  simp only [ExactFile, ExactRegistryFile]
  refine ⟨not_congr ?_, not_congr ?_, not_congr ?_⟩
  · exact ⟨fun h => ⟨h.1.2, lt_of_le_of_ne h.1.1 fun heq => h.2 ⟨heq.symm, h.1.2⟩⟩,
      fun h => ⟨⟨h.2.le, h.1⟩, fun hexact => h.2.ne' hexact.1⟩⟩
  · exact ⟨fun h => ⟨h.1.2, lt_of_le_of_ne h.1.1 fun heq => h.2 ⟨heq.symm, h.1.2⟩⟩,
      fun h => ⟨⟨h.2.le, h.1⟩, fun hexact => h.2.ne' hexact.1⟩⟩
  · exact ⟨fun h => ⟨h.1.2.1, h.1.2.2, lt_of_le_of_ne h.1.1 fun heq => h.2 ⟨heq.symm, h.1.2⟩⟩,
      fun h => ⟨⟨h.2.2.le, h.1, h.2.1⟩, fun hexact => h.2.2.ne' hexact.1⟩⟩

/-- Credentials of zeros with one more byte. -/
def longCredentials : List UInt8 := credMagic ++ [1] ++ List.replicate 146 0

/-- A server key of zeros with one more byte. -/
def longServerKey : List UInt8 := skeyMagic ++ [1] ++ List.replicate 33 0

/-- A registry without entries and one more byte. -/
def longRegistry : List UInt8 := regMagic ++ [1] ++ List.replicate 5 0

/-- Each loader accepts a file with a byte too many. -/
theorem longer_files_loaded :
    ¬ LoadsOnly (ExactFile credMagic credFileLen longCredentials)
      (authCredsLoad (.reads (.whole longCredentials))) ∧
    ¬ LoadsOnly (ExactFile skeyMagic skeyFileLen longServerKey)
      (authServerKeyLoadOrCreate (.reads (.whole longServerKey)) (.zero 32) none) ∧
    ¬ LoadsOnly (ExactRegistryFile longRegistry)
      (authRegistryLoad (.reads (.whole longRegistry))) := by
  rw [authCredsLoad_reads, authServerKeyLoadOrCreate_reads, authRegistryLoad_reads, loadsOnly_iff,
    loadsOnly_iff, loadsOnly_iff]
  simp only [Chunks.contents_whole, not_not]
  refine ⟨⟨by decide +kernel, ?_⟩, ⟨by decide, ?_⟩, ⟨by decide, ?_⟩⟩
  · exact fun h => absurd h.1 (by decide +kernel)
  · exact fun h => absurd h.1 (by decide)
  · exact fun h => absurd h.1 (by decide)

/-! ## Round trips -/

/-- The credentials with the fields cleared that their flags turn off. -/
def AuthCredentials.cleared (c : AuthCredentials) : AuthCredentials where
  deviceRoot := c.deviceRoot
  hasPinnedServer := c.hasPinnedServer
  serverPubPinned := if c.hasPinnedServer then c.serverPubPinned else .zero 32
  hasRole := c.hasRole
  roleCommitment := if c.hasRole then c.roleCommitment else .zero 32
  roleBlind := if c.hasRole then c.roleBlind else .zero 32
  roleCode := if c.hasRole then c.roleCode else 0

/-- The byte of the flags. -/
def AuthCredentials.flags (c : AuthCredentials) : UInt8 :=
  (if c.hasPinnedServer then 1 else 0) ||| (if c.hasRole then 2 else 0)

/-- What is written are the cleared credentials. -/
theorem credentialsBytes_eq (c : AuthCredentials) :
    credentialsBytes c = (credMagic ++ [1, c.flags]) ++ (c.cleared.deviceRoot.val ++
      (c.cleared.serverPubPinned.val ++ (c.cleared.roleCommitment.val ++
        (c.cleared.roleBlind.val ++ (natLE 8 c.cleared.roleCode.toNat ++ List.replicate 8 0))))) := by
  have hpub : (if c.hasPinnedServer then c.serverPubPinned.val else List.replicate 32 0) =
      c.cleared.serverPubPinned.val := by
    rw [AuthCredentials.cleared]
    split <;> rfl
  have hcommitment : (if c.hasRole then c.roleCommitment.val else List.replicate 32 0) =
      c.cleared.roleCommitment.val := by
    rw [AuthCredentials.cleared]
    split <;> rfl
  have hblind : (if c.hasRole then c.roleBlind.val else List.replicate 32 0) =
      c.cleared.roleBlind.val := by
    rw [AuthCredentials.cleared]
    split <;> rfl
  have hcode : (if c.hasRole then u64LE c.roleCode else List.replicate 8 0) =
      natLE 8 c.cleared.roleCode.toNat := by
    rw [AuthCredentials.cleared]
    split
    · rfl
    · show List.replicate 8 0 = natLE 8 (0 : UInt64).toNat
      decide
  rw [credentialsBytes, hpub, hcommitment, hblind, hcode]
  simp only [AuthCredentials.flags, AuthCredentials.cleared, List.append_assoc, List.cons_append,
    List.nil_append]

/-- A field is cut out of what is in front of it and behind it. -/
theorem cut_eq_of_append {n off m : ℕ} {buf : Bytes m} {pre rest : List UInt8} {field : Bytes n}
    (hbuf : buf.val = pre ++ (field.val ++ rest)) (hoff : pre.length = off) (h : off + n ≤ m) :
    buf.cut off n h = field := by
  apply Bytes.ext
  show (buf.val.drop off).take n = field.val
  rw [hbuf, List.drop_left' hoff, List.take_left' field.len]

theorem length_credentialsBytes (c : AuthCredentials) :
    (credentialsBytes c).length = credFileLen := by
  rw [credentialsBytes_eq]
  simp only [List.length_append, Bytes.len, natLE_length, List.length_replicate]
  rfl

/-- Credentials are read back but for the fields that are turned off. -/
theorem credentialsOf_credentialsBytes (c : AuthCredentials) {buf : Bytes 154}
    (hbuf : buf.val = credentialsBytes c) : credentialsOf buf = c.cleared := by
  rw [credentialsBytes_eq] at hbuf
  have hflags : buf.val.getD 9 0 = c.flags := by rw [hbuf]; rfl
  have hpinned : (c.flags &&& 1 != 0) = c.hasPinnedServer := by
    rw [AuthCredentials.flags]
    cases c.hasPinnedServer <;> cases c.hasRole <;> rfl
  have hrole : (c.flags &&& 2 != 0) = c.hasRole := by
    rw [AuthCredentials.flags]
    cases c.hasPinnedServer <;> cases c.hasRole <;> rfl
  -- each field with all that is in front of it
  have hpub := hbuf.trans (List.append_assoc _ _ _).symm
  have hcommitment := hpub.trans (List.append_assoc _ _ _).symm
  have hblind := hcommitment.trans (List.append_assoc _ _ _).symm
  have hcode := hblind.trans (List.append_assoc _ _ _).symm
  have hroleCode : loadU64LE buf.val 138 = c.cleared.roleCode := by
    rw [hcode]
    refine loadU64LE_append ?_ _
    simp only [List.length_append, Bytes.len]
    rfl
  have hlen : (credMagic ++ [1, c.flags]).length = 10 := rfl
  refine AuthCredentials.ext ?_ ?_ ?_ ?_ ?_ ?_ hroleCode
  · exact cut_eq_of_append hbuf hlen (by decide)
  · exact (congrArg (fun b => b &&& 1 != 0) hflags).trans hpinned
  · refine cut_eq_of_append hpub ?_ (by decide)
    rw [List.length_append, hlen, Bytes.len]
  · exact (congrArg (fun b => b &&& 2 != 0) hflags).trans hrole
  · refine cut_eq_of_append hcommitment ?_ (by decide)
    rw [List.length_append, List.length_append, hlen, Bytes.len, Bytes.len]
  · refine cut_eq_of_append hblind ?_ (by decide)
    rw [List.length_append, List.length_append, List.length_append, hlen, Bytes.len, Bytes.len,
      Bytes.len]

theorem authCredsLoad_saved (c : AuthCredentials) {s : Chunks UInt8}
    (hs : s.contents = credentialsBytes c) : authCredsLoad (.reads s) = .ok c.cleared := by
  have hlen : s.contents.length = credFileLen := hs ▸ length_credentialsBytes c
  have htag : Tagged credMagic s.contents := by
    rw [hs]
    exact ⟨rfl, rfl⟩
  rw [authCredsLoad_reads, dif_pos ⟨hlen.ge, htag⟩,
    credentialsOf_credentialsBytes c ((List.take_of_length_le hlen.le).trans hs)]

theorem RegistryEntry.length_bytes (e : RegistryEntry) : e.bytes.length = regEntryLen := by
  rw [bytes, List.length_append, List.length_append, Bytes.len, Bytes.len, Bytes.len]
  rfl

theorem length_flatMap_bytes (reg : Registry) :
    (reg.flatMap RegistryEntry.bytes).length = reg.length * regEntryLen := by
  induction reg with
  | nil => rfl
  | cons e reg ih =>
      rw [List.flatMap_cons, List.length_append, ih, e.length_bytes, List.length_cons,
        Nat.succ_mul, Nat.add_comm]

theorem registryEntryOf_bytes (e : RegistryEntry) (rest : List UInt8)
    (h : regEntryLen ≤ (e.bytes ++ rest).length) : registryEntryOf (e.bytes ++ rest) h = e := by
  have hid : e.bytes ++ rest = [] ++ (e.deviceId.val ++
      (e.devicePub.val ++ (e.roleCommitment.val ++ rest))) := by
    simp only [RegistryEntry.bytes, List.append_assoc, List.nil_append]
  have hpub := hid.trans (List.append_assoc _ _ _).symm
  have hrole := hpub.trans (List.append_assoc _ _ _).symm
  have h0 : Bytes.cut ⟨e.bytes ++ rest, rfl⟩ 0 32 (le_trans (by decide) h) = e.deviceId :=
    cut_eq_of_append hid (by simp) _
  have h32 : Bytes.cut ⟨e.bytes ++ rest, rfl⟩ 32 32 (le_trans (by decide) h) = e.devicePub :=
    cut_eq_of_append hpub (by simp) _
  have h64 : Bytes.cut ⟨e.bytes ++ rest, rfl⟩ 64 32 (le_trans (by decide) h) = e.roleCommitment :=
    cut_eq_of_append hrole (by simp) _
  rw [registryEntryOf, h0, h32, h64]

/-- The entries are read back in their order. -/
theorem registryEntries_bytes (reg : Registry) {p : List UInt8}
    (hp : p = reg.flatMap RegistryEntry.bytes) (h : reg.length * regEntryLen ≤ p.length) :
    registryEntries reg.length p h = reg := by
  induction reg generalizing p with
  | nil => rfl
  | cons e reg ih =>
      rw [List.flatMap_cons] at hp
      subst hp
      have hdrop : (e.bytes ++ reg.flatMap RegistryEntry.bytes).drop regEntryLen =
          reg.flatMap RegistryEntry.bytes := List.drop_left' e.length_bytes
      show registryEntryOf _ _ :: registryEntries reg.length _ _ = e :: reg
      rw [registryEntryOf_bytes, ih hdrop]

theorem authRegistryLoad_saved {reg : Registry} (hreg : reg.WellFormed) {s : Chunks UInt8}
    (hs : s.contents = registryBytes reg) : authRegistryLoad (.reads s) = .ok reg := by
  have hmax : registryMaxEntries < 256 ^ 4 := by decide
  have hcount : registryCount s.contents = reg.length := by
    have hdrop : (registryBytes reg).drop 9 =
        natLE 4 reg.length ++ reg.flatMap RegistryEntry.bytes := rfl
    rw [hs, registryCount, r32le, hdrop, List.take_left' (natLE_length 4 _),
      leNat_natLE (lt_of_le_of_lt hreg.bounded hmax)]
  have htag : Tagged regMagic s.contents := by
    rw [hs]
    exact ⟨rfl, rfl⟩
  have hdrop : s.contents.drop regHeaderLen = reg.flatMap RegistryEntry.bytes := by
    rw [hs, registryBytes, ← List.append_assoc, ← List.append_assoc]
    refine List.drop_left' ?_
    rw [List.length_append, natLE_length]
    rfl
  have hlen : regHeaderLen + registryCount s.contents * regEntryLen ≤ s.contents.length := by
    have hrest := congrArg List.length hdrop
    rw [List.length_drop, length_flatMap_bytes] at hrest
    have hhead : regHeaderLen ≤ s.contents.length := by
      have hmagic : regMagic.length = 8 := rfl
      have hheader : regHeaderLen = 13 := rfl
      rw [hs, registryBytes, List.length_append, List.length_append, List.length_append,
        natLE_length, hmagic, List.length_singleton]
      omega
    rw [hcount]
    omega
  rw [authRegistryLoad_reads, dif_pos ⟨hlen, htag, hcount ▸ hreg.bounded⟩]
  simp only [hcount]
  rw [registryEntries_bytes reg hdrop]

/-- The registry after any puts is a map with what was put last, in the order of the first puts.
A save that does not fail puts its bytes into the file and a save that fails leaves the file.  The
registry is read back from these bytes, and so are credentials but for the fields that are turned
off. -/
theorem stores_persist (puts : List RegistryEntry) (c : AuthCredentials) :
    (putAll [] puts).1.length ≤ registryMaxEntries ∧
    ((putAll [] puts).1.map RegistryEntry.deviceId).Nodup ∧
    (∀ id e, ((putAll [] puts).2.reverse.find? fun e => e.deviceId = id) = some e →
      authRegistryGet (putAll [] puts).1 id = .ok (e.devicePub, e.roleCommitment)) ∧
    (∀ id, (∀ e ∈ (putAll [] puts).2, e.deviceId ≠ id) →
      authRegistryGet (putAll [] puts).1 id = .error .unknownDevice) ∧
    (∀ e, (∃ reg', authRegistryPut (putAll [] puts).1 e = .ok reg' ∧
        (putAll [] (puts ++ [e])).1 = reg' ∧
        (putAll [] puts).1.map RegistryEntry.deviceId <+: reg'.map RegistryEntry.deviceId ∧
        ∀ (i : ℕ) (r : RegistryEntry), (putAll [] puts).1[i]? = some r →
          r.deviceId ≠ e.deviceId → reg'[i]? = some r) ∨
      (authRegistryPut (putAll [] puts).1 e = .error .tooManyActive ∧
        (putAll [] puts).1.length = registryMaxEntries ∧
        (∀ r ∈ (putAll [] puts).1, r.deviceId ≠ e.deviceId) ∧
        (putAll [] (puts ++ [e])).1 = (putAll [] puts).1)) ∧
    (∀ file, authRegistrySave (putAll [] puts).1 none file
        = (.ok (), some (registryBytes (putAll [] puts).1)) ∧
      ∀ e, authRegistrySave (putAll [] puts).1 (some e) file = (.error e, file)) ∧
    (∀ s : Chunks UInt8, s.contents = registryBytes (putAll [] puts).1 →
      authRegistryLoad (.reads s) = .ok (putAll [] puts).1) ∧
    (∀ file, authCredsSave c none file = (.ok (), some (credentialsBytes c)) ∧
      ∀ e, authCredsSave c (some e) file = (.error e, file)) ∧
    (∀ s : Chunks UInt8, s.contents = credentialsBytes c →
      authCredsLoad (.reads s) = .ok c.cleared) := by
  have hwf := Registry.wellFormed_nil.putAll puts
  refine ⟨hwf.bounded, hwf.distinct, ?_, ?_, ?_, fun file => ⟨rfl, fun e => rfl⟩, ?_,
    fun file => ⟨rfl, fun e => rfl⟩, ?_⟩
  · intro id e he
    rw [authRegistryGet_eq, get_putAll, he]
    rfl
  · intro id hnone
    have hfind : ((putAll [] puts).2.reverse.find? fun e => e.deviceId = id) = none := by
      simpa [List.find?_eq_none] using hnone
    rw [authRegistryGet_eq, get_putAll, hfind]
    rfl
  · intro e
    have hput := authRegistryPut_eq (putAll [] puts).1 e
    split at hput
    next hfull =>
      refine .inr ⟨hput, le_antisymm hwf.bounded hfull.2, ?_, ?_⟩
      · exact fun r hr heq => hfull.1 (List.mem_map.mpr ⟨r, hr, heq⟩)
      · rw [putAll_append, putAll_one_error hput]
    next =>
      refine .inl ⟨_, hput, ?_, ?_, fun i r hr hne => Keyed.upsert_other hr hne⟩
      · rw [putAll_append, putAll_one_ok hput]
      · rw [Keyed.keys_upsert]
        split
        next => exact List.prefix_refl _
        next => exact List.prefix_append _ _
  · exact fun s hs => authRegistryLoad_saved hwf hs
  · exact fun s hs => authCredsLoad_saved c hs

end ZkArche.C
