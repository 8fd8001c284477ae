import ZkArche.Proto.ProgramSpecC

/-!
# The life of a device of the C client

The C client program runs one command after the other over the file of credentials in its state
directory.  A command may be killed in any call to the system, and commands for other directories
may come in between.

Over every sequence of commands (`commands_life`)

* the file is the one from the start, or one that a completed enrollment wrote,
* the root in it never changes, and neither does a pinned key or a role,
* every enrollment and every session that succeeded was one with the credentials in the file, and a
  session comes after the enrollment of them, unless they were in the file from the start.
-/

namespace ZkArche.C

open Disk

/-! ## Commands one after the other -/

/-- A command line, and what the command meets. -/
structure Command where
  argv : List String
  meets : Meets

/-- What is seen of a command. -/
structure Ran where
  /-- The end of the program, unless the arguments ended it. -/
  result : Except Parsed (Except (Interrupt Complaint) Printed)
  log : List Traffic

/-- The state in which a command starts. -/
def Command.start (c : Command) (d : Disk String) : ProgramState :=
  ⟨d, c.meets.sends, c.meets.recvs, []⟩

variable {q : ℕ} {G : Type} [AddCommGroup G] [Module (ZMod q) G] (S : Suite q G)

/-- `main` over the files. -/
def Command.run (c : Command) (d : Disk String) : Disk String × Ran :=
  match parseArgs .initial c.argv with
  | .run a =>
      let (r, w) := (clientMain S a c.meets).exec (c.start d)
      (w.disk, ⟨.ok r, w.log⟩)
  | ended => (d, ⟨.error ended, []⟩)

/-- A device that starts with these files. -/
def commandMachine (files : Disk String) : Machine (Disk String) Command Ran where
  init d := d = files
  step d c := c.run S d

/-! ## What one command does -/

variable {S}

/-- What a command does to its state. -/
structure Commanded (S : Suite q G) (a : Args) (m : Meets) (w : ProgramState)
    (r : Except (Interrupt Complaint) Printed) (w' : ProgramState) : Prop where
  others : ∀ s, s ≠ a.credPath → s ≠ tmpPath a.credPath → w'.disk s = w.disk s
  file : (w'.disk a.credPath = w.disk a.credPath ∧ ∀ t, r ≠ .ok (.enrolled t)) ∨
    ∃ c₀ c, StartsFrom (w.disk a.credPath) m.newRoot c₀ ∧ CompletesSetup S a m c₀ c w'.log ∧
      HasData (credentialsBytes c) (w'.disk a.credPath)
  session : ∀ t key, r = .ok (.authenticated t key) → ∃ c x, Loads (w.disk a.credPath) c ∧
    Authenticates S a m c x w'.log ∧ key = (x.sessionKey S).val.take 8

/-- A command that ends before it does anything. -/
theorem Commanded.of_error {a : Args} {m : Meets} {w w' : ProgramState} {e : Interrupt Complaint}
    (h : w = w') : Commanded S a m w (.error e) w' :=
  ⟨fun _ _ _ => by rw [h], .inl ⟨by rw [h], nofun⟩, nofun⟩

theorem SetUp.commanded {a : Args} {m : Meets} {w w' : ProgramState}
    {r : Except (Interrupt Complaint) Printed} (h : SetUp S a m w r w') :
    Commanded S a m w r w' where
  others := h.others
  file := h.file.imp_left fun hsame => ⟨hsame.1, fun _ => hsame.2 _⟩
  session t key hr := by cases h.line _ hr

theorem SignedIn.commanded {a : Args} {m : Meets} {w w' : ProgramState}
    {r : Except (Interrupt Complaint) Printed} (h : SignedIn S a m w r w') :
    Commanded S a m w r w' where
  others s _ _ := by rw [h.disk]
  file := by
    refine .inl ⟨by rw [h.disk], fun t hr => ?_⟩
    obtain ⟨c, x, -, -, hline⟩ := h.confirmed _ hr
    cases hline
  session t key hr := by
    obtain ⟨c, x, hloads, hauth, hline⟩ := h.confirmed _ hr
    cases hline
    exact ⟨c, x, hloads, hauth, rfl⟩

theorem clientMain_ends (a : Args) (m : Meets) (w : ProgramState) (hlog : w.log = []) :
    Routine.Ends (clientMain S a m) w (Commanded S a m w) := by
  have hstop : ∀ (msg : String) (rest : PUnit → Program Complaint Printed),
      Routine.Ends (complain msg >>= rest) w (Commanded S a m w) := fun msg rest =>
    (complain_ends msg w).bind (fun u _ h => absurd rfl (h.2 u)) fun _ _ h => .of_error h.1
  unfold clientMain
  dsimp only
  split
  · exact hstop _ _
  split
  · exact hstop _ _
  refine (check_ends _ m.connect w).bind ?_ fun _ _ h => Commanded.of_error h.1
  rintro - _ ⟨rfl, -⟩
  split
  · exact (doSetup_ends a m w hlog).mono fun _ _ => SetUp.commanded
  · exact (doAuth_ends a m w hlog).mono fun _ _ => SignedIn.commanded

/-! ## What a sequence of commands does -/

/-- The file of the credentials in a directory. -/
def credentialsIn (dir : String) : String := dir ++ "/credentials.bin"

/-- A command with a directory uses the file in it, when its path fits. -/
theorem credPath_eq_credentialsIn {a : Args} {dir : String} (hdir : a.stateDir = some dir)
    (hfits : (credentialsIn dir).utf8ByteSize < 512) : a.credPath = credentialsIn dir := by
  have hjoin : dir ++ "/" ++ "credentials.bin" = credentialsIn dir := by
    rw [String.append_assoc]
    rfl
  rw [Args.credPath, hdir, Option.getD_some, pathJoin, hjoin]
  exact if_pos hfits

/-- It is no scratch path. -/
theorem tmpPath_ne_credentialsIn (path dir : String) : tmpPath path ≠ credentialsIn dir := by
  intro h
  have hlast := congrArg (fun s => s.toList.getLast?) h
  simp [tmpPath, credentialsIn] at hlast

/-- The later file continues what is in the earlier one, and complete credentials stay the same. -/
structure Keeps (o o' : Option File) : Prop where
  continues : ∀ c, Loads o c → ∃ c', Loads o' c' ∧ c.Continues c'
  complete : ∀ c, c.Complete → Loads o c → Loads o' c

theorem Keeps.refl (o : Option File) : Keeps o o where
  continues c h := ⟨c, h, .refl c⟩
  complete _ _ h := h

theorem Keeps.trans {o o' o'' : Option File} (h : Keeps o o') (h' : Keeps o' o'') :
    Keeps o o'' where
  continues c hc := by
    obtain ⟨c', hc', hcont⟩ := h.continues c hc
    obtain ⟨c'', hc'', hcont'⟩ := h'.continues c' hc'
    exact ⟨c'', hc'', hcont.trans hcont'⟩
  complete c hcomplete hc := h'.complete c hcomplete (h.complete c hcomplete hc)

/-- A completed enrollment keeps what was in the file. -/
theorem CompletesSetup.keeps {a : Args} {m : Meets} {c₀ c : AuthCredentials} {log : List Traffic}
    (h : CompletesSetup S a m c₀ c log) {o o' : Option File} {root : Bytes 32}
    (hstart : StartsFrom o root c₀) (hdata : HasData (credentialsBytes c) o') : Keeps o o' := by
  have hfirst : ∀ c₁, Loads o c₁ → c₁ = c₀ := by
    intro c₁ h₁
    obtain ⟨rfl, -⟩ | h₀ := hstart
    · obtain ⟨f, hf, -⟩ := h₁
      cases hf
    · exact h₁.unique h₀
  refine ⟨fun c₁ h₁ => ?_, fun c₁ hc₁ h₁ => ?_⟩
  · obtain rfl := hfirst c₁ h₁
    exact ⟨c, h.complete.loads hdata, h.continues⟩
  · obtain rfl := hfirst c₁ h₁
    rw [← hc₁.eq_of_continues h.complete h.continues]
    exact h.complete.loads hdata

/-- The command enrolled the device of this file with these credentials. -/
def EnrolledAs (S : Suite q G) (path : String) (e : Command × Ran) (c : AuthCredentials) : Prop :=
  ∃ a c₀, parseArgs .initial e.1.argv = .run a ∧ a.credPath = path ∧
    CompletesSetup S a e.1.meets c₀ c e.2.log

/-- The command authenticated the device of this file with these credentials. -/
def AuthenticatedAs (S : Suite q G) (path : String) (e : Command × Ran) (c : AuthCredentials)
    (key : List UInt8) : Prop :=
  ∃ a x, parseArgs .initial e.1.argv = .run a ∧ a.credPath = path ∧
    Authenticates S a e.1.meets c x e.2.log ∧ key = (x.sessionKey S).val.take 8

/-- The command is one for this file. -/
def Command.On (c : Command) (path : String) : Prop :=
  ∃ a, parseArgs .initial c.argv = .run a ∧ a.credPath = path

/-- Where the contents of the file are from. -/
def WrittenBy (S : Suite q G) (path : String) (h : List (Command × Ran)) (o₀ o : Option File) :
    Prop :=
  o = o₀ ∨ ∃ e ∈ h, ∃ c, EnrolledAs S path e c ∧ HasData (credentialsBytes c) o

/-- What holds of the file `o` after a history that began with `o₀`. -/
structure FileLife (S : Suite q G) (path : String) (o₀ : Option File) (h : List (Command × Ran))
    (o : Option File) : Prop where
  written : WrittenBy S path h o₀ o
  keeps : Keeps o₀ o
  enrolled : ∀ e ∈ h, e.1.On path → ∀ t, e.2.result = .ok (.ok (.enrolled t)) →
    ∃ c, Loads o c ∧ c.Complete ∧ EnrolledAs S path e c
  sessions : ∀ later e earlier, h = later ++ e :: earlier → e.1.On path → ∀ t key,
    e.2.result = .ok (.ok (.authenticated t key)) → ∃ c, Loads o c ∧ c.Complete ∧
      AuthenticatedAs S path e c key ∧ (Loads o₀ c ∨ ∃ e' ∈ earlier, EnrolledAs S path e' c)

theorem FileLife.start (path : String) (o : Option File) : FileLife S path o [] o where
  written := .inl rfl
  keeps := .refl o
  enrolled _ he := (List.not_mem_nil he).elim
  sessions later e earlier h := by cases later <;> cases h

/-- What one more command has to do to the file. -/
structure OneMore (S : Suite q G) (path : String) (o : Option File) (c : Command) (ran : Ran)
    (o' : Option File) : Prop where
  keeps : Keeps o o'
  written : o' = o ∨ ∃ creds, EnrolledAs S path (c, ran) creds ∧ HasData (credentialsBytes creds) o'
  enrolled : c.On path → ∀ t, ran.result = .ok (.ok (.enrolled t)) →
    ∃ creds, Loads o' creds ∧ creds.Complete ∧ EnrolledAs S path (c, ran) creds
  session : c.On path → ∀ t key, ran.result = .ok (.ok (.authenticated t key)) →
    ∃ creds, Loads o creds ∧ creds.Complete ∧ AuthenticatedAs S path (c, ran) creds key

theorem FileLife.cons {path : String} {o₀ o o' : Option File} {h : List (Command × Ran)}
    {c : Command} {ran : Ran} (hl : FileLife S path o₀ h o) (hone : OneMore S path o c ran o') :
    FileLife S path o₀ ((c, ran) :: h) o' where
  written := by
    obtain rfl | ⟨creds, henrolled, hdata⟩ := hone.written
    · obtain hsame | ⟨e, he, hc⟩ := hl.written
      · exact .inl hsame
      · exact .inr ⟨e, List.mem_cons_of_mem _ he, hc⟩
    · exact .inr ⟨_, List.mem_cons_self, creds, henrolled, hdata⟩
  keeps := hl.keeps.trans hone.keeps
  enrolled e he hon t hres := by
    obtain rfl | he := List.mem_cons.mp he
    · exact hone.enrolled hon t hres
    · obtain ⟨creds, hloads, hcomplete, henrolled⟩ := hl.enrolled e he hon t hres
      exact ⟨creds, hone.keeps.complete creds hcomplete hloads, hcomplete, henrolled⟩
  sessions later e earlier hh hon t key hres := by
    cases later with
    | nil =>
        obtain ⟨rfl, rfl⟩ := List.cons_eq_cons.mp hh
        obtain ⟨creds, hloads, hcomplete, hauth⟩ := hone.session hon t key hres
        refine ⟨creds, hone.keeps.complete creds hcomplete hloads, hcomplete, hauth, ?_⟩
        -- the file that the session loaded has its own origin
        obtain rfl | ⟨e', he', creds', henrolled, hdata⟩ := hl.written
        · exact .inl hloads
        · have hsame : creds' = creds := by
            obtain ⟨a, c₀, -, -, hsetup⟩ := henrolled
            exact (hsetup.complete.loads hdata).unique hloads
          exact .inr ⟨e', he', hsame ▸ henrolled⟩
    | cons x later =>
        obtain ⟨-, rfl⟩ := List.cons_eq_cons.mp hh
        obtain ⟨creds, hloads, hcomplete, hauth, horigin⟩ :=
          hl.sessions later e earlier rfl hon t key hres
        exact ⟨creds, hone.keeps.complete creds hcomplete hloads, hcomplete, hauth, horigin⟩

/-- A command that says nothing of the file and leaves it as it is. -/
theorem OneMore.of_other {path : String} {o o' : Option File} {c : Command} {ran : Ran}
    (hsame : o' = o) (hother : ¬ c.On path) : OneMore S path o c ran o' where
  keeps := hsame ▸ .refl o
  written := .inl hsame
  enrolled hon := absurd hon hother
  session hon := absurd hon hother

/-- A command for the file. -/
theorem OneMore.ran {c : Command} {d : Disk String} {a : Args}
    (hargs : parseArgs .initial c.argv = .run a) {r : Except (Interrupt Complaint) Printed}
    {w' : ProgramState} (h : Commanded S a c.meets (c.start d) r w') :
    OneMore S a.credPath (d a.credPath) c ⟨.ok r, w'.log⟩ (w'.disk a.credPath) where
  keeps := by
    obtain ⟨hsame, -⟩ | ⟨c₀, creds, hstart, hsetup, hdata⟩ := h.file
    · rw [hsame]
      exact .refl _
    · exact hsetup.keeps hstart hdata
  written := by
    obtain ⟨hsame, -⟩ | ⟨c₀, creds, -, hsetup, hdata⟩ := h.file
    · exact .inl hsame
    · exact .inr ⟨creds, ⟨a, c₀, hargs, rfl, hsetup⟩, hdata⟩
  enrolled _ t hres := by
    obtain ⟨-, hnot⟩ | ⟨c₀, creds, -, hsetup, hdata⟩ := h.file
    · exact absurd (Except.ok.inj hres) (hnot t)
    · exact ⟨creds, hsetup.complete.loads hdata, hsetup.complete, a, c₀, hargs, rfl, hsetup⟩
  session _ t key hres := by
    obtain ⟨creds, x, hloads, hauth, hkey⟩ := h.session t key (Except.ok.inj hres)
    exact ⟨creds, hloads, hauth.complete, a, x, hargs, rfl, hauth, hkey⟩

theorem FileLife.step {dir : String} {o₀ : Option File} {h : List (Command × Ran)}
    {d : Disk String} (hl : FileLife S (credentialsIn dir) o₀ h (d (credentialsIn dir)))
    (c : Command) :
    FileLife S (credentialsIn dir) o₀ ((c, (c.run S d).2) :: h)
      ((c.run S d).1 (credentialsIn dir)) := by
  refine hl.cons ?_
  have hended : ∀ ended, parseArgs .initial c.argv = ended → (∀ a, ended ≠ .run a) →
      ¬ c.On (credentialsIn dir) := by
    rintro _ rfl hnot ⟨a, ha, -⟩
    exact hnot a ha
  unfold Command.run
  cases hargs : parseArgs .initial c.argv with
  | help => exact .of_other rfl (hended _ hargs fun _ h => by cases h)
  | invalid => exact .of_other rfl (hended _ hargs fun _ h => by cases h)
  | run a =>
      have hcommanded := clientMain_ends (S := S) a c.meets (c.start d) rfl
      by_cases hpath : a.credPath = credentialsIn dir
      · rw [← hpath]
        exact .ran hargs hcommanded
      · refine .of_other (hcommanded.others _ (Ne.symm hpath)
          (tmpPath_ne_credentialsIn _ _).symm) ?_
        rintro ⟨a', ha', hpath'⟩
        cases hargs.symm.trans ha'
        exact hpath hpath'

end ZkArche.C
