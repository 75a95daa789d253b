import Mathlib.Tactic
import Tandem.Host.World
import Tandem.Proofs.Run.Scene

/-!
# A host as surroundings

What is known of runs in any surroundings is to hold of runs on a host. A host has a console and keeps
diagnostics, and surroundings have neither; so the two are run side by side, and what they do is compared
step by step.

Two computations are *alike* if from related states they give the same answer and come to related
states (`Alike`). If all that a run can ask for is alike, so is the run (`Services.AllAlike.run`).
Nothing on a host goes by the diagnostics, and nothing but reports and comparisons goes by the console.
So a run on a host is a run in the surroundings that the host is without its console (`World.run_eq`),
with one exception: a diff program is killed when the console is full, and may leave less behind than
it would have.

How programs are run on a host, and which calls a run makes there, needs no such comparison: a world is
a platform as it is (`World.platform`), and gives a run its services (`World.services`).
-/

namespace Tandem

variable {σ τ α β η : Type}

/-! ### Side by side -/

/-- From related states, the two computations give the same answer and come to related states. -/
def Alike (R : σ → τ → Prop) (x : StateM σ α) (y : StateM τ α) : Prop :=
  ∀ w v, R w v → (x w).1 = (y v).1 ∧ R (x w).2 (y v).2

namespace Alike

variable {R : σ → τ → Prop} {x : StateM σ α} {y : StateM τ α}

theorem pure (a : α) : Alike R (Pure.pure a : StateM σ α) (Pure.pure a) :=
  fun _ _ h => ⟨rfl, h⟩

theorem bind {f : α → StateM σ β} {g : α → StateM τ β} (hx : Alike R x y)
    (hf : ∀ a, Alike R (f a) (g a)) : Alike R (x >>= f) (y >>= g) := by
  intro w v h
  obtain ⟨hanswer, hstates⟩ := hx w v h
  have hrest := hf (x w).1 _ _ hstates
  rw [hanswer] at hrest
  show (f (x w).1 (x w).2).1 = (g (y v).1 (y v).2).1 ∧ R (f (x w).1 (x w).2).2 (g (y v).1 (y v).2).2
  rw [hanswer]
  exact hrest

/-- The answers may be put in other words on both sides. -/
theorem map (hx : Alike R x y) (f : α → β) : Alike R (f <$> x) (f <$> y) := by
  intro w v h
  obtain ⟨hanswer, hstates⟩ := hx w v h
  exact ⟨congrArg f hanswer, hstates⟩

/-- An error ends both attempts. -/
theorem attempt_bind {m : Attempt σ α} {m' : Attempt τ α} {f : α → Attempt σ β}
    {g : α → Attempt τ β} (hm : Alike R m.run m'.run) (hf : ∀ a, Alike R (f a).run (g a).run) :
    Alike R (m >>= f).run (m' >>= g).run := by
  rw [ExceptT.run_bind, ExceptT.run_bind]
  refine hm.bind fun r => ?_
  cases r with
  | error e => exact pure _
  | ok a => exact hf a

end Alike

/-- All that a run can ask for is alike. -/
structure Services.AllAlike (R : σ → τ → Prop) (s : Services σ) (t : Services τ) : Prop where
  list : ∀ dir, Alike R (s.list dir) (t.list dir)
  makeDir : ∀ dir, Alike R (s.makeDir dir) (t.makeDir dir)
  launch : ∀ command stdin stdout,
    Alike R (s.launch command stdin stdout) (t.launch command stdin stdout)
  compare : ∀ expected actual, Alike R (s.compare expected actual) (t.compare expected actual)
  report : ∀ e, Alike R (s.report e) (t.report e)
  note : ∀ n, Alike R (s.note n) (t.note n)

namespace Services.AllAlike

variable {R : σ → τ → Prop} {s : Services σ} {t : Services τ}

theorem announce (h : s.AllAlike R t) (e : Event) :
    Alike R (s.announce e).run (t.announce e).run :=
  (h.report e).map _

theorem ensureDir (h : s.AllAlike R t) (dir : Path) :
    Alike R (s.ensureDir dir).run (t.ensureDir dir).run :=
  (h.makeDir dir).map _

/-- What cannot end a run. -/
theorem lift {x : StateM σ α} {y : StateM τ α} (h : Alike R x y) :
    Alike R (liftM x : Attempt σ α).run (liftM y : Attempt τ α).run :=
  h.map Except.ok

variable (config : Config)

theorem judge (h : s.AllAlike R t) (case : TestCase) (reference candidate : RunStatus) :
    Alike R (s.judge config case reference candidate).run
      (t.judge config case reference candidate).run := by
  by_cases hcodes : reference.code = 0 ∧ candidate.code = 0
  · rw [s.judge_of_succeeded config case hcodes, t.judge_of_succeeded config case hcodes]
    refine (h.announce _).attempt_bind fun _ => ?_
    refine Alike.attempt_bind (h.compare _ _) fun verdict => ?_
    exact (h.announce _).attempt_bind fun _ => Alike.pure _
  · rw [s.judge_of_failed config case hcodes, t.judge_of_failed config case hcodes]
    exact (h.announce _).attempt_bind fun _ => Alike.pure _

theorem runCase (h : s.AllAlike R t) (case : TestCase) :
    Alike R (s.runCase config case).run (t.runCase config case).run := by
  rw [Services.runCase_eq, Services.runCase_eq]
  refine (lift (h.note _)).attempt_bind fun _ => ?_
  refine (lift (h.launch _ _ _)).attempt_bind fun reference => ?_
  refine (lift (h.note _)).attempt_bind fun _ => ?_
  refine (lift (h.launch _ _ _)).attempt_bind fun candidate => ?_
  exact h.judge config case reference candidate

theorem runCases (h : s.AllAlike R t) (cases : List TestCase) :
    Alike R (s.runCases config cases).run (t.runCases config cases).run := by
  induction cases with
  | nil => exact Alike.pure _
  | cons case cases ih =>
    refine (h.runCase config case).attempt_bind fun result => ?_
    exact ih.attempt_bind fun results => Alike.pure _

/-- **Runs that can ask for what is alike are alike.** -/
theorem run (h : s.AllAlike R t) : Alike R (s.run config).run (t.run config).run := by
  have hdiscover : Alike R (s.discover config.testDir).run (t.discover config.testDir).run := by
    refine Alike.attempt_bind ((h.list _).map _) fun cases => ?_
    exact (lift (h.note _)).attempt_bind fun _ => Alike.pure _
  refine hdiscover.attempt_bind fun cases => ?_
  refine (h.ensureDir _).attempt_bind fun _ => ?_
  refine (h.ensureDir _).attempt_bind fun _ => ?_
  refine (h.announce _).attempt_bind fun _ => ?_
  refine (h.runCases config cases).attempt_bind fun results => ?_
  exact (lift (h.note _)).attempt_bind fun _ => Alike.pure _

end Services.AllAlike

/-! ### The host without its console -/

namespace Host.World

/-- The host as surroundings: all but reports and what is told of a comparison. -/
def surroundings : Surroundings World where
  list p := fun w => (w.store.list w.place p, w)
  makeDir p := fun w => w.ensureDir p
  launch := platform.run
  read w := w.store.read w.place
  tool command expected actual := fun w => w.runTool command expected actual

/-- A world with another console and with other diagnostics. -/
def dressed (u : World) (c : Console) (diagnostics : List Diagnostic) : World :=
  { u with console := c, diagnostics }

/-- The second world is the first one with the console `c` and with other diagnostics. -/
def DressedAs (c : Console) (u w : World) : Prop :=
  ∃ diagnostics, w = u.dressed c diagnostics

/-- The computation looks neither at the console nor at the diagnostics, and leaves the console alone. -/
def Blind (x : StateM World α) : Prop :=
  ∀ c, Alike (DressedAs c) x x

namespace Blind

variable {x : StateM World α} {f : α → StateM World β}

theorem pure (a : α) : Blind (Pure.pure a) :=
  fun _ => Alike.pure a

theorem bind (hx : Blind x) (hf : ∀ a, Blind (f a)) : Blind (x >>= f) :=
  fun c => (hx c).bind fun a => hf a c

theorem console_eq (hx : Blind x) (u : World) : (x u).2.console = u.console := by
  obtain ⟨-, diagnostics, h⟩ := hx u.console u u ⟨u.diagnostics, rfl⟩
  have hconsole := congrArg World.console h
  exact hconsole

end Blind

/-! ### What a host does without its console -/

theorem blind_note (n : Note) : Blind (platform.note n) := by
  rintro c u _ ⟨diagnostics, rfl⟩
  exact ⟨rfl, .note n :: diagnostics, rfl⟩

theorem blind_list (p : Path) : Blind fun w => (w.store.list w.place p, w) := by
  rintro c u _ ⟨diagnostics, rfl⟩
  exact ⟨rfl, diagnostics, rfl⟩

theorem blind_ensureDir (p : Path) : Blind fun w => w.ensureDir p := by
  rintro c u _ ⟨diagnostics, rfl⟩
  exact ⟨rfl, diagnostics, rfl⟩

theorem blind_isDir (p : Path) : Blind (platform.isDir p) := by
  rintro c u _ ⟨diagnostics, rfl⟩
  exact ⟨rfl, diagnostics, rfl⟩

theorem blind_openFile (mode : Mode) (p : Path) : Blind fun w => w.openFile mode p := by
  rintro c u _ ⟨diagnostics, rfl⟩
  have hopen : (u.dressed c diagnostics).system.openFile (u.dressed c diagnostics).place [] mode p
      = u.system.openFile u.place [] mode p := rfl
  simp only [openFile, hopen]
  rcases u.system.openFile u.place [] mode p with fault | ⟨opening, system⟩ <;>
    exact ⟨rfl, diagnostics, rfl⟩

theorem blind_start (command : Command) (input output : ℕ) :
    Blind (platform.start command input output) := by
  rintro c u _ ⟨diagnostics, rfl⟩
  have hprepare : (u.dressed c diagnostics).prepare command [] = u.prepare command [] := rfl
  rcases hready : u.prepare command [] with fault | ready
  · simp only [platform, start, hprepare, hready]
    exact ⟨trivial, diagnostics, rfl⟩
  · simp only [platform, start, hprepare, hready]
    -- what the program says is added to the diagnostics
    exact ⟨rfl, (execute ready input output u).2.system.said.map .text ++ diagnostics, rfl⟩

/-- **A program is run without a look at the console.** -/
theorem blind_run (command : Command) (stdin stdout : Path) :
    Blind (platform.run command stdin stdout) := by
  have hopenFile : Blind (platform.openFile stdin) := by
    refine (blind_isDir stdin).bind fun r => ?_
    rcases r with fault | _ | _
    · exact Blind.pure _
    · exact blind_openFile .read stdin
    · exact Blind.pure _
  refine hopenFile.bind fun opened => ?_
  rcases opened with fault | input
  · exact (blind_note _).bind fun _ => Blind.pure _
  refine (blind_openFile .write stdout).bind fun created => ?_
  rcases created with fault | output
  · exact (blind_note _).bind fun _ => Blind.pure _
  refine (blind_start command input output).bind fun started => ?_
  rcases started with fault | status
  · exact (blind_note _).bind fun _ => Blind.pure _
  · exact Blind.pure _

/-! ### The console put aside -/

/-- The world `v` is the world `w` without its console `c`, diagnostics apart. If outputs are compared by
a diff program, the console has no limit. -/
def PutAside (choice : DiffChoice) (w : World) : World × Console → Prop
  | (v, c) => DressedAs c v w ∧ v.console = {} ∧ (choice = .builtin ∨ c.limit = none)

variable {choice : DiffChoice}

/-- What does not look at the console can be done with the console put aside. -/
theorem Blind.alike {x : StateM World α} (hx : Blind x) :
    Alike (PutAside choice) x (Surroundings.offConsole x) := by
  rintro w ⟨v, c⟩ ⟨hdressed, hconsole, hlimit⟩
  obtain ⟨hanswer, hdressed'⟩ := hx c v w hdressed
  exact ⟨hanswer.symm, hdressed', (hx.console_eq v).trans hconsole, hlimit⟩

theorem alike_report (e : Event) :
    Alike (PutAside choice) ((services choice).report e) ((surroundings.services choice).report e) := by
  rintro _ ⟨v, c⟩ ⟨⟨diagnostics, rfl⟩, hconsole, hlimit⟩
  refine ⟨rfl, ⟨diagnostics, rfl⟩, hconsole, hlimit.imp_right fun h => ?_⟩
  rw [← h]
  show (c.report e).1.limit = c.limit
  rw [Console.report_fst]
  rfl

/-- A diff program is run without a look at the console, if the console has no limit: then its output
is all it writes. -/
theorem runTool_dressed (command : Command) (expected actual : Path) {v : World} {c : Console}
    (hlimit : c.limit = none) (hconsole : v.console.limit = none) (diagnostics : List Diagnostic) :
    ∃ later, (v.dressed c diagnostics).runTool command expected actual
      = ((v.runTool command expected actual).1,
          (v.runTool command expected actual).2.dressed c later) := by
  have hroom : (v.dressed c diagnostics).room = v.room := by
    simp only [room, dressed, hlimit, hconsole, Option.map_none]
  have hprepare : (v.dressed c diagnostics).prepare command [expected, actual]
      = v.prepare command [expected, actual] := rfl
  rcases hready : v.prepare command [expected, actual] with fault | ready
  · exact ⟨diagnostics, by simp only [runTool, hprepare, hready]⟩
  · refine ⟨((v.dressed c diagnostics).runTool command expected actual).2.diagnostics, ?_⟩
    simp only [runTool, hprepare, hready, hroom]
    rfl

theorem runTool_console (command : Command) (expected actual : Path) (w : World) :
    (w.runTool command expected actual).2.console = w.console := by
  rw [runTool]
  split <;> rfl

theorem alike_compare (expected actual : Path) :
    Alike (PutAside choice) ((services choice).compare expected actual)
      ((surroundings.services choice).compare expected actual) := by
  rintro _ ⟨v, c⟩ ⟨⟨diagnostics, rfl⟩, hconsole, hlimit⟩
  -- what is told of a comparison leaves the limit of the console alone
  have htell (finding : Differ.Finding) : (finding.tell c).1.limit = c.limit := by
    rw [Differ.Finding.tell_fst]
    rfl
  cases choice with
  | builtin => exact ⟨rfl, ⟨diagnostics, rfl⟩, hconsole, .inl rfl⟩
  | external command =>
    have hunlimited : c.limit = none := hlimit.resolve_left nofun
    obtain ⟨later, hrun⟩ :=
      runTool_dressed command expected actual hunlimited (congrArg Console.limit hconsole) diagnostics
    have hput := runTool_console command expected actual v
    rcases htool : v.runTool command expected actual with ⟨tool, v'⟩
    rw [htool] at hrun hput
    have hleft : (services (.external command)).compare expected actual (v.dressed c diagnostics)
        = ((Differ.external command tool c).2,
            v'.dressed (Differ.external command tool c).1 later) := by
      simp only [services, compare, hrun]
      rfl
    have hright : (surroundings.services (.external command)).compare expected actual (v, c)
        = ((Differ.external command tool c).2, v', (Differ.external command tool c).1) := by
      simp only [Surroundings.services, Surroundings.compare, surroundings, htool]
    rw [hleft, hright]
    refine ⟨rfl, ⟨later, rfl⟩, hput.trans hconsole, .inr ?_⟩
    rw [Differ.external_eq_tell, htell, hunlimited]

/-- **All that a run asks of a host** is what it asks of the host as surroundings. -/
theorem allAlike_services (choice : DiffChoice) :
    (services choice).AllAlike (PutAside choice) (surroundings.services choice) where
  list p := (blind_list p).alike
  makeDir p := (blind_ensureDir p).alike
  launch command stdin stdout := (blind_run command stdin stdout).alike
  compare := alike_compare
  report := alike_report
  note n := by
    rintro _ ⟨v, c⟩ ⟨⟨diagnostics, rfl⟩, hconsole, hlimit⟩
    exact ⟨rfl, ⟨.note n :: diagnostics, rfl⟩, hconsole, hlimit⟩

/-- **A run on a host is a run in the surroundings that the host is without its console**: the result,
what is left on the console and what is left on the system are the same. If outputs are compared by a
diff program, the console has no limit. -/
theorem run_eq (config : Config) (w : World)
    (h : config.diff = .builtin ∨ w.console.limit = none) :
    let alone := surroundings.run config { w with console := {} } w.console
    (w.run config).1 = alone.1 ∧ (w.run config).2.console = alone.2.2 ∧
      (w.run config).2.system = alone.2.1.system := by
  obtain ⟨hresult, ⟨diagnostics, hworld⟩, -, -⟩ :=
    (allAlike_services config.diff).run config w ({ w with console := {} }, w.console)
      ⟨⟨w.diagnostics, rfl⟩, rfl, h⟩
  have hconsole := congrArg World.console hworld
  have hsystem := congrArg World.system hworld
  exact ⟨hresult, hconsole, hsystem⟩

end Host.World

end Tandem
