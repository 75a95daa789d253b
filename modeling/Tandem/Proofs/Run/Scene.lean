import Mathlib.Tactic
import Tandem.Differ
import Tandem.Proofs.Console
import Tandem.Proofs.Run.Attempt
import Tandem.Proofs.Wording

/-!
# A run without its console

What a run does to its console and what the rest of the world does to the run can be told apart.
`Surroundings` are what a run asks of the world besides a console: nothing in them can see what is
written. `Performs` says what happens in a run when the console is left out: which *scenes* there
are to report, in order, and what the run ends with. A scene is the text of one case: the line of a
failure, or the banner, the differences and two line ends.
-/

namespace Tandem

/-! ### Comparisons -/

namespace Differ

/-- What a comparison has to write, and what comes of it when that is written. -/
structure Finding where
  differences : Bytes
  result : Except RunError Verdict

/-- The finding as it is told to a console. If the console does not take all of the differences, the
result does not matter any more. -/
def Finding.tell (f : Finding) (c : Console) : Console × Except RunError Verdict :=
  match c.write f.differences with
  | (c, .ok ()) => (c, f.result)
  | (c, .error fault) => (c, .error (.console fault))

/-- What the comparison of this library finds in two files. -/
def findBuiltin (read : Path → Except Fault Bytes) (expected actual : Path) : Finding :=
  match read expected, read actual with
  | .error fault, _ => ⟨[], .error (.io expected fault)⟩
  | .ok _, .error fault => ⟨[], .error (.io actual fault)⟩
  | .ok e, .ok a => if e = a then ⟨[], .ok .identical⟩ else ⟨NormalDiff.render e a, .ok .different⟩

/-- What a diff program finds. -/
def findExternal (command : Command) : Except Fault ToolRun → Finding
  | .error fault => ⟨[], .error (.diffTool command.display "could not start" (some fault))⟩
  | .ok run => ⟨run.output, verdictOf command run.status⟩

/-- What is told of a finding is its result, unless the console failed. -/
theorem Finding.result_of_tell {f : Finding} {c : Console} {verdict : Verdict}
    (h : (f.tell c).2 = .ok verdict) : f.result = .ok verdict := by
  rw [Finding.tell] at h
  rcases hw : c.write f.differences with ⟨c', fault | ⟨⟩⟩
  · rw [hw] at h
    cases h
  · rw [hw] at h
    exact h

/-- The differences are left on the console, as far as it takes them. -/
theorem Finding.tell_fst (f : Finding) (c : Console) : (f.tell c).1 = (c.write f.differences).1 := by
  rw [Finding.tell]
  rcases c.write f.differences with ⟨c', fault | ⟨⟩⟩ <;> rfl

/-- If a finding is told, its differences are on the console. -/
theorem Finding.accepted_of_tell {f : Finding} {c : Console} {verdict : Verdict}
    (h : (f.tell c).2 = .ok verdict) : (f.tell c).1.accepted = c.accepted ++ f.differences := by
  rw [tell_fst]
  refine Console.accepted_of_write_ok ?_
  rw [Finding.tell] at h
  rcases hw : c.write f.differences with ⟨c', fault | ⟨⟩⟩
  · rw [hw] at h
    cases h
  · rfl

theorem builtin_eq_tell (read : Path → Except Fault Bytes) (expected actual : Path) (c : Console) :
    builtin read expected actual c = (findBuiltin read expected actual).tell c := by
  rcases he : read expected with fault | e
  · simp [builtin, findBuiltin, Finding.tell, he, Console.write_nil]
  rcases ha : read actual with fault | a
  · simp [builtin, findBuiltin, Finding.tell, he, ha, Console.write_nil]
  by_cases heq : e = a
  · simp [builtin, findBuiltin, Finding.tell, compareBytes, he, ha, heq, Console.write_nil]
  · rcases hw : c.write (NormalDiff.render e a) with ⟨c', fault | ⟨⟩⟩ <;>
      simp [builtin, findBuiltin, Finding.tell, compareBytes, he, ha, heq, hw]

theorem external_eq_tell (command : Command) (tool : Except Fault ToolRun) (c : Console) :
    external command tool c = (findExternal command tool).tell c := by
  rcases tool with fault | run
  · simp [external, findExternal, Finding.tell, Console.write_nil]
  · rcases hw : c.write run.output with ⟨c', fault | ⟨⟩⟩ <;>
      simp [external, findExternal, Finding.tell, hw]

end Differ

/-! ### Surroundings -/

variable {ω : Type}

/-- What a run asks of a world `ω` that does not contain its console. -/
structure Surroundings (ω : Type) where
  list : Path → StateM ω Listing
  makeDir : Path → StateM ω (Except Fault Unit)
  launch : Command → (stdin stdout : Path) → StateM ω RunStatus
  /-- What is read from a file. -/
  read : ω → Path → Except Fault Bytes
  /-- Runs a diff program on two files. -/
  tool : Command → (expected actual : Path) → StateM ω (Except Fault Differ.ToolRun)

namespace Surroundings

variable (k : Surroundings ω)

/-- What a comparison finds. -/
def find (choice : DiffChoice) (expected actual : Path) : StateM ω Differ.Finding :=
  match choice with
  | .builtin => fun w => (Differ.findBuiltin (k.read w) expected actual, w)
  | .external command => Differ.findExternal command <$> k.tool command expected actual

/-- Compares two files, telling a console what is found. -/
def compare (choice : DiffChoice) (expected actual : Path) :
    StateM (ω × Console) (Except RunError Verdict) :=
  fun (w, c) => match choice with
    | .builtin =>
      let (c, result) := Differ.builtin (k.read w) expected actual c
      (result, w, c)
    | .external command =>
      let (tool, w) := k.tool command expected actual w
      let (c, result) := Differ.external command tool c
      (result, w, c)

variable {k} in
theorem compare_eq_tell {choice : DiffChoice} {expected actual : Path} {finding : Differ.Finding}
    {w w' : ω} (h : k.find choice expected actual w = (finding, w')) (c : Console) :
    k.compare choice expected actual (w, c) = ((finding.tell c).2, w', (finding.tell c).1) := by
  rcases choice with _ | command
  · cases h
    rw [← Differ.builtin_eq_tell]
    rfl
  · obtain ⟨rfl, rfl⟩ : Differ.findExternal command (k.tool command expected actual w).1 = finding ∧
        (k.tool command expected actual w).2 = w' := Prod.mk.inj h
    rw [← Differ.external_eq_tell]
    rfl

/-- Something that does not touch the console. -/
def offConsole {α : Type} (x : StateM ω α) : StateM (ω × Console) α :=
  fun (w, c) => let (a, w) := x w; (a, w, c)

/-- What a run with a console gets. Notes go elsewhere. -/
def services (choice : DiffChoice) : Services (ω × Console) where
  list dir := offConsole (k.list dir)
  makeDir dir := offConsole (k.makeDir dir)
  launch command stdin stdout := offConsole (k.launch command stdin stdout)
  compare := k.compare choice
  report e := fun (w, c) => let (c, result) := c.report e; (result, w, c)
  note _ := pure ()

/-- A run with a console. -/
def run (config : Config) (w : ω) (c : Console) :
    Except RunError (List CaseResult) × ω × Console :=
  ((k.services config.diff).run config).run (w, c)

section

variable {k} {choice : DiffChoice} {w w' : ω}

/-- Programs leave the console alone. -/
theorem run_launch {command : Command} {stdin stdout : Path} {status : RunStatus}
    (h : k.launch command stdin stdout w = (status, w')) (c : Console) :
    (liftM ((k.services choice).launch command stdin stdout) :
      Attempt (ω × Console) RunStatus).run (w, c) = (.ok status, w', c) := by
  have hrun : (liftM ((k.services choice).launch command stdin stdout) :
      Attempt (ω × Console) RunStatus).run (w, c) = (.ok (k.launch command stdin stdout w).1,
        (k.launch command stdin stdout w).2, c) := rfl
  rw [hrun, h]

/-- Reports leave everything but the console alone. -/
theorem run_announce (e : Event) (w : ω) (c : Console) :
    ((k.services choice).announce e).run (w, c)
      = ((c.report e).2.mapError .console, w, (c.report e).1) :=
  rfl

end

end Surroundings

/-! ### Scenes -/

/-- What one case puts on the console. -/
inductive Scene where
  /-- A program failed: one line. -/
  | failed (case : TestCase) (reference : Command) (referenceStatus : RunStatus)
      (candidate : Command) (candidateStatus : RunStatus)
  /-- The outputs were compared. -/
  | compared (case : TestCase) (differences : Bytes) (verdict : Verdict)
  /-- The outputs were to be compared, and the comparison failed. -/
  | brokenOff (case : TestCase) (differences : Bytes)
  deriving DecidableEq, Repr

/-- The text of a scene: the line of a failure, or the differences of a case below its banner, closed
if the comparison came to an end. -/
def Scene.text : Scene → Bytes
  | .failed case reference r candidate c =>
    Wording.failure case.name reference r.code candidate c.code
  | .compared case differences _ => Wording.banner case.name ++ differences ++ Wording.close
  | .brokenOff case differences => Wording.banner case.name ++ differences

section Performs

variable (k : Surroundings ω) (config : Config)

/-- Both programs are run on a case, one after the other. -/
def Launches (case : TestCase) (w : ω) (reference candidate : RunStatus) (w' : ω) : Prop :=
  ∃ between,
    k.launch config.reference case.path (case.outputIn config.expectedDir) w
      = (reference, between) ∧
    k.launch config.candidate case.path (case.outputIn config.resultsDir) between
      = (candidate, w')

variable {k config} in
/-- Once its programs have been run, a case is judged. -/
theorem Surroundings.run_runCase {case : TestCase} {w w' : ω} {reference candidate : RunStatus}
    (h : Launches k config case w reference candidate w') (c : Console) :
    ((k.services config.diff).runCase config case).run (w, c)
      = ((k.services config.diff).judge config case reference candidate).run (w', c) := by
  obtain ⟨between, hreference, hcandidate⟩ := h
  have hnote (n : Note) (w : ω) : (liftM ((k.services config.diff).note n) :
      Attempt (ω × Console) Unit).run (w, c) = (.ok (), w, c) := rfl
  rw [Services.runCase_eq, Attempt.run_bind_ok (hnote _ w), Attempt.run_bind_ok
    (run_launch hreference c), Attempt.run_bind_ok (hnote _ between), Attempt.run_bind_ok
    (run_launch hcandidate c)]

variable {k} in
/-- A report that did not fail has left its text on the console, and the world as it was. -/
theorem Surroundings.of_announce {choice : DiffChoice} {e : Event} {w w' : ω} {c c' : Console}
    (h : ((k.services choice).announce e).run (w, c) = (.ok (), w', c')) :
    w = w' ∧ c'.accepted = c.accepted ++ e.text := by
  rw [run_announce] at h
  obtain ⟨hreport, hrest⟩ := Prod.mk.inj h
  obtain ⟨rfl, rfl⟩ := Prod.mk.inj hrest
  refine ⟨rfl, Console.accepted_of_report_ok ?_⟩
  rcases hresult : (c.report e).2 with fault | ⟨⟩
  · rw [hresult] at hreport
    cases hreport
  · rfl

variable {k config} in
/-- If both programs exited with zero, a result has a verdict, which is what a comparison found, and its
differences are on the console, between a banner and two line ends. -/
theorem Surroundings.finding_of_judge {case : TestCase} {w w' : ω} {c c' : Console} {r : CaseResult}
    {reference candidate : RunStatus} (hcodes : reference.code = 0 ∧ candidate.code = 0)
    (h : ((k.services config.diff).judge config case reference candidate).run (w, c)
      = (.ok r, w', c')) :
    ∃ verdict finding, r.verdict = some verdict ∧
      k.find config.diff (case.outputIn config.expectedDir) (case.outputIn config.resultsDir) w
        = (finding, w') ∧ finding.result = .ok verdict ∧
      c'.accepted = c.accepted ++
        (Wording.banner case.name ++ finding.differences ++ Wording.close) := by
  rw [Services.judge_of_succeeded _ _ _ hcodes] at h
  obtain ⟨_, ⟨w₁, c₁⟩, hbanner, h⟩ := Attempt.of_run_bind_ok h
  obtain ⟨verdict, ⟨w₂, c₂⟩, hcompare, h⟩ := Attempt.of_run_bind_ok h
  obtain ⟨_, ⟨w₃, c₃⟩, hdiffed, h⟩ := Attempt.of_run_bind_ok h
  cases h
  -- neither the banner nor the report of the verdict changes the world
  obtain ⟨rfl, habove⟩ := of_announce hbanner
  obtain ⟨rfl, hbelow⟩ := of_announce hdiffed
  rcases hfind : k.find config.diff (case.outputIn config.expectedDir)
    (case.outputIn config.resultsDir) w with ⟨finding, w₃⟩
  obtain ⟨htell, hrest⟩ := Prod.mk.inj ((compare_eq_tell hfind c₁).symm.trans hcompare)
  obtain ⟨rfl, rfl⟩ := Prod.mk.inj hrest
  refine ⟨verdict, finding, rfl, rfl, Differ.Finding.result_of_tell htell, ?_⟩
  rw [hbelow, Differ.Finding.accepted_of_tell htell, habove, Event.text_banner, Event.text_diffed]
  simp only [List.append_assoc]

/-- From a world on, cases make scenes and come to an end, which leaves another world. -/
inductive Plays : List TestCase → ω → List Scene → Except RunError (List CaseResult) → ω → Prop
  | done (w : ω) : Plays [] w [] (.ok []) w
  | failed {case cases w reference candidate w₁ scenes r w'} :
    Launches k config case w reference candidate w₁ →
    ¬ (reference.code = 0 ∧ candidate.code = 0) →
    Plays cases w₁ scenes r w' →
    Plays (case :: cases) w (.failed case config.reference reference config.candidate candidate ::
      scenes) (r.map (⟨case, reference, candidate, none⟩ :: ·)) w'
  | compared {case cases w reference candidate w₁ differences verdict w₂ scenes r w'} :
    Launches k config case w reference candidate w₁ →
    reference.code = 0 ∧ candidate.code = 0 →
    k.find config.diff (case.outputIn config.expectedDir) (case.outputIn config.resultsDir) w₁
      = (⟨differences, .ok verdict⟩, w₂) →
    Plays cases w₂ scenes r w' →
    Plays (case :: cases) w (.compared case differences verdict :: scenes)
      (r.map (⟨case, reference, candidate, some verdict⟩ :: ·)) w'
  | brokenOff {case cases w reference candidate w₁ differences e w₂} :
    Launches k config case w reference candidate w₁ →
    reference.code = 0 ∧ candidate.code = 0 →
    k.find config.diff (case.outputIn config.expectedDir) (case.outputIn config.resultsDir) w₁
      = (⟨differences, .error e⟩, w₂) →
    Plays (case :: cases) w [.brokenOff case differences] (.error e) w₂

/-- From a world on, a run makes scenes and comes to an end, which leaves another world. -/
inductive Performs : ω → List Scene → Except RunError (List CaseResult) → ω → Prop
  /-- The test directory cannot be listed. -/
  | unlisted {w listing e w'} :
    k.list config.testDir w = (listing, w') →
    TestCase.discover config.testDir listing = .error e →
    Performs w [] (.error e) w'
  /-- There is no directory for the expected outputs. -/
  | noExpectedDir {w listing cases w₁ fault w'} :
    k.list config.testDir w = (listing, w₁) →
    TestCase.discover config.testDir listing = .ok cases →
    k.makeDir config.expectedDir w₁ = (.error fault, w') →
    Performs w [] (.error (.outputDir config.expectedDir fault)) w'
  /-- There is no directory for the results. -/
  | noResultsDir {w listing cases w₁ w₂ fault w'} :
    k.list config.testDir w = (listing, w₁) →
    TestCase.discover config.testDir listing = .ok cases →
    k.makeDir config.expectedDir w₁ = (.ok (), w₂) →
    k.makeDir config.resultsDir w₂ = (.error fault, w') →
    Performs w [] (.error (.outputDir config.resultsDir fault)) w'
  /-- The cases get their turns. -/
  | cases {w listing cases w₁ w₂ w₃ scenes r w'} :
    k.list config.testDir w = (listing, w₁) →
    TestCase.discover config.testDir listing = .ok cases →
    k.makeDir config.expectedDir w₁ = (.ok (), w₂) →
    k.makeDir config.resultsDir w₂ = (.ok (), w₃) →
    Plays k config cases w₃ scenes r w' →
    Performs w scenes r w'

end Performs

end Tandem
