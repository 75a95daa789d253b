import Tandem.Proofs.Run.Rerun

/-!
# The two outputs of a case

The directories for the outputs of the two programs are settings of their own, and no setting looks at
another. So an environment can make them one directory, be it by naming only one of them, or by naming
two paths that lead to one place. Then the output of the candidate takes the place of that of the
reference, and the comparison of this library compares a file with itself: it finds every case
identical and shows nothing, whatever the programs wrote (`Resolution.MixesOutputs`). A run in which this
hides a difference is `Bench.outputs_meet`.

Where a path leads is up to the file system: `./results` and `results` are two paths and one place, and a
link makes one place of any two paths. So all of this is said about any way in which paths lead to places
(`Resolution`). If the two directories are at one place, outputs are mixed up; if they are at two, the
output of the reference is still there when outputs are compared, and a verdict says whether the programs
wrote the same (`Resolution.KeepsOutputs`). An output root takes the directories apart; without one, they
are where the settings lead (`Config.outputs_apart_env`).
-/

namespace Tandem

/-! ### Where paths lead -/

/-- How a file system goes by paths: each leads to a place, which is a path as well. Paths that are the
same lead to one place, and paths that are not may do so too. -/
structure Resolution where
  place : Path → Path
  congr : ∀ {p q : Path}, p.components = q.components → (place p).components = (place q).components

namespace Resolution

/-- Each path is a place of its own. -/
def spelled : Resolution where
  place p := p
  congr h := h

/-- A dot at the beginning of a path does not count. -/
def dotless : Resolution where
  place := Path.withoutDot
  congr h := by rw [Path.components_withoutDot, Path.components_withoutDot, h]

/-- The entries of the directory are where it is: none of them is a link. The directory itself may be. -/
def Direct (f : Resolution) (dir : Path) : Prop :=
  ∀ n : Name, n.Plain →
    (f.place (dir.join ⟨n⟩)).components = (f.place dir).components ++ [.entry n]

theorem direct_spelled (dir : Path) : spelled.Direct dir :=
  fun _ => Path.components_join dir

theorem direct_dotless (dir : Path) : dotless.Direct dir := by
  intro n hn
  simp only [dotless, Path.components_withoutDot, Path.components_join dir hn, List.filter_append]
  rfl

end Resolution

/-- The surroundings in which each path is followed to where it leads. -/
def Surroundings.via {ω : Type} (k : Surroundings ω) (f : Resolution) : Surroundings ω where
  list p := k.list (f.place p)
  makeDir p := k.makeDir (f.place p)
  launch command stdin stdout := k.launch command (f.place stdin) (f.place stdout)
  read w p := k.read w (f.place p)
  tool command expected actual := k.tool command (f.place expected) (f.place actual)

namespace Resolution

variable (f : Resolution) (config : Config)

/-- The output directories are at two places. -/
def Apart : Prop :=
  (f.place config.expectedDir).components ≠ (f.place config.resultsDir).components

/-- The two outputs of a case do not get in each other's way. -/
structure KeepsOutputs (case : TestCase) : Prop where
  /-- They are at two places. -/
  places : (f.place (outputPath config.expectedDir case)).components
    ≠ (f.place (outputPath config.resultsDir case)).components
  /-- On no platform does running the candidate create a file where the output of the reference is. -/
  created : ∀ {σ η : Type} (p : Platform σ η) (w : σ) {path : Path} {answer : Except Fault η},
    .create path answer ∈ p.log config.candidate case.path (outputPath config.resultsDir case) w →
      (f.place path).components ≠ (f.place (outputPath config.expectedDir case)).components
  /-- Running the candidate leaves the output of the reference as it is. -/
  kept : ∀ (b : Bench) (d : Disk),
    ((b.surroundings.via f).launch config.candidate case.path (outputPath config.resultsDir case)
        d).2.get? (f.place (outputPath config.expectedDir case)).components
      = d.get? (f.place (outputPath config.expectedDir case)).components
  /-- A verdict says whether the programs wrote the same, if the diff program can tell. -/
  earned : ∀ (b : Bench), (∀ command, config.diff = .external command → b.Faithful command) →
    ∀ {d : Disk} {c : Console} {r : CaseResult} {w' : Disk × Console} {verdict : Verdict},
      (((b.surroundings.via f).services config.diff).runCase config case).run (d, c) = (.ok r, w') →
      r.verdict = some verdict →
      ∃ data, b.read d (f.place case.path) = .ok data ∧
        verdict = if b.output config.reference data = b.output config.candidate data then .identical
          else .different

/-- The two outputs of a case are one file. -/
structure MixesOutputs (case : TestCase) : Prop where
  /-- They are at one place. -/
  places : (f.place (outputPath config.expectedDir case)).components
    = (f.place (outputPath config.resultsDir case)).components
  /-- If the candidate exits with zero, its output is where that of the reference was. -/
  overwritten : ∀ (b : Bench) {d d' : Disk} {status : RunStatus},
    (b.surroundings.via f).launch config.candidate case.path (outputPath config.resultsDir case) d
      = (status, d') → status.code = 0 →
    ∃ data, b.read d (f.place case.path) = .ok data ∧
      d'.get? (f.place (outputPath config.expectedDir case)).components
        = some (.file (b.output config.candidate data))
  /-- Whatever the programs wrote, the comparison of this library finds it identical, and shows
  nothing between the banner and the end of the case. -/
  unseen : config.diff = .builtin →
    ∀ (b : Bench) {d : Disk} {c : Console} {r : CaseResult} {w' : Disk × Console} {verdict : Verdict},
      (((b.surroundings.via f).services config.diff).runCase config case).run (d, c) = (.ok r, w') →
      r.verdict = some verdict →
      verdict = .identical ∧
        w'.2.accepted = c.accepted ++ (Wording.banner case.name ++ Wording.close)

end Resolution

/-! ### A case on a test bench -/

/-- A case with a verdict has had both programs exit with zero, its outputs have been compared, and what was
found is on the console. -/
theorem Surroundings.finding_of_verdict {ω : Type} {k : Surroundings ω} {config : Config}
    {case : TestCase} {w : ω} {c : Console} {r : CaseResult} {w' : ω × Console} {verdict : Verdict}
    (hrun : ((k.services config.diff).runCase config case).run (w, c) = (.ok r, w'))
    (hverdict : r.verdict = some verdict) :
    ∃ reference candidate after finding,
      Launches k config case w reference candidate after ∧
      (reference.code = 0 ∧ candidate.code = 0) ∧
      k.find config.diff (outputPath config.expectedDir case) (outputPath config.resultsDir case) after
        = (finding, w'.1) ∧
      finding.result = .ok verdict ∧
      w'.2.accepted = c.accepted ++
        (Wording.banner case.name ++ finding.differences ++ Wording.close) := by
  obtain ⟨reference, candidate, after, hlaunches⟩ : ∃ reference candidate after,
      Launches k config case w reference candidate after := ⟨_, _, _, _, rfl, rfl⟩
  rw [Surroundings.run_runCase hlaunches c] at hrun
  by_cases hcodes : reference.code = 0 ∧ candidate.code = 0
  · obtain ⟨verdict', finding, hverdict', hfind, hresult, hshown⟩ :=
      Surroundings.finding_of_judge hcodes hrun
    obtain rfl : verdict' = verdict := Option.some.inj (hverdict'.symm.trans hverdict)
    exact ⟨reference, candidate, after, finding, hlaunches, hcodes, hfind, hresult, hshown⟩
  · rw [Services.judge_of_failed _ _ _ hcodes] at hrun
    obtain ⟨_, _, -, hrun⟩ := Attempt.of_run_bind_ok hrun
    cases hrun
    cases hverdict

namespace Bench

variable {b : Bench} {config : Config} {d : Disk} {c : Console} {stdin stdout : Path}

/-- **Running a program changes nothing but its output.** -/
theorem get?_launch (command : Command) (hne : stdin.components ≠ stdout.components) {k : Key}
    (hk : k ≠ stdout.components) (d : Disk) :
    (b.platform.run command stdin stdout d).2.get? k = d.get? k := by
  by_cases h : ∃ data, b.read d stdin = .ok data ∧ b.mayCreate d stdout = .ok ()
  · obtain ⟨data, hread, hcreate⟩ := h
    rw [launch_eq command hread hcreate hne]
    exact Disk.get?_put_of_ne _ _ _ hk
  · rw [launch_of_not command h]

/-- A program that exits with zero has got its input and its output, and has left what it makes of the
one in the other; the directories are as they were. -/
theorem of_launch_code_eq_zero {command : Command} {status : RunStatus} {d' : Disk}
    (hne : stdin.components ≠ stdout.components)
    (hlaunch : b.platform.run command stdin stdout d = (status, d')) (hcode : status.code = 0) :
    ∃ data, b.read d stdin = .ok data ∧ b.mayCreate d stdout = .ok () ∧
      d'.get? stdout.components = some (.file (b.output command data)) ∧ Disk.SameDirs d d' := by
  by_cases h : ∃ data, b.read d stdin = .ok data ∧ b.mayCreate d stdout = .ok ()
  · obtain ⟨data, hread, hcreate⟩ := h
    obtain ⟨-, -, hnotDir⟩ := mayCreate_eq_ok_iff.mp hcreate
    obtain ⟨-, rfl⟩ := Prod.mk.inj ((launch_eq command hread hcreate hne).symm.trans hlaunch)
    exact ⟨data, hread, hcreate, Disk.get?_put_self _ _ _, Disk.sameDirs_put_file hnotDir⟩
  · obtain ⟨rfl, -⟩ := Prod.mk.inj ((launch_of_not command h).symm.trans hlaunch)
    exact absurd hcode (by decide)

section Verdict

variable {f : Resolution} {case : TestCase} {r : CaseResult} {w' : Disk × Console}
  {verdict : Verdict}

/-- **A verdict is earned** if the input and the two outputs of a case are at three places. -/
theorem verdict_earned
    (hexpected : (f.place case.path).components
      ≠ (f.place (outputPath config.expectedDir case)).components)
    (hresults : (f.place case.path).components
      ≠ (f.place (outputPath config.resultsDir case)).components)
    (houtputs : (f.place (outputPath config.expectedDir case)).components
      ≠ (f.place (outputPath config.resultsDir case)).components)
    (hdiff : ∀ command, config.diff = .external command → b.Faithful command)
    (hrun : (((b.surroundings.via f).services config.diff).runCase config case).run (d, c)
      = (.ok r, w')) (hverdict : r.verdict = some verdict) :
    ∃ data, b.read d (f.place case.path) = .ok data ∧
      verdict = if b.output config.reference data = b.output config.candidate data then .identical
        else .different := by
  obtain ⟨reference, candidate, after, finding, ⟨between, hreference, hcandidate⟩, hcodes, hfind,
    hresult, -⟩ := Surroundings.finding_of_verdict hrun hverdict
  obtain ⟨data, hread, hcreate, -, hdirs⟩ :=
    of_launch_code_eq_zero hexpected hreference hcodes.1
  obtain ⟨-, -, hcreate', -⟩ := of_launch_code_eq_zero hresults hcandidate hcodes.2
  -- what the reference wrote is no directory, so the candidate's output could be created before it
  obtain ⟨between', after', hreference', hcandidate', he, ha⟩ := run_both hexpected hresults houtputs
    hread hcreate ((mayCreate_congr hdirs _).mp hcreate') config.reference config.candidate
  obtain rfl : between' = between := (Prod.mk.inj (hreference'.symm.trans hreference)).2
  obtain rfl : after' = after := (Prod.mk.inj (hcandidate'.symm.trans hcandidate)).2
  refine ⟨data, hread, Surroundings.find_sound (fun _ => eq_of_read he) (fun _ => eq_of_read ha)
    (fun command run hchoice htool => ?_) hfind hresult⟩
  exact hdiff command hchoice _ _ _ _ _ run he ha htool

/-- **A file is not told from itself.** If the outputs of a case are at one place, each verdict that the
comparison of this library gives is that they are identical, and nothing is shown of them. -/
theorem unseen_of_one_place
    (houtputs : (f.place (outputPath config.expectedDir case)).components
      = (f.place (outputPath config.resultsDir case)).components)
    (hdiff : config.diff = .builtin)
    (hrun : (((b.surroundings.via f).services config.diff).runCase config case).run (d, c)
      = (.ok r, w')) (hverdict : r.verdict = some verdict) :
    verdict = .identical ∧
      w'.2.accepted = c.accepted ++ (Wording.banner case.name ++ Wording.close) := by
  obtain ⟨-, -, after, finding, -, -, hfind, hresult, hshown⟩ :=
    Surroundings.finding_of_verdict hrun hverdict
  have hsame : b.read after (f.place (outputPath config.resultsDir case))
      = b.read after (f.place (outputPath config.expectedDir case)) := by
    rw [read, read, permit, permit, houtputs]
  rw [hdiff] at hfind
  obtain ⟨rfl, -⟩ := Prod.mk.inj hfind
  rcases hread : b.read after (f.place (outputPath config.expectedDir case)) with fault | bs
  · simp [Differ.findBuiltin, Surroundings.via, surroundings, hread] at hresult
  · have hfinding : Differ.findBuiltin ((b.surroundings.via f).read after)
        (outputPath config.expectedDir case) (outputPath config.resultsDir case)
          = ⟨[], .ok .identical⟩ := by
      simp [Differ.findBuiltin, Surroundings.via, surroundings, hread, hsame]
    rw [hfinding] at hresult hshown
    exact ⟨(Except.ok.inj hresult).symm, by rw [hshown, List.append_nil]⟩

end Verdict

end Bench

/-! ### The outputs of a configuration -/

namespace Resolution

variable {f : Resolution} {config : Config} {dir : Path} {name : Name}

/-- Directories at two places are different paths. -/
theorem Apart.paths (h : f.Apart config) : config.Apart :=
  mt f.congr h

theorem Direct.components_outputPath {out : Path} (h : f.Direct out) (hname : name.Plain)
    (dir : Path) : (f.place (outputPath out (.ofName dir name))).components
      = (f.place out).components ++ [.entry (TestCase.ofName dir name).outputName] :=
  h _ (TestCase.plain_outputName hname.2.1 dir)

/-- A case is not where its outputs are. -/
theorem Direct.components_path_ne {out : Path} (hdir : f.Direct dir) (hout : f.Direct out)
    (hname : name.Plain) : (f.place (TestCase.ofName dir name).path).components
      ≠ (f.place (outputPath out (.ofName dir name))).components := by
  rw [hout.components_outputPath hname, TestCase.ofName, hdir name hname]
  intro heq
  obtain ⟨-, hlast⟩ := List.append_inj' heq rfl
  simp only [List.cons.injEq, Path.Component.entry.injEq, and_true] at hlast
  -- the name of an output goes on after that of the case
  exact absurd (List.self_eq_append_right.mp hlast) (by decide)

variable (hdir : f.Direct dir) (hexpected : f.Direct config.expectedDir)
  (hresults : f.Direct config.resultsDir) (hname : name.Plain)

include hdir hexpected hresults hname

/-- **Directories at two places keep outputs apart.** -/
theorem keepsOutputs (hapart : f.Apart config) : f.KeepsOutputs config (.ofName dir name) := by
  have hplaces : (f.place (outputPath config.expectedDir (.ofName dir name))).components
      ≠ (f.place (outputPath config.resultsDir (.ofName dir name))).components := by
    rw [hexpected.components_outputPath hname, hresults.components_outputPath hname]
    exact fun heq => hapart (List.append_cancel_right heq)
  have hinput := hdir.components_path_ne hresults hname
  exact {
    places := hplaces
    created := fun p w _ _ hcreate => by
      obtain rfl := (p.course_log _ _ _ w).2.created_path hcreate
      exact hplaces.symm
    kept := fun _ => Bench.get?_launch _ hinput hplaces
    earned := fun _ hdiff => Bench.verdict_earned (hdir.components_path_ne hexpected hname) hinput
      hplaces hdiff }

/-- **Directories at one place mix outputs up.** -/
theorem mixesOutputs (hmeet : ¬ f.Apart config) : f.MixesOutputs config (.ofName dir name) := by
  have hplaces : (f.place (outputPath config.expectedDir (.ofName dir name))).components
      = (f.place (outputPath config.resultsDir (.ofName dir name))).components := by
    rw [hexpected.components_outputPath hname, hresults.components_outputPath hname, not_not.mp hmeet]
  exact {
    places := hplaces
    overwritten := fun b _ _ _ hlaunch hcode => by
      obtain ⟨data, hread, -, hwrote, -⟩ := Bench.of_launch_code_eq_zero
        (hdir.components_path_ne hresults hname) hlaunch hcode
      exact ⟨data, hread, hplaces ▸ hwrote⟩
    unseen := fun hdiff _ => Bench.unseen_of_one_place hplaces hdiff }

end Resolution

/-! ### Configurations from an environment -/

/-- The text of a variable, or another one where the variable is absent or blank. -/
def Env.textOr (env : Env) (variableName default : String) : String :=
  ((env variableName).filter (!allBlank ·)).getD default

namespace Config

variable {f : Resolution} {c : Config} {steps : List Step}

/-- An output root takes the directories apart, whatever they were. -/
theorem apart_outputRoot {root : Path} (hroot : f.Direct root) (c : Config) :
    f.Apart (c.apply (.outputRoot root)) := by
  show (f.place (root.join ⟨expectedName.bytes⟩)).components
    ≠ (f.place (root.join ⟨resultsName.bytes⟩)).components
  rw [hroot _ outputNames_plain.1, hroot _ outputNames_plain.2]
  exact outputNames_ne (f.place root).components

/-- **Nothing but an output root changes whether the directories are apart**, unless one of them is
named by itself. -/
theorem apart_applyAll_iff (hroots : ∀ root, Step.outputRoot root ∈ steps → f.Direct root)
    (hsteps : ∀ step ∈ steps, step.setsOneDir = false) :
    f.Apart (c.applyAll steps) ↔ f.Apart c ∨ ∃ root, Step.outputRoot root ∈ steps := by
  induction steps generalizing c with
  | nil => simp [applyAll]
  | cons step steps ih =>
    rw [List.forall_mem_cons] at hsteps
    obtain ⟨hstep, hsteps⟩ := hsteps
    have ih := ih (c := c.apply step) (fun root h => hroots root (List.mem_cons_of_mem _ h)) hsteps
    cases step with
    | outputRoot root =>
      have hapart := apart_outputRoot (hroots root List.mem_cons_self) c
      exact iff_of_true (ih.mpr (.inl hapart)) (.inr ⟨root, List.mem_cons_self⟩)
    | reference command | candidate command | diff choice =>
      -- the directories are what they were
      exact ih.trans (or_congr Iff.rfl (by simp))
    | expectedDir dir | resultsDir dir => simp [Step.setsOneDir] at hstep

/-- Each directory is that of its own variable, or the default. -/
theorem dirs_ofEnv (testDir : Path) (env : Env) :
    (ofEnv testDir env).expectedDir
      = Path.ofString (env.textOr "DIFFTEST_EXPECTED_DIR" "expected") ∧
    (ofEnv testDir env).resultsDir
      = Path.ofString (env.textOr "DIFFTEST_RESULTS_DIR" "results") := by
  simp only [ofEnv, ofDir, expectedName, resultsName, Option.getD_map]
  exact ⟨rfl, rfl⟩

/-- **Which environments keep the outputs apart.** Let a configuration be given by an environment and be
adjusted, without naming one of the output directories by itself. The directories are different paths just
when the texts of their variables, or the defaults where these are blank or absent, spell different paths,
or when an output root is among the adjustments. Whether they are at two places depends on the same two
texts, and on where the file system takes paths. If they are, the outputs of a case do not get in each
other's way. If not, they are one file, and the comparison of this library never sees a difference. -/
theorem outputs_apart_env (testDir : Path) (env : Env) {steps : List Step} {config : Config}
    (hconfig : config = (ofEnv testDir env).applyAll steps)
    (hsteps : ∀ step ∈ steps, step.setsOneDir = false) :
    let expected := Path.ofString (env.textOr "DIFFTEST_EXPECTED_DIR" "expected")
    let results := Path.ofString (env.textOr "DIFFTEST_RESULTS_DIR" "results")
    (config.Apart ↔
      expected.components ≠ results.components ∨ ∃ root, Step.outputRoot root ∈ steps) ∧
    ∀ f : Resolution,
      (f.Apart config → config.Apart) ∧
      ((∀ root, Step.outputRoot root ∈ steps → f.Direct root) →
        (f.Apart config ↔ (f.place expected).components ≠ (f.place results).components ∨
          ∃ root, Step.outputRoot root ∈ steps)) ∧
      (f.Direct testDir → f.Direct config.expectedDir → f.Direct config.resultsDir →
        ∀ name : Name, name.Plain →
          (f.Apart config → f.KeepsOutputs config (.ofName testDir name)) ∧
          (¬ f.Apart config → f.MixesOutputs config (.ofName testDir name))) := by
  intro expected results
  have happly (f : Resolution) (hroots : ∀ root, Step.outputRoot root ∈ steps → f.Direct root) :
      f.Apart config ↔ (f.place expected).components ≠ (f.place results).components ∨
        ∃ root, Step.outputRoot root ∈ steps := by
    rw [hconfig, apart_applyAll_iff hroots hsteps, Resolution.Apart, (dirs_ofEnv testDir env).1,
      (dirs_ofEnv testDir env).2]
  refine ⟨happly .spelled fun root _ => Resolution.direct_spelled root, fun f =>
    ⟨Resolution.Apart.paths, happly f, fun hdir hexpected hresults name hname => ?_⟩⟩
  exact ⟨Resolution.keepsOutputs hdir hexpected hresults hname,
    Resolution.mixesOutputs hdir hexpected hresults hname⟩

/-- An environment in which the reference is to write where the candidate writes by default. -/
def crossed : Env := fun name =>
  if name = "DIFFTEST_EXPECTED_DIR" then some "results"
  else if name = "DIFFTEST_DIFF" then some "builtin"
  else none

/-- The same environment with another spelling of the directory. -/
def dotted : Env := fun name =>
  if name = "DIFFTEST_EXPECTED_DIR" then some "./results" else crossed name

/-- Below an output root, the outputs are apart also in such an environment. Without one they are mixed
up, also if the directory is spelled in another way. -/
theorem outputs_apart_env_root :
    Resolution.dotless.KeepsOutputs
      ((ofEnv (Path.ofString "t") crossed).applyAll [.outputRoot (Path.ofString "out")])
      (.ofName (Path.ofString "t") [0x61]) ∧
    ((ofEnv (Path.ofString "t") dotted).applyAll [.diff .builtin]).Apart ∧
    Resolution.dotless.MixesOutputs ((ofEnv (Path.ofString "t") dotted).applyAll [.diff .builtin])
      (.ofName (Path.ofString "t") [0x61]) := by
  obtain ⟨-, hplaces⟩ := outputs_apart_env (Path.ofString "t") crossed
    (rfl : _ = (ofEnv (Path.ofString "t") crossed).applyAll [.outputRoot (Path.ofString "out")])
    (by decide)
  obtain ⟨-, hiff, hcases⟩ := hplaces .dotless
  have hapart := (hiff fun root _ => Resolution.direct_dotless root).mpr
    (.inr ⟨_, List.mem_singleton_self _⟩)
  obtain ⟨hpaths, hplaces'⟩ := outputs_apart_env (Path.ofString "t") dotted
    (rfl : _ = (ofEnv (Path.ofString "t") dotted).applyAll [.diff .builtin]) (by decide)
  obtain ⟨-, hiff', hcases'⟩ := hplaces' .dotless
  have hmeet : ¬ Resolution.dotless.Apart
      ((ofEnv (Path.ofString "t") dotted).applyAll [.diff .builtin]) := by
    rw [hiff' fun root _ => Resolution.direct_dotless root]
    rintro (hne | ⟨root, hroot⟩)
    · exact hne (by decide)
    · simp at hroot
  exact ⟨(hcases (Resolution.direct_dotless _) (Resolution.direct_dotless _)
      (Resolution.direct_dotless _) [0x61] (by decide)).1 hapart,
    hpaths.mpr (.inl (by decide)),
    (hcases' (Resolution.direct_dotless _) (Resolution.direct_dotless _)
      (Resolution.direct_dotless _) [0x61] (by decide)).2 hmeet⟩

end Config

namespace Bench

/-- A bench on which every program writes its own name. -/
def naming : Bench where
  program command _ := (command.program.bytes, .exited 0)
  refusal _ _ := none
  tool _ _ _ _ := .error (.os .noEntry)

/-- A disk with one case in the directory `t`. -/
def oneCase : Disk where
  entries := [([.entry [0x74]], .dir), ([.entry [0x74], .entry [0x61]], .file [0x78])]

/-- **An environment can make the outputs meet**, and then a difference is not seen. -/
theorem outputs_meet :
    (Config.ofEnv (Path.ofString "t") Config.crossed).expectedDir.same
      (Config.ofEnv (Path.ofString "t") Config.crossed).resultsDir = true ∧
    (naming.run (Config.ofEnv (Path.ofString "t") Config.crossed) oneCase {}).1
      = .ok [⟨.ofName (Path.ofString "t") [0x61], ⟨0⟩, ⟨0⟩, some .identical⟩] ∧
    naming.output (Config.ofEnv (Path.ofString "t") Config.crossed).reference [0x78]
      ≠ naming.output (Config.ofEnv (Path.ofString "t") Config.crossed).candidate [0x78] :=
  ⟨by decide, by cbv, by decide⟩

end Bench

end Tandem
