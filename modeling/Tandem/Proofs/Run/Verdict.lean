import Tandem.Proofs.Process
import Tandem.Proofs.Run.Bench
import Tandem.Proofs.TestCase

/-!
# Verdicts are earned

In a run that gives results, the result of a case is that of the case alone, run in the state in which
it gets its turn (`Services.runCase_turn`). On a test bench, that state is a disk, on which anything may
stand from earlier cases and earlier runs. If the case can be read there and both of its outputs can be
created, none of this counts: the verdict depends only on what the two programs make of the case
(`Bench.verdict_sound`).

The argument follows a case through the disk. Its outputs are at two places, since the output directories
are apart, and it is not one of them itself (`Tandem.Proofs.Path`). So each program finds the case as it
was, leaves its own output and nothing else (`Bench.launches_eq`), and the comparison reads the two
outputs (`Bench.find_sound`).
-/

namespace Tandem

/-! ### The turn of a case -/

namespace Services

variable {σ : Type} (s : Services σ) (config : Config) {case : TestCase} {cases : List TestCase}
  {w w' : σ} {r : CaseResult} {results : List CaseResult}

/-- A run up to the turn of the case with number `n`. -/
def runUpTo (n : ℕ) : Attempt σ (List CaseResult) := do
  let cases ← s.discover config.testDir
  s.ensureDir config.expectedDir
  s.ensureDir config.resultsDir
  s.announce (.runStart cases.length)
  s.runCases config (cases.take n)

/-- The state in which the case with number `n` gets its turn. -/
def turn (w : σ) (n : ℕ) : σ :=
  ((s.runUpTo config n).run w).2

variable {s config}

/-- There is one result for each case, and it is what the case gives after those before it. -/
theorem runCases_ok (h : (s.runCases config cases).run w = (.ok results, w')) :
    results.map CaseResult.case = cases ∧
    ∀ (n : ℕ) (r : CaseResult), results[n]? = some r →
      ∃ earlier before after, (s.runCases config (cases.take n)).run w = (.ok earlier, before) ∧
        (s.runCase config r.case).run before = (.ok r, after) := by
  induction cases generalizing w results with
  | nil =>
    cases h
    exact ⟨rfl, fun n r hr => by simp at hr⟩
  | cons case cases ih =>
    obtain ⟨first, w₁, hfirst, h⟩ := Attempt.of_run_bind_ok h
    obtain ⟨others, w₂, hothers, h⟩ := Attempt.of_run_bind_ok h
    cases h
    have hcase := (runCase_ok hfirst).1
    obtain ⟨hcases, hturns⟩ := ih hothers
    refine ⟨by rw [List.map_cons, hcase, hcases], fun n r hr => ?_⟩
    cases n with
    | zero =>
      obtain rfl : first = r := by simpa using hr
      exact ⟨[], w, w₁, rfl, hcase ▸ hfirst⟩
    | succ n =>
      -- the cases before it are the first one and `n` of the others
      obtain ⟨earlier, before, after, hearlier, hr⟩ := hturns n r (by simpa using hr)
      refine ⟨first :: earlier, before, after, ?_, hr⟩
      rw [List.take_succ_cons, runCases, Attempt.run_bind_ok hfirst, Attempt.run_bind_ok hearlier]
      rfl

/-- **A run judges each case by itself**, in the state in which it gets its turn. -/
theorem runCase_turn (h : (s.run config).run w = (.ok results, w')) :
    TestCase.discover config.testDir (s.list config.testDir w).1
      = .ok (results.map CaseResult.case) ∧
    ∀ (n : ℕ) (r : CaseResult), results[n]? = some r →
      ∃ after, (s.runCase config r.case).run (s.turn config w n) = (.ok r, after) := by
  obtain ⟨cases, w₁, hdiscover, h⟩ := Attempt.of_run_bind_ok h
  obtain ⟨_, w₂, hexpected, h⟩ := Attempt.of_run_bind_ok h
  obtain ⟨_, w₃, hresults, h⟩ := Attempt.of_run_bind_ok h
  obtain ⟨_, w₄, hstart, h⟩ := Attempt.of_run_bind_ok h
  obtain ⟨results', w₅, hcases, h⟩ := Attempt.of_run_bind_ok h
  obtain ⟨_, w₆, -, h⟩ := Attempt.of_run_bind_ok h
  cases h
  obtain ⟨hmap, hturns⟩ := runCases_ok hcases
  refine ⟨?_, fun n r hr => ?_⟩
  · obtain ⟨_, _, hlist, h⟩ := Attempt.of_run_bind_ok hdiscover
    obtain ⟨_, _, -, h⟩ := Attempt.of_run_bind_ok h
    cases h
    rw [hmap]
    exact congrArg Prod.fst hlist
  · obtain ⟨earlier, before, after, hearlier, hr⟩ := hturns n r hr
    -- nothing failed before this case, so a run up to its turn takes the same steps
    have hturn : s.turn config w n = before := by
      rw [turn, runUpTo, Attempt.run_bind_ok hdiscover, Attempt.run_bind_ok hexpected,
        Attempt.run_bind_ok hresults, Attempt.run_bind_ok hstart, hearlier]
    rw [hturn]
    exact ⟨after, hr⟩

end Services

/-! ### Comparisons -/

namespace Differ

variable {verdict : Verdict}

/-- The comparison of this library goes by what it reads. -/
theorem findBuiltin_sound {read : Path → Except Fault Bytes} {expected actual : Path} {e a : Bytes}
    (he : ∀ bs, read expected = .ok bs → bs = e) (ha : ∀ bs, read actual = .ok bs → bs = a)
    (h : (findBuiltin read expected actual).result = .ok verdict) :
    verdict = if e = a then .identical else .different := by
  rw [findBuiltin] at h
  rcases hexpected : read expected with fault | e'
  · rw [hexpected] at h
    cases h
  rcases hactual : read actual with fault | a'
  · rw [hexpected, hactual] at h
    cases h
  obtain rfl := he e' hexpected
  obtain rfl := ha a' hactual
  rw [hexpected, hactual] at h
  dsimp only at h
  by_cases heq : e' = a'
  · rw [if_pos heq] at h ⊢
    exact (Except.ok.inj h).symm
  · rw [if_neg heq] at h ⊢
    exact (Except.ok.inj h).symm

/-- A diff program gives a verdict only by exiting with zero or one. -/
theorem verdictOf_sound {command : Command} {status : WaitStatus} {e a : Bytes}
    (hsame : status.exitCode? = some 0 → e = a) (hdiffer : status.exitCode? = some 1 → e ≠ a)
    (h : verdictOf command status = .ok verdict) :
    verdict = if e = a then .identical else .different := by
  rcases hexit : status.exitCode? with _ | _ | _ | code
  · simp [verdictOf, hexit] at h
  · obtain rfl : Verdict.identical = verdict := by simpa [verdictOf, hexit] using h
    rw [if_pos (hsame hexit)]
  · obtain rfl : Verdict.different = verdict := by simpa [verdictOf, hexit] using h
    rw [if_neg (hdiffer hexit)]
  · simp [verdictOf, hexit] at h

end Differ

/-- **A comparison says whether what it reads is the same**, if the diff program can tell. -/
theorem Surroundings.find_sound {ω : Type} {k : Surroundings ω} {w w' : ω} {choice : DiffChoice}
    {expected actual : Path} {e a : Bytes} {finding : Differ.Finding} {verdict : Verdict}
    (hexpected : ∀ bs, k.read w expected = .ok bs → bs = e)
    (hactual : ∀ bs, k.read w actual = .ok bs → bs = a)
    (hdiff : ∀ command run, choice = .external command →
      (k.tool command expected actual w).1 = .ok run →
      (run.status.exitCode? = some 0 → e = a) ∧ (run.status.exitCode? = some 1 → e ≠ a))
    (hfind : k.find choice expected actual w = (finding, w'))
    (hresult : finding.result = .ok verdict) :
    verdict = if e = a then .identical else .different := by
  cases choice with
  | builtin =>
    obtain ⟨rfl, -⟩ := Prod.mk.inj hfind
    exact Differ.findBuiltin_sound hexpected hactual hresult
  | external command =>
    have hfinding : Differ.findExternal command (k.tool command expected actual w).1 = finding :=
      (Prod.mk.inj hfind).1
    rw [← hfinding] at hresult
    rcases htool : (k.tool command expected actual w).1 with fault | run
    · rw [htool] at hresult
      cases hresult
    · rw [htool] at hresult
      obtain ⟨hsame, hdiffer⟩ := hdiff command run rfl htool
      exact Differ.verdictOf_sound hsame hdiffer hresult

namespace Bench

variable {b : Bench} {config : Config} {d d' : Disk} {c : Console}

/-- What can be read of a file is what it holds. -/
theorem eq_of_read {p : Path} {data bs : Bytes} (h : d.get? p.components = some (.file data))
    (hread : b.read d p = .ok bs) : bs = data := by
  simpa using (read_eq_ok_iff.mp hread).2.symm.trans h

/-- **A comparison says whether two files are the same.** -/
theorem find_sound {choice : DiffChoice} {expected actual : Path} {e a : Bytes}
    {finding : Differ.Finding} {verdict : Verdict}
    (hdiff : ∀ command, choice = .external command → b.Faithful command)
    (hexpected : d.get? expected.components = some (.file e))
    (hactual : d.get? actual.components = some (.file a))
    (hfind : b.surroundings.find choice expected actual d = (finding, d'))
    (hresult : finding.result = .ok verdict) :
    verdict = if e = a then .identical else .different :=
  Surroundings.find_sound (fun _ => eq_of_read hexpected) (fun _ => eq_of_read hactual)
    (fun command run hchoice htool =>
      hdiff command hchoice d expected actual e a run hexpected hactual htool) hfind hresult

/-! ### A case on the disk -/

variable (b) in
/-- What a program writes for an input. -/
def output (command : Command) (data : Bytes) : Bytes :=
  (b.program command data).1

variable (b) in
/-- A program exits with zero on an input: the word for its end has neither a signal nor an exit code
(`WaitStatus.exitCode?_eq_some_zero_iff`). -/
def Succeeds (command : Command) (data : Bytes) : Prop :=
  (b.program command data).2.raw &&& 0xFF7F = 0

variable (b) in
/-- How running a program on an input counts. -/
def status (command : Command) (data : Bytes) : RunStatus :=
  .ofWait (b.program command data).2

variable {dir : Path} {name : Name} {data : Bytes}

theorem code_status_eq_zero_iff {command : Command} :
    (b.status command data).code = 0 ↔ b.Succeeds command data := by
  rw [status, RunStatus.code_ofWait_eq_zero_iff, WaitStatus.exitCode?_eq_some_zero_iff, Succeeds]

/-- **Both programs find the input as it was**, and each leaves its output, if the three files are at
three places. -/
theorem run_both {input expected actual : Path}
    (hinput : input.components ≠ expected.components) (hinput' : input.components ≠ actual.components)
    (houtputs : expected.components ≠ actual.components) (hread : b.read d input = .ok data)
    (hexpected : b.mayCreate d expected = .ok ()) (hactual : b.mayCreate d actual = .ok ())
    (reference candidate : Command) :
    ∃ between after,
      b.platform.run reference input expected d = (b.status reference data, between) ∧
      b.platform.run candidate input actual between = (b.status candidate data, after) ∧
      after.get? expected.components = some (.file (b.output reference data)) ∧
      after.get? actual.components = some (.file (b.output candidate data)) := by
  obtain ⟨hpermit, hfile⟩ := read_eq_ok_iff.mp hread
  obtain ⟨hpermit', habove, hnotDir⟩ := mayCreate_eq_ok_iff.mp hactual
  obtain ⟨-, -, hnotDir'⟩ := mayCreate_eq_ok_iff.mp hexpected
  -- the directory of the candidate's output is not the output of the reference, which is no directory
  have habove' : actual.components.dropLast ≠ expected.components := fun h => hnotDir' (h ▸ habove)
  set between := d.put expected.components (.file (b.output reference data))
  have hread' : b.read between input = .ok data :=
    read_eq_ok_iff.mpr ⟨hpermit, (Disk.get?_put_of_ne _ _ _ hinput).trans hfile⟩
  have hactual' : b.mayCreate between actual = .ok () := by
    refine mayCreate_eq_ok_iff.mpr ⟨hpermit', ?_, ?_⟩
    · rw [Disk.get?_put_of_ne _ _ _ habove']
      exact habove
    · rw [Disk.get?_put_of_ne _ _ _ houtputs.symm]
      exact hnotDir
  refine ⟨between, _, launch_eq _ hread hexpected hinput, launch_eq _ hread' hactual' hinput', ?_,
    Disk.get?_put_self _ _ _⟩
  rw [Disk.get?_put_of_ne _ _ _ houtputs]
  exact Disk.get?_put_self _ _ _

/-- **Both programs find the case as it was**, and each leaves its output. -/
theorem launches_eq (hname : name.Plain) (hapart : config.Apart)
    (hread : b.read d (TestCase.ofName dir name).path = .ok data)
    (hexpected : b.mayCreate d ((TestCase.ofName dir name).outputIn config.expectedDir) = .ok ())
    (hactual : b.mayCreate d ((TestCase.ofName dir name).outputIn config.resultsDir) = .ok ()) :
    ∃ after, Launches b.surroundings config (TestCase.ofName dir name) d
        (b.status config.reference data) (b.status config.candidate data) after ∧
      after.get? ((TestCase.ofName dir name).outputIn config.expectedDir).components
        = some (.file (b.output config.reference data)) ∧
      after.get? ((TestCase.ofName dir name).outputIn config.resultsDir).components
        = some (.file (b.output config.candidate data)) := by
  have hpath (out : Path) := TestCase.components_path_ne_outputIn dir out hname
  obtain ⟨between, after, hreference, hcandidate, hwrote, hwrote'⟩ := run_both (hpath _) (hpath _)
    (fun h => hapart ((TestCase.components_outputIn_eq_iff hname.2.1 hname.2.1).mp h).1) hread
    hexpected hactual config.reference config.candidate
  exact ⟨after, ⟨between, hreference, hcandidate⟩, hwrote, hwrote'⟩

variable (b) in
/-- The verdict that the outputs of both programs on an input deserve. -/
def fairVerdict (config : Config) (data : Bytes) : Option Verdict :=
  if (b.status config.reference data).code = 0 ∧ (b.status config.candidate data).code = 0 then
    some (if b.output config.reference data = b.output config.candidate data then .identical
      else .different)
  else none

/-- **A case gets the verdict that it deserves**, whatever else stands on the disk. -/
theorem verdict_of_runCase (hname : name.Plain) (hapart : config.Apart)
    (hdiff : ∀ command, config.diff = .external command → b.Faithful command)
    (hread : b.read d (TestCase.ofName dir name).path = .ok data)
    (hexpected : b.mayCreate d ((TestCase.ofName dir name).outputIn config.expectedDir) = .ok ())
    (hactual : b.mayCreate d ((TestCase.ofName dir name).outputIn config.resultsDir) = .ok ())
    {r : CaseResult} {w' : Disk × Console}
    (hrun : ((b.surroundings.services config.diff).runCase config (TestCase.ofName dir name)).run
      (d, c) = (.ok r, w')) :
    r.verdict = b.fairVerdict config data := by
  obtain ⟨after, hlaunches, he, ha⟩ := launches_eq hname hapart hread hexpected hactual
  rw [Surroundings.run_runCase hlaunches c] at hrun
  by_cases hcodes : (b.status config.reference data).code = 0 ∧
      (b.status config.candidate data).code = 0
  · obtain ⟨verdict, finding, hverdict, hfind, hresult, -⟩ :=
      Surroundings.finding_of_judge hcodes hrun
    rw [hverdict, fairVerdict, if_pos hcodes, find_sound hdiff he ha hfind hresult]
  · rw [Services.judge_of_failed _ _ _ hcodes] at hrun
    obtain ⟨_, w₁, -, hrun⟩ := Attempt.of_run_bind_ok hrun
    cases hrun
    rw [fairVerdict, if_neg hcodes]

/-! ### A whole run -/

variable (b) in
/-- The disk on which the case with number `n` gets its turn. -/
def turn (config : Config) (d : Disk) (c : Console) (n : ℕ) : Disk :=
  ((b.surroundings.services config.diff).turn config (d, c) n).1

theorem names_of_discover {cases : List TestCase} {p : Path}
    (h : TestCase.discover p (b.list d p) = .ok cases) :
    cases = (Name.inOrder (d.names p.components)).map (.ofName p) := by
  rcases hnames : (b.list d p).names with fault | names
  · rw [TestCase.discover_error hnames] at h
    cases h
  rw [TestCase.discover_ok hnames] at h
  cases h
  obtain ⟨-, -, hlisted⟩ := list_eq_ok_iff.mp (Listing.names_eq_ok_iff.mp hnames)
  rw [List.map_injective_iff.mpr (fun _ _ => Except.ok.inj) hlisted]

/-- **Verdicts are earned.** Let a configuration be set up without naming one of the output directories
by itself, and let its diff program, if it has one, tell same files from different ones. In a run that
gives results there is one for each entry of the test directory. Whatever the disk held before the run,
take any case that can be read, and whose outputs can be created, when it gets its turn. It is found
identical just when both programs exit with zero on what it holds then and write the same, different
just when both exit with zero and do not write the same, and without a verdict just when one of them
does not exit with zero. -/
theorem verdict_sound (b : Bench) {testDir : Path} {steps : List Config.Step} {config : Config}
    (hconfig : config = (Config.ofDir testDir).applyAll steps)
    (hsteps : ∀ step ∈ steps, step.setsOneDir = false)
    (hdiff : ∀ command, config.diff = .external command → b.Faithful command)
    {d : Disk} {c : Console} {results : List CaseResult}
    (hrun : (b.run config d c).1 = .ok results) :
    results.map CaseResult.case
      = (Name.inOrder (d.names testDir.components)).map (.ofName testDir) ∧
    ∀ (n : ℕ) (r : CaseResult) (data : Bytes), results[n]? = some r →
      b.read (b.turn config d c n) r.case.path = .ok data →
      b.mayCreate (b.turn config d c n) (r.case.outputIn config.expectedDir) = .ok () →
      b.mayCreate (b.turn config d c n) (r.case.outputIn config.resultsDir) = .ok () →
      (r.verdict = some .identical ↔
        (b.Succeeds config.reference data ∧ b.Succeeds config.candidate data) ∧
          b.output config.reference data = b.output config.candidate data) ∧
      (r.verdict = some .different ↔
        (b.Succeeds config.reference data ∧ b.Succeeds config.candidate data) ∧
          b.output config.reference data ≠ b.output config.candidate data) ∧
      (r.verdict = none ↔
        ¬ (b.Succeeds config.reference data ∧ b.Succeeds config.candidate data)) := by
  obtain ⟨hcases, hturns⟩ := Services.runCase_turn (Prod.ext hrun rfl)
  have hmap := names_of_discover hcases
  have htestDir : config.testDir = testDir := hconfig ▸ Config.testDir_applyAll _ _
  rw [htestDir] at hmap
  refine ⟨hmap, fun n r data hr hread hexpected hactual => ?_⟩
  -- the case is an entry of the test directory, which has a plain name
  have hmem : r.case ∈ results.map CaseResult.case :=
    List.mem_map_of_mem (List.mem_of_getElem? hr)
  rw [hmap, List.mem_map] at hmem
  obtain ⟨name, hname, hcase⟩ := hmem
  have hplain : name.Plain := d.plain_of_mem_names ((Name.perm_inOrder _).mem_iff.mp hname)
  have hapart : config.Apart := hconfig ▸ Config.apart_applyAll (Config.apart_ofDir testDir) hsteps
  obtain ⟨after, hrunCase⟩ := hturns n r hr
  rw [← hcase] at hread hexpected hactual hrunCase
  have hverdict : r.verdict = b.fairVerdict config data :=
    verdict_of_runCase hplain hapart hdiff hread hexpected hactual hrunCase
  rw [hverdict, fairVerdict]
  simp only [← code_status_eq_zero_iff]
  by_cases hcodes : (b.status config.reference data).code = 0 ∧
      (b.status config.candidate data).code = 0
  · by_cases hsame : b.output config.reference data = b.output config.candidate data <;>
      simp [hcodes, hsame]
  · simp [hcodes]

/-- A bench on which every program copies its input. -/
def copying : Bench where
  program _ data := (data, .exited 0)
  refusal _ _ := none
  tool _ _ _ _ := .error (.os .noEntry)

/-- A disk with one case, whose output in the directory of results is left from an earlier run and
longer than the case. -/
def leftover : Disk where
  entries := [
    ([.entry [0x74]], .dir),
    ([.entry [0x74], .entry [0x61]], .file [0x78]),
    ([.entry (Utf8.encode "results")], .dir),
    ([.entry (Utf8.encode "results"), .entry (0x61 :: Utf8.encode ".out")], .file [0x78, 0x79])]

/-- What an earlier run left does not count. -/
theorem verdict_sound_leftover :
    (copying.run ((Config.ofDir ⟨[0x74]⟩).applyAll [.diff .builtin]) leftover {}).1
      = .ok [⟨.ofName ⟨[0x74]⟩ [0x61], ⟨0⟩, ⟨0⟩, some .identical⟩] ∧
    (copying.Succeeds { program := Path.ofString "./sem_base.exe" } [0x78] ∧
      copying.Succeeds { program := Path.ofString "./csem" } [0x78]) ∧
    copying.output { program := Path.ofString "./sem_base.exe" } [0x78]
      = copying.output { program := Path.ofString "./csem" } [0x78] := by
  have hrun : (copying.run ((Config.ofDir ⟨[0x74]⟩).applyAll [.diff .builtin]) leftover {}).1
      = .ok [⟨.ofName ⟨[0x74]⟩ [0x61], ⟨0⟩, ⟨0⟩, some .identical⟩] := by cbv
  have hsound := (verdict_sound copying rfl (by decide) (fun _ h => by cases h) hrun).2 0 _ [0x78] rfl
    (by cbv) (by cbv) (by cbv)
  exact ⟨hrun, hsound.1.mp rfl⟩

end Bench

end Tandem
