import Mathlib.Tactic
import Tandem.Proofs.Path
import Tandem.Proofs.Run.Attempt
import Tandem.Proofs.TestCase

/-!
# What a run asks for, and in which order

Whatever its surroundings are and answer, a run asks them for the same things in the same order: the
listing of the test directory, the two output directories, the report of its start, and then, case
by case in ascending order of names, two programs and either the report of a failure or a banner, a
comparison and its report. `trace` is this sequence when nothing fails, given what the programs
exit with and what the comparisons find.

The surroundings are made to keep a log of their answers (`Services.recorded`), which changes
nothing else. The log of a run is the whole `trace`, or a beginning of it with one call more whose
answer is a failure; this failure is then what the run ends with (`run_trace`).

The argument is compositional. An attempt *traces* a set of sequences if it logs one of them, up to
a failure (`Traces`); attempts that follow one another trace the sequences joined together
(`Traces.bind`).
-/

namespace Tandem

/-! ### Calls and answers -/

/-- What a run can ask for, notes apart. -/
inductive Call where
  | list (dir : Path)
  | makeDir (dir : Path)
  | launch (command : Command) (stdin stdout : Path)
  | compare (expected actual : Path)
  | report (event : Event)
  deriving DecidableEq, Repr

/-- A call and the answer to it. -/
inductive Exchange where
  | list (dir : Path) (listing : Listing)
  | makeDir (dir : Path) (made : Except Fault Unit)
  | launch (command : Command) (stdin stdout : Path) (status : RunStatus)
  | compare (expected actual : Path) (found : Except RunError Verdict)
  | report (event : Event) (reported : Except Fault Unit)

namespace Exchange

/-- What was asked for. -/
def call : Exchange → Call
  | .list dir _ => .list dir
  | .makeDir dir _ => .makeDir dir
  | .launch command stdin stdout _ => .launch command stdin stdout
  | .compare expected actual _ => .compare expected actual
  | .report event _ => .report event

/-- The error that the answer amounts to. Each kind of call has its own kind of error; what a
program exits with is never one. -/
def error? : Exchange → Option RunError
  | .list dir listing => match listing.names with
    | .ok _ => none
    | .error fault => some (.discovery dir fault)
  | .makeDir _ (.ok ()) => none
  | .makeDir dir (.error fault) => some (.outputDir dir fault)
  | .launch .. => none
  | .compare _ _ (.ok _) => none
  | .compare _ _ (.error e) => some e
  | .report _ (.ok ()) => none
  | .report _ (.error fault) => some (.io (Path.ofString "<console>") fault)

end Exchange

/-! ### The trace of a run -/

/-- What the programs and the comparison say of one case. The verdict counts only if there is a
comparison. -/
structure Answers where
  reference : RunStatus
  candidate : RunStatus
  verdict : Verdict
  deriving DecidableEq, Repr

/-- Both programs exited with zero. -/
def Answers.BothSucceed (a : Answers) : Prop :=
  a.reference.code = 0 ∧ a.candidate.code = 0

instance : DecidablePred Answers.BothSucceed :=
  fun a => inferInstanceAs (Decidable (a.reference.code = 0 ∧ a.candidate.code = 0))

/-- The calls that one case takes once the programs have exited: a comparison between two reports,
or the report of a failure. -/
def reportTrace (config : Config) (case : TestCase) (a : Answers) : List Exchange :=
  if a.BothSucceed then
    [.report (.banner case) (.ok ()),
      .compare (outputPath config.expectedDir case) (outputPath config.resultsDir case)
        (.ok a.verdict),
      .report (.diffed case a.verdict) (.ok ())]
  else
    [.report (.failed case config.reference a.reference config.candidate a.candidate) (.ok ())]

/-- The calls that one case takes. -/
def caseTrace (config : Config) (case : TestCase) (a : Answers) : List Exchange :=
  .launch config.reference case.path (outputPath config.expectedDir case) a.reference ::
    .launch config.candidate case.path (outputPath config.resultsDir case) a.candidate ::
    reportTrace config case a

/-- What becomes of one case. -/
def caseResult (case : TestCase) (a : Answers) : CaseResult where
  case := case
  reference := a.reference
  candidate := a.candidate
  verdict := if a.BothSucceed then some a.verdict else none

/-- The calls that a run takes: `listed` are the entries of the test directory as they were listed,
and the script has the cases in the order in which they are taken, with the answers for each. -/
def trace (config : Config) (listed : List Name) (script : List (TestCase × Answers)) :
    List Exchange :=
  [.list config.testDir (.ok (listed.map .ok)), .makeDir config.expectedDir (.ok ()),
    .makeDir config.resultsDir (.ok ()), .report (.runStart script.length) (.ok ())] ++
  script.flatMap fun (case, a) => caseTrace config case a

/-- The log follows `whole` up to a call whose answer is the failure `e`. -/
def StopsAt (whole log : List Exchange) (e : RunError) : Prop :=
  ∃ before met last after, whole = before ++ met :: after ∧ log = before ++ [last] ∧
    last.call = met.call ∧ last.error? = some e

/-! ### Keeping a log -/

variable {σ α β : Type}

/-- Does something and puts what was exchanged into the log. -/
def record (x : StateM σ α) (exchange : α → Exchange) : StateM (σ × List Exchange) α :=
  fun (w, log) =>
    let (a, w) := x w
    (a, w, log ++ [exchange a])

/-- The surroundings with a log of all exchanges, the latest last. -/
def Services.recorded (s : Services σ) : Services (σ × List Exchange) where
  list dir := record (s.list dir) (.list dir)
  makeDir dir := record (s.makeDir dir) (.makeDir dir)
  launch command stdin stdout :=
    record (s.launch command stdin stdout) (.launch command stdin stdout)
  compare expected actual := record (s.compare expected actual) (.compare expected actual)
  report event := record (s.report event) (.report event)
  note n := fun (w, log) => ((), (s.note n w).2, log)

/-- The log of a run. -/
def Services.log (s : Services σ) (config : Config) (w : σ) : List Exchange :=
  ((s.recorded.run config).run (w, [])).2.2

/-! ### Attempts that trace -/

/-- The log and the result are those of an attempt that takes the calls `whole` and yields `value`
unless a call fails. -/
def Follows (whole : List Exchange) (value : α) (log : List Exchange) :
    Except RunError α → Prop
  | .ok a => log = whole ∧ a = value
  | .error e => StopsAt whole log e

/-- From every state, the attempt `m` takes one of the sequences of calls in `T`, up to a failure,
and yields the value that goes with it; `recorded` is the same attempt with a log. -/
def Traces (m : Attempt σ α) (recorded : Attempt (σ × List Exchange) α)
    (T : List Exchange → α → Prop) : Prop :=
  ∀ w log, ∃ whole value new, T whole value ∧ (∀ x ∈ whole, x.error? = none) ∧
    recorded.run (w, log) = ((m.run w).1, (m.run w).2, log ++ new) ∧
    Follows whole value new (m.run w).1

theorem StopsAt.append_right {whole log : List Exchange} {e : RunError} (h : StopsAt whole log e)
    (more : List Exchange) : StopsAt (whole ++ more) log e := by
  obtain ⟨before, met, last, after, rfl, rfl, hcall, herror⟩ := h
  exact ⟨before, met, last, after ++ more, by simp, rfl, hcall, herror⟩

theorem StopsAt.append_left {whole log : List Exchange} {e : RunError} (h : StopsAt whole log e)
    (first : List Exchange) : StopsAt (first ++ whole) (first ++ log) e := by
  obtain ⟨before, met, last, after, rfl, rfl, hcall, herror⟩ := h
  exact ⟨first ++ before, met, last, after, by simp, by simp, hcall, herror⟩

theorem Follows.append_left {whole log : List Exchange} {value : α} {r : Except RunError α}
    (h : Follows whole value log r) (first : List Exchange) :
    Follows (first ++ whole) value (first ++ log) r := by
  rcases r with e | a
  · exact StopsAt.append_left h first
  · obtain ⟨rfl, rfl⟩ := h
    exact ⟨rfl, rfl⟩

namespace Traces

variable {m : Attempt σ α} {m' : Attempt (σ × List Exchange) α} {f : α → Attempt σ β}
  {f' : α → Attempt (σ × List Exchange) β} {T T' : List Exchange → α → Prop}
  {U : α → List Exchange → β → Prop}

theorem mono (h : Traces m m' T) (hT : ∀ whole value, T whole value → T' whole value) :
    Traces m m' T' := by
  intro w log
  obtain ⟨whole, value, new, hwhole, hrest⟩ := h w log
  exact ⟨whole, value, new, hT _ _ hwhole, hrest⟩

theorem pure (a : α) :
    Traces (Pure.pure a : Attempt σ α) (Pure.pure a) fun whole value => whole = [] ∧ value = a :=
  fun w log => ⟨[], a, [], ⟨rfl, rfl⟩, by simp, by simp [Attempt.run_pure], rfl, rfl⟩

/-- **Attempts that follow one another trace the sequences joined together.** -/
theorem bind (hm : Traces m m' T) (hf : ∀ a, Traces (f a) (f' a) (U a)) :
    Traces (m >>= f) (m' >>= f') fun whole b =>
      ∃ first a second, whole = first ++ second ∧ T first a ∧ U a second b := by
  intro w log
  obtain ⟨first, a, new, hT, hfirst, hrun, hfollows⟩ := hm w log
  rcases hr : m.run w with ⟨e | value, w₁⟩
  · -- the second attempt is not made, but what it would have taken is part of the whole
    obtain ⟨second, b, -, hU, hsecond, -, -⟩ := hf a w₁ log
    rw [hr] at hrun hfollows
    refine ⟨first ++ second, b, new, ⟨first, a, second, rfl, hT, hU⟩, ?_, ?_, ?_⟩
    · simpa [or_imp, forall_and] using ⟨hfirst, hsecond⟩
    · rw [Attempt.run_bind_error hrun, Attempt.run_bind_error hr]
    · rw [Attempt.run_bind_error hr]
      exact StopsAt.append_right hfollows second
  · rw [hr] at hrun hfollows
    obtain ⟨rfl, rfl⟩ := hfollows
    obtain ⟨second, b, new', hU, hsecond, hrun', hfollows'⟩ := hf value w₁ (log ++ new)
    refine ⟨new ++ second, b, new ++ new', ⟨new, value, second, rfl, hT, hU⟩, ?_, ?_, ?_⟩
    · simpa [or_imp, forall_and] using ⟨hfirst, hsecond⟩
    · rw [Attempt.run_bind_ok hrun, Attempt.run_bind_ok hr, hrun', List.append_assoc]
    · rw [Attempt.run_bind_ok hr]
      exact hfollows'.append_left new

/-- One call, whose answer is turned into a value or an error of the run. -/
theorem exchange {δ : Type} (x : StateM σ δ) (e : δ → Exchange) (result : δ → Except RunError α)
    (hok : ∀ d a, result d = .ok a → T [e d] a ∧ (e d).error? = none)
    (herror : ∀ d error, result d = .error error → (e d).error? = some error ∧
      ∃ met a, T [met] a ∧ met.error? = none ∧ (e d).call = met.call) :
    Traces (ExceptT.mk (result <$> x)) (ExceptT.mk (result <$> record x e)) T := by
  intro w log
  have hrun : (ExceptT.mk (result <$> x)).run w = (result (x w).1, (x w).2) := rfl
  have hrun' : (ExceptT.mk (result <$> record x e)).run (w, log)
      = (result (x w).1, (x w).2, log ++ [e (x w).1]) := rfl
  rw [hrun, hrun']
  rcases hr : result (x w).1 with error | a
  · obtain ⟨hfails, met, a, hT, hmet, hcall⟩ := herror _ _ hr
    exact ⟨[met], a, [e (x w).1], hT, by simpa using hmet, rfl,
      [], met, e (x w).1, [], rfl, rfl, hcall, hfails⟩
  · obtain ⟨hT, hnone⟩ := hok _ _ hr
    exact ⟨[e (x w).1], a, [e (x w).1], hT, by simpa using hnone, rfl, rfl, rfl⟩

end Traces

/-! ### The parts of a run -/

section Parts

variable (s : Services σ) (config : Config)

theorem traces_note (n : Note) :
    Traces (liftM (s.note n) : Attempt σ Unit) (liftM (s.recorded.note n))
      fun whole _ => whole = [] :=
  fun w log => ⟨[], (), [], rfl, by simp, by simp [Attempt.run_lift, Services.recorded],
    by simp [Attempt.run_lift, Follows]⟩

theorem traces_launch (command : Command) (stdin stdout : Path) :
    Traces (liftM (s.launch command stdin stdout) : Attempt σ RunStatus)
      (liftM (s.recorded.launch command stdin stdout))
      fun whole status => whole = [.launch command stdin stdout status] := by
  refine Traces.exchange _ _ .ok (fun status a h => ?_) (fun status e h => by cases h)
  cases h
  exact ⟨rfl, rfl⟩

theorem traces_announce (event : Event) :
    Traces (s.announce event) (s.recorded.announce event)
      fun whole _ => whole = [.report event (.ok ())] := by
  refine Traces.exchange _ _ _ ?_ ?_
  · rintro (fault | _) a h
    · cases h
    · exact ⟨rfl, rfl⟩
  · rintro (fault | _) e h
    · cases h
      exact ⟨rfl, .report event (.ok ()), (), rfl, rfl, rfl⟩
    · cases h

theorem traces_ensureDir (dir : Path) :
    Traces (s.ensureDir dir) (s.recorded.ensureDir dir)
      fun whole _ => whole = [.makeDir dir (.ok ())] := by
  refine Traces.exchange _ _ _ ?_ ?_
  · rintro (fault | _) a h
    · cases h
    · exact ⟨rfl, rfl⟩
  · rintro (fault | _) e h
    · cases h
      exact ⟨rfl, .makeDir dir (.ok ()), (), rfl, rfl, rfl⟩
    · cases h

theorem traces_compare (expected actual : Path) :
    Traces (ExceptT.mk (s.compare expected actual)) (ExceptT.mk (s.recorded.compare expected actual))
      fun whole verdict => whole = [.compare expected actual (.ok verdict)] := by
  refine Traces.exchange (s.compare expected actual) _ id ?_ ?_
  · rintro (e | verdict) a h
    · cases h
    · cases h
      exact ⟨rfl, rfl⟩
  · rintro (e | verdict) e' h
    · cases h
      exact ⟨rfl, .compare expected actual (.ok .identical), _, rfl, rfl, rfl⟩
    · cases h

/-- The entries `listed` of a directory, and its cases in order. -/
def ListsCases (dir : Path) (whole : List Exchange) (cases : List TestCase) : Prop :=
  ∃ listed, whole = [.list dir (.ok (listed.map .ok))] ∧
    cases = (Name.inOrder listed).map (.ofName dir)

theorem traces_list (dir : Path) :
    Traces (ExceptT.mk (TestCase.discover dir <$> s.list dir))
      (ExceptT.mk (TestCase.discover dir <$> s.recorded.list dir)) (ListsCases dir) := by
  refine Traces.exchange _ _ _ (fun listing cases h => ?_) (fun listing e h => ?_)
  · rcases hnames : listing.names with fault | names
    · rw [TestCase.discover_error hnames] at h
      cases h
    · rw [TestCase.discover_ok hnames] at h
      cases h
      refine ⟨⟨names, ?_, rfl⟩, by rw [Exchange.error?, hnames]⟩
      rw [Listing.names_eq_ok_iff.mp hnames]
  · rcases hnames : listing.names with fault | names
    · rw [TestCase.discover_error hnames] at h
      cases h
      exact ⟨by rw [Exchange.error?, hnames], .list dir (.ok []), _, ⟨[], rfl, rfl⟩, rfl, rfl⟩
    · rw [TestCase.discover_ok hnames] at h
      cases h

theorem traces_discover (dir : Path) :
    Traces (s.discover dir) (s.recorded.discover dir) (ListsCases dir) := by
  refine (Traces.bind (traces_list s dir) fun cases =>
    Traces.bind (traces_note s (.discovered cases.length)) fun _ => Traces.pure cases).mono ?_
  -- the note that follows is not a call
  rintro whole cases ⟨first, cases', second, rfl, hlist, noted, -, last, rfl, rfl, rfl, rfl⟩
  simpa using hlist

/-- The calls of one case after its programs have exited, and what becomes of it. -/
def Reports (case : TestCase) (reference candidate : RunStatus) (whole : List Exchange)
    (r : CaseResult) : Prop :=
  ∃ verdict, whole = reportTrace config case ⟨reference, candidate, verdict⟩ ∧
    r = caseResult case ⟨reference, candidate, verdict⟩

theorem traces_judge (case : TestCase) (reference candidate : RunStatus) :
    Traces (s.judge config case reference candidate)
      (s.recorded.judge config case reference candidate)
      (Reports config case reference candidate) := by
  by_cases hcodes : reference.code = 0 ∧ candidate.code = 0
  · rw [s.judge_of_succeeded config case hcodes, s.recorded.judge_of_succeeded config case hcodes]
    refine (Traces.bind (traces_announce s (.banner case)) fun _ =>
      Traces.bind (traces_compare s _ _) fun verdict =>
      Traces.bind (traces_announce s (.diffed case verdict)) fun _ => Traces.pure _).mono ?_
    rintro _ _ ⟨_, _, _, rfl, rfl, _, verdict, _, rfl, rfl, _, _, _, rfl, rfl, rfl, rfl⟩
    exact ⟨verdict, by simp [reportTrace, outputIn_eq, Answers.BothSucceed, hcodes],
      by simp [caseResult, Answers.BothSucceed, hcodes]⟩
  · rw [s.judge_of_failed config case hcodes, s.recorded.judge_of_failed config case hcodes]
    refine (Traces.bind (traces_announce s (.failed case config.reference reference
      config.candidate candidate)) fun _ => Traces.pure _).mono ?_
    rintro _ _ ⟨_, _, _, rfl, rfl, rfl, rfl⟩
    -- no comparison was made, so any verdict may stand in the script
    exact ⟨.identical, by simp [reportTrace, Answers.BothSucceed, hcodes],
      by simp [caseResult, Answers.BothSucceed, hcodes]⟩

/-- **One case** takes its own calls and no others. -/
theorem traces_runCase (case : TestCase) :
    Traces (s.runCase config case) (s.recorded.runCase config case)
      fun whole r => ∃ a, whole = caseTrace config case a ∧ r = caseResult case a := by
  rw [s.runCase_eq, s.recorded.runCase_eq]
  refine (Traces.bind (traces_note s (.runningReference case)) fun _ =>
    Traces.bind (traces_launch s config.reference case.path _) fun reference =>
    Traces.bind (traces_note s (.runningCandidate case)) fun _ =>
    Traces.bind (traces_launch s config.candidate case.path _) fun candidate =>
    traces_judge s config case reference candidate).mono ?_
  rintro _ r ⟨_, _, _, rfl, rfl, _, reference, _, rfl, rfl, _, _, _, rfl, rfl, _, candidate, _,
    rfl, rfl, verdict, rfl, rfl⟩
  exact ⟨⟨reference, candidate, verdict⟩, rfl, rfl⟩

/-- **Cases in order** take their calls in this order. -/
theorem traces_runCases (cases : List TestCase) :
    Traces (s.runCases config cases) (s.recorded.runCases config cases) fun whole results =>
      ∃ script : List (TestCase × Answers), script.map Prod.fst = cases ∧
        whole = script.flatMap (fun (case, a) => caseTrace config case a) ∧
        results = script.map fun (case, a) => caseResult case a := by
  -- each case brings its own answers, and the script collects them
  induction cases with
  | nil =>
    refine (Traces.pure []).mono ?_
    rintro _ _ ⟨rfl, rfl⟩
    exact ⟨[], rfl, rfl, rfl⟩
  | cons case cases ih =>
    refine (Traces.bind (traces_runCase s config case) fun r =>
      Traces.bind ih fun results => Traces.pure (r :: results)).mono ?_
    rintro _ _ ⟨_, _, _, rfl, ⟨a, rfl, rfl⟩, _, _, _, rfl, ⟨script, rfl, rfl, rfl⟩, rfl, rfl⟩
    exact ⟨(case, a) :: script, rfl, by simp, rfl⟩

/-- **A whole run** takes the calls of its trace. -/
theorem traces_run :
    Traces (s.run config) (s.recorded.run config) fun whole results =>
      ∃ listed script, script.map Prod.fst = (Name.inOrder listed).map (.ofName config.testDir) ∧
        whole = trace config listed script ∧
        results = script.map fun (case, a) => caseResult case a := by
  refine (Traces.bind (traces_discover s config.testDir) fun cases =>
    Traces.bind (traces_ensureDir s config.expectedDir) fun _ =>
    Traces.bind (traces_ensureDir s config.resultsDir) fun _ =>
    Traces.bind (traces_announce s (.runStart cases.length)) fun _ =>
    Traces.bind (traces_runCases s config cases) fun results =>
    Traces.bind (traces_note s _) fun _ => Traces.pure results).mono ?_
  rintro _ _ ⟨_, cases, _, rfl, ⟨listed, rfl, hcases⟩, _, _, _, rfl, rfl, _, _, _, rfl, rfl,
    _, _, _, rfl, rfl, _, _, _, rfl, ⟨script, hscript, rfl, rfl⟩, _, _, _, rfl, rfl, rfl, rfl⟩
  refine ⟨listed, script, hscript.trans hcases, ?_, rfl⟩
  have hlength : cases.length = script.length := by rw [← hscript, List.length_map]
  simp [trace, hlength]

end Parts

/-! ### The contract -/

theorem StopsAt.call_prefix {whole log : List Exchange} {e : RunError} (h : StopsAt whole log e) :
    log.map Exchange.call <+: whole.map Exchange.call := by
  obtain ⟨before, met, last, after, rfl, rfl, hcall, -⟩ := h
  exact ⟨after.map Exchange.call, by simp [hcall]⟩

theorem StopsAt.exists_fails {whole log : List Exchange} {e : RunError} (h : StopsAt whole log e) :
    ∃ x ∈ log, x.error? = some e := by
  obtain ⟨before, -, last, -, -, rfl, -, herror⟩ := h
  exact ⟨last, by simp, herror⟩

/-- Keeping a log changes nothing but the log. -/
theorem run_recorded (s : Services σ) (config : Config) (w : σ) (log : List Exchange) :
    ((s.recorded.run config).run (w, log)).1 = ((s.run config).run w).1 ∧
      ((s.recorded.run config).run (w, log)).2.1 = ((s.run config).run w).2 := by
  obtain ⟨_, _, new, -, -, hrun, -⟩ := traces_run s config w log
  rw [hrun]
  exact ⟨rfl, rfl⟩

/-- **The contract of a run**, whatever its surroundings. There are answers for all cases, those of
the calls that were made, by which the calls of the run are a beginning of its trace. The run gives
results exactly if it made all of these calls and none of them failed, and the results are then, case
by case, what the programs exited with and, if both succeeded, what the comparison found. Otherwise
the last call is the one that failed, and the run ends with the error that its answer amounts to. -/
theorem run_trace (s : Services σ) (config : Config) (w : σ) :
    ∃ (listed names : List Name) (script : List (TestCase × Answers)),
      names.Perm listed ∧ names.Pairwise (· ≤ ·) ∧
      script.map Prod.fst = names.map (fun name => ⟨name, config.testDir.join ⟨name⟩⟩) ∧
      (∀ x ∈ trace config listed script, x.error? = none) ∧
      (s.log config w).map Exchange.call <+: (trace config listed script).map Exchange.call ∧
      ((∃ results, ((s.run config).run w).1 = .ok results) ↔
        (s.log config w).map Exchange.call = (trace config listed script).map Exchange.call ∧
          ∀ x ∈ s.log config w, x.error? = none) ∧
      match ((s.run config).run w).1 with
      | .ok results => s.log config w = trace config listed script ∧
          results = script.map fun (case, a) => caseResult case a
      | .error e => StopsAt (trace config listed script) (s.log config w) e := by
  obtain ⟨_, _, new, ⟨listed, script, hscript, rfl, rfl⟩, hwhole, hrun, hfollows⟩ :=
    traces_run s config w []
  have hlog : s.log config w = new := by rw [Services.log, hrun, List.nil_append]
  refine ⟨listed, Name.inOrder listed, script, Name.perm_inOrder listed,
    Name.ascending_inOrder listed, hscript, hwhole, ?_⟩
  rw [hlog]
  rcases hr : ((s.run config).run w).1 with e | results
  · rw [hr] at hfollows
    refine ⟨hfollows.call_prefix, iff_of_false (by simp) ?_, hfollows⟩
    rintro ⟨-, hnone⟩
    obtain ⟨x, hx, hfails⟩ := StopsAt.exists_fails hfollows
    rw [hnone x hx] at hfails
    cases hfails
  · rw [hr] at hfollows
    obtain ⟨rfl, rfl⟩ := hfollows
    exact ⟨List.prefix_rfl, iff_of_true ⟨_, rfl⟩ ⟨rfl, hwhole⟩, rfl, rfl⟩

end Tandem
