import Mathlib.Tactic
import Tandem.Proofs.Run.Trace

/-!
# The order of a listing does not matter

An operating system lists a directory in any order it likes. The cases that come of it are the same
in all orders, and so is the run: whatever its surroundings are, it makes the same calls and has the
same results (`listing_order_irrelevant`).

Two runs are compared that differ only in how directories are listed (`Services.withListing`). A run
lists its test directory once, at the very beginning, and uses the listing only through the cases in
it; from there on the two runs are one and the same attempt (`Services.runListed`). Their logs agree
from there on as well, because what is already in the log is never looked at (`AddsToLog`).
-/

namespace Tandem

variable {σ α β : Type}

/-! ### After the listing -/

namespace Services

variable (s : Services σ) (config : Config)

/-- The surroundings with another way to list directories. -/
def withListing (list : Path → StateM σ Listing) : Services σ :=
  { s with list }

/-- What a run does when its cases are known. -/
def runListed (cases : List TestCase) : Attempt σ (List CaseResult) := do
  s.ensureDir config.expectedDir
  s.ensureDir config.resultsDir
  s.announce (.runStart cases.length)
  let results ← s.runCases config cases
  s.note (.complete results.length (results.filter CaseResult.failed).length)
  return results

theorem run_eq_runListed : s.run config = s.discover config.testDir >>= s.runListed config :=
  rfl

variable {s config} {list : Path → StateM σ Listing} {listing : Listing} {w w' : σ}

theorem run_of_discover_ok {cases : List TestCase} (h : s.list config.testDir w = (listing, w'))
    (hcases : TestCase.discover config.testDir listing = .ok cases) :
    (s.run config).run w
      = (s.runListed config cases).run (s.note (.discovered cases.length) w').2 := by
  have hlist : (ExceptT.mk (TestCase.discover config.testDir <$> s.list config.testDir)).run w
      = (.ok cases, w') := by
    rw [← hcases]
    exact congrArg (fun r => (TestCase.discover config.testDir r.1, r.2)) h
  have hdiscover : (s.discover config.testDir).run w
      = (.ok cases, (s.note (.discovered cases.length) w').2) := by
    rw [discover, Attempt.run_bind_ok hlist]
    rfl
  rw [run_eq_runListed, Attempt.run_bind_ok hdiscover]

theorem run_of_discover_error {e : RunError} (h : s.list config.testDir w = (listing, w'))
    (herror : TestCase.discover config.testDir listing = .error e) :
    (s.run config).run w = (.error e, w') := by
  have hlist : (ExceptT.mk (TestCase.discover config.testDir <$> s.list config.testDir)).run w
      = (.error e, w') := by
    rw [← herror]
    exact congrArg (fun r => (TestCase.discover config.testDir r.1, r.2)) h
  have hdiscover : (s.discover config.testDir).run w = (.error e, w') := by
    rw [discover, Attempt.run_bind_error hlist]
  rw [run_eq_runListed, Attempt.run_bind_error hdiscover]

/-- Cases are run without listing anything. -/
theorem runCases_withListing (cases : List TestCase) :
    (s.withListing list).runCases config cases = s.runCases config cases := by
  induction cases with
  | nil => rfl
  | cons case cases ih =>
    rw [runCases, runCases, ih]
    rfl

theorem runListed_withListing (cases : List TestCase) :
    (s.withListing list).runListed config cases = s.runListed config cases := by
  rw [runListed, runListed, runCases_withListing]
  rfl

/-- **Runs are the same if they find the same cases**, or fail to find them for the same reason. -/
theorem run_withListing {listing' : Listing} (h : s.list config.testDir w = (listing, w'))
    (h' : list config.testDir w = (listing', w'))
    (hcases : TestCase.discover config.testDir listing'
      = TestCase.discover config.testDir listing) :
    ((s.withListing list).run config).run w = (s.run config).run w := by
  have h'' : (s.withListing list).list config.testDir w = (listing', w') := h'
  rcases hdiscover : TestCase.discover config.testDir listing with e | cases
  · rw [run_of_discover_error h hdiscover, run_of_discover_error h'' (hcases.trans hdiscover)]
  · rw [run_of_discover_ok h hdiscover, run_of_discover_ok h'' (hcases.trans hdiscover),
      runListed_withListing]
    rfl

end Services

/-! ### Logs are only added to -/

/-- The attempt adds something to the log, and neither this nor anything else that comes of it
depends on what was in the log. -/
def AddsToLog (m : Attempt (σ × List Exchange) α) : Prop :=
  ∀ w, ∃ r w' new, ∀ log, m.run (w, log) = (r, w', log ++ new)

namespace AddsToLog

variable {m : Attempt (σ × List Exchange) α} {f : α → Attempt (σ × List Exchange) β}

theorem pure (a : α) : AddsToLog (Pure.pure a : Attempt (σ × List Exchange) α) :=
  fun w => ⟨.ok a, w, [], fun log => by rw [Attempt.run_pure, List.append_nil]⟩

theorem bind (hm : AddsToLog m) (hf : ∀ a, AddsToLog (f a)) : AddsToLog (m >>= f) := by
  intro w
  obtain ⟨e | a, w₁, new, hrun⟩ := hm w
  · exact ⟨.error e, w₁, new, fun log => Attempt.run_bind_error (hrun log)⟩
  · obtain ⟨r, w₂, new', hrun'⟩ := hf a w₁
    refine ⟨r, w₂, new ++ new', fun log => ?_⟩
    rw [Attempt.run_bind_ok (hrun log), hrun', List.append_assoc]

/-- One call adds itself. -/
theorem exchange {δ : Type} (x : StateM σ δ) (e : δ → Exchange) (result : δ → Except RunError α) :
    AddsToLog (ExceptT.mk (result <$> record x e)) :=
  fun w => ⟨result (x w).1, (x w).2, [e (x w).1], fun _ => rfl⟩

section Parts

variable (s : Services σ) (config : Config)

theorem note (n : Note) :
    AddsToLog (liftM (s.recorded.note n) : Attempt (σ × List Exchange) Unit) :=
  fun w => ⟨.ok (), (s.note n w).2, [], fun log => by rw [List.append_nil]; rfl⟩

theorem launch (command : Command) (stdin stdout : Path) :
    AddsToLog (liftM (s.recorded.launch command stdin stdout) :
      Attempt (σ × List Exchange) RunStatus) :=
  exchange (s.launch command stdin stdout) _ .ok

theorem announce (event : Event) : AddsToLog (s.recorded.announce event) :=
  exchange (s.report event) _ _

theorem ensureDir (dir : Path) : AddsToLog (s.recorded.ensureDir dir) :=
  exchange (s.makeDir dir) _ _

theorem compare (expected actual : Path) :
    AddsToLog (ExceptT.mk (s.recorded.compare expected actual)) :=
  exchange (s.compare expected actual) _ id

theorem judge (case : TestCase) (reference candidate : RunStatus) :
    AddsToLog (s.recorded.judge config case reference candidate) := by
  by_cases hcodes : reference.code = 0 ∧ candidate.code = 0
  · rw [s.recorded.judge_of_succeeded config case hcodes]
    exact (announce s _).bind fun _ => (compare s _ _).bind fun _ =>
      (announce s _).bind fun _ => pure _
  · rw [s.recorded.judge_of_failed config case hcodes]
    exact (announce s _).bind fun _ => pure _

theorem runCase (case : TestCase) : AddsToLog (s.recorded.runCase config case) := by
  rw [Services.runCase_eq]
  exact (note s _).bind fun _ => (launch s _ _ _).bind fun reference =>
    (note s _).bind fun _ => (launch s _ _ _).bind fun candidate =>
    judge s config case reference candidate

theorem runCases (cases : List TestCase) : AddsToLog (s.recorded.runCases config cases) := by
  induction cases with
  | nil => exact pure []
  | cons case cases ih =>
    exact (runCase s config case).bind fun _ => ih.bind fun _ => pure _

theorem runListed (cases : List TestCase) : AddsToLog (s.recorded.runListed config cases) :=
  (ensureDir s _).bind fun _ => (ensureDir s _).bind fun _ => (announce s _).bind fun _ =>
    (runCases s config cases).bind fun _ => (note s _).bind fun _ => pure _

end Parts

end AddsToLog

/-! ### Two listings of one directory -/

/-- **Runs that find the same cases make the same calls**, and get the same answers, once the listing
is over. -/
theorem log_withListing {s : Services σ} {config : Config} {list : Path → StateM σ Listing}
    {listing listing' : Listing} {w w' : σ} (h : s.list config.testDir w = (listing, w'))
    (h' : list config.testDir w = (listing', w'))
    (hcases : TestCase.discover config.testDir listing'
      = TestCase.discover config.testDir listing) :
    ∃ calls, s.log config w = .list config.testDir listing :: calls ∧
      (s.withListing list).log config w = .list config.testDir listing' :: calls := by
  have hlist : s.recorded.list config.testDir (w, [])
      = (listing, w', [.list config.testDir listing]) := by
    show record (s.list config.testDir) (.list config.testDir) (w, []) = _
    rw [record, h]
    rfl
  have hlist' : (s.withListing list).recorded.list config.testDir (w, [])
      = (listing', w', [.list config.testDir listing']) := by
    show record (list config.testDir) (.list config.testDir) (w, []) = _
    rw [record, h']
    rfl
  rw [Services.log, Services.log]
  rcases hdiscover : TestCase.discover config.testDir listing with e | cases
  · rw [Services.run_of_discover_error hlist hdiscover,
      Services.run_of_discover_error hlist' (hcases.trans hdiscover)]
    exact ⟨[], rfl, rfl⟩
  · rw [Services.run_of_discover_ok hlist hdiscover,
      Services.run_of_discover_ok hlist' (hcases.trans hdiscover)]
    obtain ⟨r, w₁, new, hrun⟩ :=
      AddsToLog.runListed s config cases (s.note (.discovered cases.length) w').2
    refine ⟨new, ?_, ?_⟩
    · exact congrArg (·.2.2) (hrun [.list config.testDir listing])
    · -- apart from the listing the recorded surroundings are the same
      have hsame : (s.withListing list).recorded.runListed config cases
          = s.recorded.runListed config cases :=
        Services.runListed_withListing (s := s.recorded) cases
      rw [hsame]
      exact congrArg (·.2.2) (hrun [.list config.testDir listing'])

/-- **The order of a listing does not matter.** Two orders in which the same names are listed give the
same cases: each name once, strictly ascending as strings of unsigned bytes, at its place in the
directory. If the listing fails, or an entry does, wherever it stands, there are no cases but an error
of the directory; the first fault counts. And runs that differ only in the order in which the test
directory is listed end in the same way, with the same results, after the same calls with the same
answers. -/
theorem listing_order_irrelevant (dir : Path) :
    (∀ names names' : List Name, names.Nodup → names.Perm names' → ∃ cases,
      TestCase.discover dir (.ok (names.map .ok)) = .ok cases ∧
      TestCase.discover dir (.ok (names'.map .ok)) = .ok cases ∧
      (cases.map TestCase.name).Perm names ∧ (cases.map TestCase.name).Pairwise (· < ·) ∧
      ∀ case ∈ cases, case.path = dir.join ⟨case.name⟩) ∧
    (∀ fault, TestCase.discover dir (.error fault) = .error (.discovery dir fault)) ∧
    (∀ (before : List (Except Fault Name)) (fault : Fault) (after : List (Except Fault Name)),
      ∃ (names : List Name) (first : Fault) (rest : List (Except Fault Name)),
        before ++ .error fault :: after = names.map .ok ++ .error first :: rest ∧
        TestCase.discover dir (.ok (before ++ .error fault :: after))
          = .error (.discovery dir first)) ∧
    ∀ (σ : Type) (s : Services σ) (list : Path → StateM σ Listing) (config : Config) (w w' : σ)
      (names names' : List Name), config.testDir = dir → names.Perm names' →
      s.list dir w = (.ok (names.map .ok), w') → list dir w = (.ok (names'.map .ok), w') →
      ((s.withListing list).run config).run w = (s.run config).run w ∧
      ∃ calls, s.log config w = .list dir (.ok (names.map .ok)) :: calls ∧
        (s.withListing list).log config w = .list dir (.ok (names'.map .ok)) :: calls := by
  have hcongr {names names' : List Name} (hperm : names.Perm names') :
      TestCase.discover dir (.ok (names'.map .ok))
        = TestCase.discover dir (.ok (names.map .ok)) := by
    rw [TestCase.discover_names, TestCase.discover_names, Name.inOrder_congr hperm]
  refine ⟨fun names names' hnodup hperm => ?_, fun fault => rfl, fun before fault after => ?_, ?_⟩
  · refine ⟨_, TestCase.discover_names dir names,
      (hcongr hperm).trans (TestCase.discover_names dir names), ?_, ?_, ?_⟩
    · rw [TestCase.map_name_ofName]
      exact Name.perm_inOrder names
    · rw [TestCase.map_name_ofName]
      exact Name.strictAscending_inOrder hnodup
    · rw [List.forall_mem_map]
      exact fun _ _ => rfl
  · rcases exists_first_fault (before ++ .error fault :: after) with
      ⟨names, h⟩ | ⟨names, first, rest, h⟩
    · -- the fault is no name
      have hmem : Except.error fault ∈ names.map (Except.ok (ε := Fault)) := by simp [← h]
      simp at hmem
    · exact ⟨names, first, rest, h, by rw [h, TestCase.discover_fault]⟩
  · rintro σ s list config w w' names names' rfl hperm h h'
    exact ⟨Services.run_withListing h h' (hcongr hperm), log_withListing h h' (hcongr hperm)⟩

/-- Surroundings in which every directory is listed as these names and nothing goes wrong. -/
def Services.smooth (names : List Name) : Services Unit where
  list _ := pure (.ok (names.map .ok))
  makeDir _ := pure (.ok ())
  launch _ _ _ := pure ⟨0⟩
  compare _ _ := pure (.ok .identical)
  report _ := pure (.ok ())
  note _ := pure ()

/-- Names of which one begins another, and bytes that are no text, stand in one order too. -/
theorem listing_order_irrelevant_prefixes :
    let names : List Name := [[0x61, 0x80], [0xFF], [0x61], [0x7F]]
    let names' : List Name := [[0x61], [0x61, 0x80], [0x7F], [0xFF]]
    let list : Path → StateM Unit Listing := fun _ => pure (.ok (names'.map .ok))
    let config := Config.ofDir ⟨[0x74]⟩
    (names.Nodup ∧ names.Perm names') ∧
      (∃ cases, TestCase.discover ⟨[0x74]⟩ (.ok (names.map .ok)) = .ok cases ∧
        TestCase.discover ⟨[0x74]⟩ (.ok (names'.map .ok)) = .ok cases ∧
        (cases.map TestCase.name).Pairwise (· < ·)) ∧
      (((Services.smooth names).withListing list).run config).run ()
        = ((Services.smooth names).run config).run () := by
  intro names names' list config
  have hnodup : names.Nodup := by decide
  have hperm : names.Perm names' := by decide
  obtain ⟨hcases, -, -, hrun⟩ := listing_order_irrelevant ⟨[0x74]⟩
  obtain ⟨cases, hnames, hnames', -, hasc, -⟩ := hcases names names' hnodup hperm
  have hsame := hrun Unit (.smooth names) list config () () names names' rfl hperm rfl rfl
  exact ⟨⟨hnodup, hperm⟩, ⟨cases, hnames, hnames', hasc⟩, hsame.1⟩

end Tandem
