import Tandem.Config
import Tandem.Log.Note
import Tandem.Report

/-!
# A run

For every case of the test directory, in ascending order of names: the reference reads the case and
writes its expected output, the candidate reads the same case and writes its result. If either of
them failed, the failure is reported and the run moves on; otherwise the two outputs are compared
under a banner. Only a directory, the diff tool or the console can end a run early.

What a run needs of the world is a record of `Services` over states `σ`; nothing is assumed of them.
-/

namespace Tandem

/-- What a run asks of its surroundings. -/
structure Services (σ : Type) where
  /-- Lists a directory. -/
  list : Path → StateM σ Listing
  /-- Creates a directory and those above it; one that exists is fine. -/
  makeDir : Path → StateM σ (Except Fault Unit)
  /-- Runs a program with a file as its input and another as its output. -/
  launch : Command → (stdin stdout : Path) → StateM σ RunStatus
  /-- Compares the expected output with the actual one, writing the differences. -/
  compare : (expected actual : Path) → StateM σ (Except RunError Verdict)
  /-- Reports an event. -/
  report : Event → StateM σ (Except Fault Unit)
  /-- Takes a note. -/
  note : Note → StateM σ Unit

/-- What happened to one case; without a verdict, a program failed on it. -/
structure CaseResult where
  case : TestCase
  reference : RunStatus
  candidate : RunStatus
  verdict : Option Verdict
  deriving DecidableEq, Repr

/-- A program failed on the case. -/
def CaseResult.failed (r : CaseResult) : Bool :=
  r.verdict.isNone

/-- A computation over states `σ` that may end a run. -/
abbrev Attempt (σ α : Type) := ExceptT RunError (StateM σ) α

namespace Services

variable {σ : Type}

/-- The cases of the test directory. -/
def discover (s : Services σ) (dir : Path) : Attempt σ (List TestCase) := do
  let cases ← ExceptT.mk (TestCase.discover dir <$> s.list dir)
  s.note (.discovered cases.length)
  return cases

/-- Makes sure that an output directory exists. -/
def ensureDir (s : Services σ) (dir : Path) : Attempt σ Unit :=
  ExceptT.mk (Except.mapError (.outputDir dir) <$> s.makeDir dir)

/-- Reports an event; a fault of the console ends the run. -/
def announce (s : Services σ) (e : Event) : Attempt σ Unit :=
  ExceptT.mk (Except.mapError .console <$> s.report e)

/-- Runs one case. -/
def runCase (s : Services σ) (config : Config) (case : TestCase) : Attempt σ CaseResult := do
  let expected := case.outputIn config.expectedDir
  let actual := case.outputIn config.resultsDir
  s.note (.runningReference case)
  let reference ← s.launch config.reference case.path expected
  s.note (.runningCandidate case)
  let candidate ← s.launch config.candidate case.path actual
  if reference.success && candidate.success then
    s.announce (.banner case)
    let verdict ← ExceptT.mk (s.compare expected actual)
    s.announce (.diffed case verdict)
    return ⟨case, reference, candidate, some verdict⟩
  else
    s.announce (.failed case config.reference reference config.candidate candidate)
    return ⟨case, reference, candidate, none⟩

/-- Runs cases in order. -/
def runCases (s : Services σ) (config : Config) : List TestCase → Attempt σ (List CaseResult)
  | [] => return []
  | case :: cases => do
    let result ← s.runCase config case
    let results ← s.runCases config cases
    return result :: results

/-- The whole run. -/
def run (s : Services σ) (config : Config) : Attempt σ (List CaseResult) := do
  let cases ← s.discover config.testDir
  s.ensureDir config.expectedDir
  s.ensureDir config.resultsDir
  s.announce (.runStart cases.length)
  let results ← s.runCases config cases
  s.note (.complete results.length (results.filter CaseResult.failed).length)
  return results

end Services

end Tandem
