import Tandem.Command

/-!
# Configuration of a run

A run is told where the inputs are, which two programs to compare, where their outputs go, and how
outputs are compared. All but the first have defaults, which the environment can override, each
setting by its own variable; a variable with a blank value counts as absent.
-/

namespace Tandem

/-- How two outputs are compared. -/
inductive DiffChoice where
  /-- By the line comparison of this library. -/
  | builtin
  /-- By a program that is given the two files. -/
  | external (command : Command)
  deriving DecidableEq, Repr

/-- The two choices are the same. -/
def DiffChoice.same : DiffChoice → DiffChoice → Bool
  | .builtin, .builtin => true
  | .external c, .external d => c.same d
  | _, _ => false

/-- Everything a run has to know. -/
structure Config where
  testDir : Path
  expectedDir : Path
  resultsDir : Path
  reference : Command
  candidate : Command
  diff : DiffChoice
  deriving DecidableEq, Repr

/-- Variables of the environment: the text of each one that is set. -/
abbrev Env := String → Option String

/-- The names of the variables that override defaults. -/
inductive Setting where
  | reference
  | candidate
  | diff
  | expectedDir
  | resultsDir
  deriving DecidableEq, Repr

/-- The variable behind a setting. -/
def Setting.variableName : Setting → String
  | .reference => "DIFFTEST_REFERENCE"
  | .candidate => "DIFFTEST_CANDIDATE"
  | .diff => "DIFFTEST_DIFF"
  | .expectedDir => "DIFFTEST_EXPECTED_DIR"
  | .resultsDir => "DIFFTEST_RESULTS_DIR"

/-- The value that the environment gives to a setting, unless it is blank. -/
def Env.setting (env : Env) (s : Setting) : Option String :=
  (env s.variableName).filter (!allBlank ·)

namespace Config

/-- The name of the directory of reference outputs under an output root. -/
def expectedName : Path := Path.ofString "expected"

/-- The name of the directory of candidate outputs under an output root. -/
def resultsName : Path := Path.ofString "results"

/-- The configuration for a test directory when nothing else is said. -/
def ofDir (testDir : Path) : Config where
  testDir := testDir
  expectedDir := expectedName
  resultsDir := resultsName
  reference := { program := Path.ofString "./sem_base.exe" }
  candidate := { program := Path.ofString "./csem" }
  diff := .external { program := Path.ofString "diff" }

/-- The diff choice spelled by a text: the bare word `builtin`, or else a command. -/
def diffOfText (text : String) : Option DiffChoice :=
  if strip text = "builtin" then some .builtin else (Command.parse text).map .external

/-- The configuration for a test directory under an environment. -/
def ofEnv (testDir : Path) (env : Env) : Config :=
  let base := ofDir testDir
  { base with
    reference := ((env.setting .reference).bind Command.parse).getD base.reference
    candidate := ((env.setting .candidate).bind Command.parse).getD base.candidate
    diff := ((env.setting .diff).bind diffOfText).getD base.diff
    expectedDir := ((env.setting .expectedDir).map Path.ofString).getD base.expectedDir
    resultsDir := ((env.setting .resultsDir).map Path.ofString).getD base.resultsDir }

/-- One adjustment of a configuration. -/
inductive Step where
  | outputRoot (root : Path)
  | reference (command : Command)
  | candidate (command : Command)
  | diff (choice : DiffChoice)
  | expectedDir (dir : Path)
  | resultsDir (dir : Path)
  deriving DecidableEq, Repr

/-- Applies an adjustment. An output root moves both output directories below it. -/
def apply (c : Config) : Step → Config
  | .outputRoot root =>
    { c with expectedDir := root.join expectedName, resultsDir := root.join resultsName }
  | .reference command => { c with reference := command }
  | .candidate command => { c with candidate := command }
  | .diff choice => { c with diff := choice }
  | .expectedDir dir => { c with expectedDir := dir }
  | .resultsDir dir => { c with resultsDir := dir }

/-- Applies adjustments in order. -/
def applyAll (c : Config) (steps : List Step) : Config :=
  steps.foldl apply c

/-- The configuration and what each adjustment makes of it, in order. -/
def history (c : Config) : List Step → List Config
  | [] => [c]
  | step :: steps => c :: history (c.apply step) steps

/-- The two configurations are the same, paths compared by their components. -/
def same (c d : Config) : Bool :=
  c.testDir.same d.testDir && c.expectedDir.same d.expectedDir &&
    c.resultsDir.same d.resultsDir && c.reference.same d.reference &&
    c.candidate.same d.candidate && c.diff.same d.diff

end Config

end Tandem
