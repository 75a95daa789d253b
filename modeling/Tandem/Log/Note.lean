import Tandem.Config
import Tandem.Fault
import Tandem.Log.Filter
import Tandem.TestCase

/-!
# Notes

What a run notes down for its operator, apart from its report. A note has a level, the part of the
program it comes from, fields, and the activities it happened in. A filter decides which notes are
written, and which activities are named in front of them.
-/

namespace Tandem

/-- What is worth a note. -/
inductive Note where
  | starting (config : Config)
  | discovered (count : Nat)
  | runningReference (case : TestCase)
  | runningCandidate (case : TestCase)
  | inputNotOpened (input : Path) (fault : Fault)
  | outputNotCreated (output : Path) (fault : Fault)
  | notStarted (command : Command) (fault : Fault) (code : Int)
  | complete (total failed : Nat)
  deriving DecidableEq, Repr

/-- An activity that notes may happen in. -/
inductive Activity where
  | run
  | discovery
  deriving DecidableEq, Repr

/-- A list of fields with their values, each after a blank. -/
def fieldsText (fields : List (String × String)) : String :=
  String.join (fields.map fun (name, value) => " " ++ name ++ "=" ++ value)

namespace Activity

/-- The part of the program that an activity belongs to. -/
def target : Activity → String
  | .run => "difftest::harness"
  | .discovery => "difftest::harness::discovery"

/-- The name of an activity. -/
def name : Activity → String
  | .run => "run"
  | .discovery => "discover_test_cases"

/-- The field of an activity, which holds the test directory. -/
def field : Activity → String
  | .run => "test_dir"
  | .discovery => "dir"

/-- An activity for a test directory. -/
def scope (testDir : Path) (a : Activity) : Scope where
  site := { target := a.target, level := .info, activity := some a.name, fields := [a.field] }
  values := [(a.field, testDir.display)]

end Activity

/-- An activity as it is named in notes. -/
def Scope.text (s : Scope) : String :=
  s.site.activity.getD "" ++ "\x7b" ++
    ((fieldsText s.values).toList.drop 1 |> String.ofList) ++ "\x7d:"

namespace Note

/-- The level of a note. -/
def level : Note → Level
  | .starting _ => .info
  | .discovered _ | .runningReference _ | .runningCandidate _ | .complete .. => .debug
  | .inputNotOpened .. | .outputNotCreated .. | .notStarted .. => .warn

/-- The part of the program that a note comes from. -/
def target : Note → String
  | .starting _ => "difftest::cli"
  | .discovered _ => "difftest::harness::discovery"
  | .runningReference _ | .runningCandidate _ | .complete .. => "difftest::harness"
  | .inputNotOpened .. | .outputNotCreated .. | .notStarted .. => "difftest::harness::process"

/-- The activities that a note happens in, the outer one first. -/
def activities : Note → List Activity
  | .starting _ => []
  | .discovered _ => [.run, .discovery]
  | _ => [.run]

/-- What a note says. -/
def message : Note → String
  | .starting _ => "starting run"
  | .discovered _ => "discovered test cases"
  | .runningReference _ => "running reference"
  | .runningCandidate _ => "running candidate"
  | .inputNotOpened .. => "cannot open test input"
  | .outputNotCreated .. => "cannot create output file"
  | .notStarted .. => "failed to start program"
  | .complete .. => "run complete"

/-- The fields of a note besides what it says. -/
def fields : Note → List (String × String)
  | .starting config =>
    [("test_dir", config.testDir.display), ("reference", config.reference.display),
      ("candidate", config.candidate.display)]
  | .discovered count => [("count", Nat.repr count)]
  | .runningReference case | .runningCandidate case => [("case", case.display)]
  | .inputNotOpened input fault => [("input", input.display), ("error", fault.message)]
  | .outputNotCreated output fault => [("output", output.display), ("error", fault.message)]
  | .notStarted command fault code =>
    [("command", command.display), ("error", fault.message), ("code", Decimal.text code)]
  | .complete total failed => [("total", Nat.repr total), ("failed", Nat.repr failed)]

/-- Where a note comes from. What a note says is a field of its own. -/
def site (n : Note) : Site where
  target := n.target
  level := n.level
  activity := none
  fields := "message" :: n.fields.map (·.1)

/-- The line written for a note, if the filter lets it pass. -/
def line? (filter : Filter) (stamp : String) (testDir : Path) (n : Note) : Option String :=
  let (named, ranks) := filter.enter (n.activities.map (Activity.scope testDir))
  if filter.enables ranks n.site then
    let place := String.join (named.map Scope.text)
    some (stamp ++ " " ++ n.level.column ++ " " ++ (if named.isEmpty then "" else place ++ " ") ++
      n.target ++ ": " ++ n.message ++ fieldsText n.fields ++ "\n")
  else none

end Note

end Tandem
