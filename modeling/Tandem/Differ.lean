import Tandem.NormalDiff
import Tandem.Process

/-!
# Comparing two outputs

Two files are compared either here, line by line, or by a program that is given both. Either way
the differences go to the console and a verdict comes back, so that a comparison that could not be
made is never mistaken for one that found nothing.
-/

namespace Tandem.Differ

/-- Compares two byte strings. Equal ones need no line comparison and write nothing. -/
def compareBytes (expected actual : Bytes) (c : Console) : Console × Except RunError Verdict :=
  if expected = actual then (c, .ok .identical)
  else match c.write (NormalDiff.render expected actual) with
    | (c, .ok ()) => (c, .ok .different)
    | (c, .error fault) => (c, .error (.console fault))

/-- Compares two files, given how files are read. The expected one is read first. -/
def builtin (read : Path → Except Fault Bytes) (expected actual : Path) (c : Console) :
    Console × Except RunError Verdict :=
  match read expected with
  | .error fault => (c, .error (.io expected fault))
  | .ok e => match read actual with
    | .error fault => (c, .error (.io actual fault))
    | .ok a => compareBytes e a c

/-- What a diff program did: the output it wrote, and how it ended. -/
structure ToolRun where
  output : Bytes
  status : WaitStatus
  deriving DecidableEq, Repr

/-- What the end of a diff program says. -/
def verdictOf (command : Command) (status : WaitStatus) : Except RunError Verdict :=
  match status.exitCode? with
  | some 0 => .ok .identical
  | some 1 => .ok .different
  | some code => .error (.diffTool command.display ("exited with " ++ Nat.repr code) none)
  | none => .error (.diffTool command.display "terminated by signal" none)

/-- Judges by a diff program, given what it did or why it did not start. Its output reaches the
console before its end is looked at. -/
def external (command : Command) (tool : Except Fault ToolRun) (c : Console) :
    Console × Except RunError Verdict :=
  match tool with
  | .error fault => (c, .error (.diffTool command.display "could not start" (some fault)))
  | .ok run => match c.write run.output with
    | (c, .ok ()) => (c, verdictOf command run.status)
    | (c, .error fault) => (c, .error (.console fault))

end Tandem.Differ
