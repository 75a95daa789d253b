import Tandem.Command
import Tandem.Console
import Tandem.TestCase

/-!
# Reporting to the console

A run reports events. Each event has a text, written line by line, and all but the first flush the
console once the text is out. The text of the differences themselves is written between the banner
of a case and its end, straight to the console.
-/

namespace Tandem

/-- How a program ended, as one number; zero is success. -/
structure RunStatus where
  code : Int
  deriving DecidableEq, Repr

/-- The program succeeded. -/
def RunStatus.success (s : RunStatus) : Bool :=
  s.code == 0

/-- What comparing two outputs found. -/
inductive Verdict where
  | identical
  | different
  deriving DecidableEq, Repr

/-- What a run reports. -/
inductive Event where
  /-- The cases are known. -/
  | runStart (count : Nat)
  /-- A program failed on a case; no comparison follows. -/
  | failed (case : TestCase) (reference : Command) (referenceStatus : RunStatus)
      (candidate : Command) (candidateStatus : RunStatus)
  /-- Both programs succeeded on a case; the differences are about to be written. -/
  | banner (case : TestCase)
  /-- The differences of a case have been written. -/
  | diffed (case : TestCase) (verdict : Verdict)
  deriving DecidableEq, Repr

namespace Event

/-- The line above and below the name of a case. -/
def rule : Bytes :=
  List.replicate 61 0x3D ++ [0x0A]

/-- The lines of an event. -/
def lines : Event → List Bytes
  | .runStart _ => []
  | .failed case reference r candidate c =>
    [Utf8.encode ("ERROR: " ++ case.display ++ ": " ++ reference.display ++ " exited with " ++
      Decimal.text r.code ++ ", " ++ candidate.display ++ " exited with " ++
      Decimal.text c.code ++ "\n")]
  | .banner case => [rule, Utf8.encode ("FILE " ++ case.display ++ "\n"), rule, [0x0A]]
  | .diffed .. => [[0x0A], [0x0A]]

/-- The full text of an event. -/
def text (e : Event) : Bytes :=
  e.lines.flatten

/-- The console is flushed after the event. -/
def flushes : Event → Bool
  | .runStart _ => false
  | _ => true

end Event

/-- Writes an event to the console. -/
def Console.report (e : Event) (c : Console) : Console × Except Fault Unit :=
  match c.writeAll e.lines with
  | (c, .ok ()) => (c, if e.flushes then c.flush else .ok ())
  | failed => failed

end Tandem
