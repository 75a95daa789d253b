import Tandem.Path
import Tandem.Text.Blank

/-!
# Commands

A command is a program with its arguments. It can be written on one line: `Command.parse` cuts a
line into words, and `Command.display` writes the words back with one space between them. Nothing
is quoted on either side, so only commands made of words survive the round trip.
-/

namespace Tandem

/-- A program and its arguments. -/
structure Command where
  program : Path
  args : List String := []
  deriving DecidableEq, Repr

namespace Command

/-- The command spelled by the words of a line; a blank line spells none. -/
def parse (line : String) : Option Command :=
  match words line with
  | [] => none
  | program :: args => some { program := Path.ofString program, args }

/-- The command on one line: the program, then each argument after a space. -/
def display (c : Command) : String :=
  c.program.display ++ String.join (c.args.map (" " ++ ·))

/-- The two commands run the same program, as a path, with the same arguments. -/
def same (c d : Command) : Bool :=
  c.program.same d.program && c.args == d.args

end Command

end Tandem
