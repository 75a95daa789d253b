import Tandem.Edit.Hunk
import Tandem.Text.Decimal
import Tandem.Text.Lines

/-!
# The normal diff format

Each hunk is a header, which gives the line numbers on both sides around a letter, and the lines
themselves: lines that are gone after `< `, lines that have come after `> `, and `---` between the
two in a change. A line without `\n` at its end is followed by a remark that says so.

Line numbers count from one. The number on the side that a deletion or an addition does not touch
is that of the line *before* the place, which is why it is printed as it stands.
-/

namespace Tandem.NormalDiff

open Edit

/-- A stretch of lines in a header: `first` or `first,last`. -/
def range (start len : Nat) : Bytes :=
  if len ≤ 1 then Decimal.digits (start + 1)
  else Decimal.digits (start + 1) ++ Utf8.encode "," ++ Decimal.digits (start + len)

/-- The remark after a line that does not end in `\n`. -/
def remark : Bytes :=
  Utf8.encode "\n\\ No newline at end of file\n"

/-- A line behind its mark. -/
def entry (mark line : Bytes) : Bytes :=
  if line.getLast? = some Lines.lf then mark ++ line else mark ++ line ++ remark

/-- Lines behind their mark. -/
def entries (mark : Bytes) (lines : List Bytes) : Bytes :=
  lines.flatMap (entry mark)

/-- The mark of a line that is gone. -/
def gone : Bytes := Utf8.encode "< "

/-- The mark of a line that has come. -/
def come : Bytes := Utf8.encode "> "

/-- The header of a hunk. -/
def header : Hunk → Bytes
  | .delete old len new => range old len ++ Utf8.encode "d" ++ Decimal.digits new
  | .insert old new len => Decimal.digits old ++ Utf8.encode "a" ++ range new len
  | .change old oldLen new newLen => range old oldLen ++ Utf8.encode "c" ++ range new newLen

/-- The lines of a hunk. -/
def body (olds news : List Bytes) : Hunk → Bytes
  | .delete old len _ => entries gone (slice olds old len)
  | .insert _ new len => entries come (slice news new len)
  | .change old oldLen new newLen =>
    entries gone (slice olds old oldLen) ++ Utf8.encode "---\n" ++
      entries come (slice news new newLen)

/-- A hunk in the normal format. -/
def hunkText (olds news : List Bytes) (h : Hunk) : Bytes :=
  header h ++ Utf8.encode "\n" ++ body olds news h

/-- The differences between two byte strings; empty if they are equal. -/
def render (expected actual : Bytes) : Bytes :=
  let olds := Lines.split expected
  let news := Lines.split actual
  (hunks olds news).flatMap (hunkText olds news)

/-- The differences between two texts, as a text. -/
def renderText (expected actual : String) : String :=
  Utf8.lossy (render (Utf8.encode expected) (Utf8.encode actual))

end Tandem.NormalDiff
