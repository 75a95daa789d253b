/-!
# Levels of notes

How much a note matters. A level has a rank, and a filter lets pass what is ranked up to some
number; rank zero is left for letting nothing pass.
-/

namespace Tandem

/-- How much a note matters, from the gravest down. -/
inductive Level where
  | error
  | warn
  | info
  | debug
  | trace
  deriving DecidableEq, Repr

namespace Level

/-- The rank of a level; zero is left for "nothing at all". -/
def rank : Level → Nat
  | .error => 1
  | .warn => 2
  | .info => 3
  | .debug => 4
  | .trace => 5

/-- The name of a level, set flush right in five columns. -/
def column : Level → String
  | .error => "ERROR"
  | .warn => " WARN"
  | .info => " INFO"
  | .debug => "DEBUG"
  | .trace => "TRACE"

/-- The highest rank. -/
def most : Nat := Level.trace.rank

/-- The names of ranks. -/
def names : List (String × Nat) :=
  [("off", 0), ("error", 1), ("warn", 2), ("info", 3), ("debug", 4), ("trace", 5)]

/-- The number that decimal digits spell, with or without a plus sign. -/
def number? (cs : List Char) : Option Nat :=
  let digits := match cs with
    | '+' :: rest => rest
    | _ => cs
  if digits.isEmpty || !digits.all Char.isDigit then none
  else some (digits.foldl (fun n c => 10 * n + (c.toNat - '0'.toNat)) 0)

/-- The rank spelled by a text: a number up to five, or a name in any case. The empty text stands
for errors alone. -/
def rankOfText? (text : String) : Option Nat :=
  if text.isEmpty then some Level.error.rank
  else match number? text.toList with
    | some n => if n ≤ most then some n else none
    | none => names.lookup (String.ofList (text.toList.map Char.toLower))

end Level

end Tandem
