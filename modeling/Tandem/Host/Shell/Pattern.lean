import Tandem.Text.CharClass

/-!
# Patterns

A pattern matches a whole text: `*` stands for any characters, `?` for any one, and brackets for one
of those listed in them. A character that is quoted stands for itself.
-/

namespace Tandem.Host.Shell

/-- A character of a pattern, with whether it is quoted. -/
abbrev Glyph := Char × Bool

namespace Pattern

/-- The name of a class in brackets, and what comes after it. -/
def className? : List Glyph → Option (Octets × List Glyph)
  | (':', false) :: (']', false) :: rest => some ([], rest)
  | (c, _) :: rest =>
    if c.isAlpha then (className? rest).map fun (name, rest) => (c :: name, rest) else none
  | [] => none

/-- Looks for a character among those in brackets, given what comes after the opening bracket or the
exclamation mark; answers with whether it is there and what comes after the closing bracket. `none`
if the brackets are not closed. The first character in brackets does not close them. -/
def listed (c : Char) (found isFirst : Bool) :
    (fuel : Nat) → List Glyph → Option (Bool × List Glyph)
  | 0, _ => none
  | _, [] => none
  | fuel + 1, (d, q) :: rest =>
    if d = ']' && !q && !isFirst then some (found, rest)
    else
      let plain : Option (Bool × List Glyph) := match rest with
        | ('-', false) :: (e, r) :: more =>
          if e = ']' && !r then listed c (found || c = d) false fuel rest
          else listed c (found || (d ≤ c && c ≤ e)) false fuel more
        | _ => listed c (found || c = d) false fuel rest
      match d, q, rest with
      | '[', false, (':', false) :: more =>
        match className? more with
        | some (name, after) => match CharClass.ofName? name with
          | some p => listed c (found || p c) false fuel after
          | none => plain
        | none => plain
      | _, _, _ => plain

/-- One character matches brackets, given what comes after the opening one; answers with what comes
after the closing one. -/
def bracket (c : Char) (rest : List Glyph) : Option (Bool × List Glyph) :=
  match rest with
  | ('!', false) :: inside =>
    (listed c false true (inside.length + 1) inside).map fun (found, rest) => (!found, rest)
  | inside => listed c false true (inside.length + 1) inside

/-- The text matches the pattern. -/
def matchWith : (fuel : Nat) → List Glyph → Octets → Bool
  | 0, _, _ => false
  | _, [], text => text.isEmpty
  | fuel + 1, (c, quoted) :: rest, text =>
    if c = '*' && !quoted then
      matchWith fuel rest text || match text with
        | _ :: more => matchWith fuel ((c, quoted) :: rest) more
        | [] => false
    else match text with
      | [] => false
      | d :: more =>
        if quoted then c = d && matchWith fuel rest more
        else if c = '?' then matchWith fuel rest more
        else if c = '[' then
          match bracket d rest with
          | some (found, after) => found && matchWith fuel after more
          | none => d = '[' && matchWith fuel rest more
        else c = d && matchWith fuel rest more

/-- Leaves one of each run of stars. -/
def tidy : List Glyph → List Glyph
  | ('*', false) :: ('*', false) :: rest => tidy (('*', false) :: rest)
  | g :: rest => g :: tidy rest
  | [] => []
termination_by gs => gs.length

/-- The pattern with the characters quoted that come after a backslash. Such a backslash comes from
the value of a variable. -/
def unescape : List Glyph → List Glyph
  | ('\\', false) :: (c, _) :: rest => (c, true) :: unescape rest
  | ('\\', false) :: [] => [('\\', true)]
  | g :: rest => g :: unescape rest
  | [] => []

/-- The text matches the pattern. -/
def fits (pattern : List Glyph) (text : Octets) : Bool :=
  matchWith (pattern.length + text.length + 1) (tidy (unescape pattern)) text

/-- The pattern has a character that does not stand for itself. -/
def isWild (pattern : List Glyph) : Bool :=
  pattern.any fun (c, quoted) => !quoted && (c == '*' || c == '?' || c == '[')

/-- The text without the shortest or longest beginning that matches. -/
def trimFront (pattern : List Glyph) (longest : Bool) (text : Octets) : Octets :=
  let cuts := List.range (text.length + 1)
  match (if longest then cuts.reverse else cuts).find? fun n => fits pattern (text.take n) with
  | some n => text.drop n
  | none => text

/-- The text without the shortest or longest end that matches. -/
def trimEnd (pattern : List Glyph) (longest : Bool) (text : Octets) : Octets :=
  let cuts := List.range (text.length + 1)
  match (if longest then cuts else cuts.reverse).find? fun n => fits pattern (text.drop n) with
  | some n => text.take n
  | none => text

end Pattern

end Tandem.Host.Shell
