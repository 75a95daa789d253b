import Tandem.Host.Tool.Options

/-!
# Printing arguments

`echo` prints its arguments with spaces between them. Escapes are replaced only on demand.
-/

namespace Tandem.Host.Tool.Echo

/-- How `echo` is called. -/
def usage : Usage := {}

/-- The arguments mean what they say, up to the first that is no group of known letters. -/
structure Style where
  newline : Bool := true
  escapes : Bool := false

/-- Reads the options at the front; answers with the arguments after them. -/
def options (s : Style) : List Octets → Style × List Octets
  | ('-' :: c :: cs) :: rest =>
    let letters := c :: cs
    if letters.all fun c => c == 'n' || c == 'e' || c == 'E' then
      let s := letters.foldl (fun s c => match c with
        | 'n' => { s with newline := false }
        | 'e' => { s with escapes := true }
        | _ => { s with escapes := false }) s
      options s rest
    else (s, ('-' :: c :: cs) :: rest)
  | args => (s, args)

/-- The value of a hexadecimal digit. -/
def hex? (c : Char) : Option Nat :=
  if c.isDigit then some (c.toNat - '0'.toNat)
  else if 'a' ≤ c.toLower && c.toLower ≤ 'f' then some (c.toLower.toNat - 'a'.toNat + 10)
  else none

/-- An octal digit. -/
def isOctal (c : Char) : Bool :=
  '0' ≤ c && c ≤ '7'

/-- The character that digits spell in a base, of which the low eight bits count. -/
def ofDigits (base : Nat) (digits : Octets) : Char :=
  Char.ofNat (digits.foldl (fun n c => base * n + (hex? c).getD 0) 0 % 256)

/-- The characters behind a backslash and a letter. -/
def named : List (Char × Nat) :=
  [('a', 7), ('b', 8), ('e', 27), ('f', 12), ('n', 10), ('r', 13), ('t', 9), ('v', 11), ('\\', 92)]

/-- Replaces escapes; answers with whether the printing ends there for good. -/
def unescape : (fuel : Nat) → Octets → Octets × Bool
  | 0, cs => (cs, false)
  | _, [] => ([], false)
  | _, ['\\'] => (['\\'], false)
  | fuel + 1, '\\' :: c :: cs =>
    if c = 'c' then ([], true)
    else
      let (piece, rest) := match named.lookup c with
        | some n => ([Char.ofNat n], cs)
        | none =>
          if c = 'x' && (cs.head?.bind hex?).isSome then
            let digits := (cs.take 2).takeWhile (hex? · |>.isSome)
            ([ofDigits 16 digits], cs.drop digits.length)
          else if c = '0' then
            let digits := (cs.take 3).takeWhile isOctal
            ([ofDigits 8 digits], cs.drop digits.length)
          else if isOctal c then
            let digits := ((c :: cs).take 3).takeWhile isOctal
            ([ofDigits 8 digits], (c :: cs).drop digits.length)
          else (['\\', c], cs)
      let (more, stop) := unescape fuel rest
      (piece ++ more, stop)
  | fuel + 1, c :: cs =>
    let (more, stop) := unescape fuel cs
    (c :: more, stop)

/-- Prints its arguments. -/
def run (args : List Octets) : Act Nat := do
  let (s, args) := options {} args
  let text := (List.intersperse [' '] args).flatten
  let (text, stop) := if s.escapes then unescape text.length text else (text, false)
  let text := if s.newline && !stop then text ++ ['\n'] else text
  usage.flush (Act.bytes text)
  return 0

end Tandem.Host.Tool.Echo
