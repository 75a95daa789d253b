import Tandem.Number.Binary
import Tandem.Text.CharClass

/-!
# Numbers at the front of a text

Programs take numbers from the front of a text and look at what is left: blanks and a sign may come
first, a whole number may be marked as octal or hexadecimal, and a real number may have a point, an
exponent, or be infinite or no number at all.
-/

namespace Tandem.Number

/-- The value of a digit, up to the letters of base sixteen. -/
def digit? (c : Char) : Option Nat :=
  if CharClass.isDigit c then some (c.toNat - '0'.toNat)
  else if 'a' ≤ c.toLower && c.toLower ≤ 'f' then some (c.toLower.toNat - 'a'.toNat + 10)
  else none

/-- The digit belongs to a base. -/
def isDigitOf (base : Nat) (c : Char) : Bool :=
  (digit? c).any (· < base)

/-- The number that digits spell in a base. -/
def ofDigits (base : Nat) (digits : Octets) : Nat :=
  digits.foldl (fun n c => base * n + (digit? c).getD 0) 0

/-- The text without the blanks at its front. -/
def skipBlanks (cs : Octets) : Octets :=
  cs.dropWhile CharClass.isSpace

/-- A sign, if there is one, and what is left. -/
def sign (cs : Octets) : Bool × Octets :=
  match cs with
  | '-' :: rest => (true, rest)
  | '+' :: rest => (false, rest)
  | _ => (false, cs)

/-- A whole number without a sign in a base, and what is left; `none` if there are no digits. -/
def naturalIn? (base : Nat) (cs : Octets) : Option (Nat × Octets) :=
  let digits := cs.takeWhile (isDigitOf base)
  if digits.isEmpty then none else some (ofDigits base digits, cs.drop digits.length)

/-- A whole number without a sign in the base that it is marked with, and what is left; `none` if
there are no digits. -/
def natural? (cs : Octets) : Option (Nat × Octets) :=
  match cs with
  | '0' :: x :: rest =>
    if (x == 'x' || x == 'X') && rest.head?.any (isDigitOf 16) then naturalIn? 16 rest
    else naturalIn? 8 cs
  | '0' :: _ => naturalIn? 8 cs
  | _ => naturalIn? 10 cs

/-- A whole number, and what is left; `none` if the text does not start with one. -/
def integer? (cs : Octets) : Option (Int × Octets) :=
  let (negative, rest) := sign (skipBlanks cs)
  (natural? rest).map fun (n, rest) => (if negative then -(n : Int) else n, rest)

/-- The least whole number that 64 bits hold with a sign. -/
def leastSigned : Int := -0x8000000000000000

/-- The greatest whole number that 64 bits hold with a sign. -/
def greatestSigned : Int := 0x7FFFFFFFFFFFFFFF

/-- The greatest whole number that 64 bits hold without a sign. -/
def greatestUnsigned : Nat := 0xFFFFFFFFFFFFFFFF

/-- The size of a real number. -/
inductive Magnitude where
  | finite (num den : Nat)
  | infinite
  | notANumber
  deriving DecidableEq, Repr

/-- A real number as a numeral gives it. -/
structure Numeral where
  negative : Bool := false
  magnitude : Magnitude := .finite 0 1
  deriving DecidableEq, Repr

/-- An exponent behind its letter, and what is left; without digits it is none. -/
def exponent (letter : Char) (cs : Octets) : Int × Octets :=
  match cs with
  | c :: rest =>
    if c.toLower == letter then
      let (negative, more) := sign rest
      let digits := more.takeWhile CharClass.isDigit
      if digits.isEmpty then (0, cs)
      else
        let n : Int := ofDigits 10 digits
        (if negative then -n else n, more.drop digits.length)
    else (0, cs)
  | [] => (0, cs)

/-- A real number in a base, scaled by powers of `step`; `none` if there are no digits. -/
def scaled? (base step : Nat) (letter : Char) (cs : Octets) : Option (Magnitude × Octets) :=
  let whole := cs.takeWhile (isDigitOf base)
  let rest := cs.drop whole.length
  let (part, rest) := match rest with
    | '.' :: more =>
      let part := more.takeWhile (isDigitOf base)
      if whole.isEmpty && part.isEmpty then ([], rest) else (part, more.drop part.length)
    | _ => ([], rest)
  if whole.isEmpty && part.isEmpty then none
  else
    let (e, rest) := exponent letter rest
    let e := max (-100000) (min 100000 e)
    some (.finite (ofDigits base (whole ++ part) * Nat.pow step e.toNat)
      (Nat.pow base part.length * Nat.pow step (-e).toNat), rest)

/-- A word at the front of a text, in any case. -/
def word? (word : String) (cs : Octets) : Option Octets :=
  let front := cs.take word.length
  if String.ofList (front.map Char.toLower) == word then some (cs.drop word.length) else none

/-- A real number, and what is left; `none` if the text does not start with one. -/
def real? (cs : Octets) : Option (Numeral × Octets) :=
  let (negative, rest) := sign (skipBlanks cs)
  let found : Option (Magnitude × Octets) :=
    match word? "infinity" rest, word? "inf" rest, word? "nan" rest, rest with
    | some more, _, _, _ | none, some more, _, _ => some (.infinite, more)
    | none, none, some more, _ => some (.notANumber, more)
    | none, none, none, '0' :: x :: more =>
      if x == 'x' || x == 'X' then
        match scaled? 16 2 'p' more with
        | some found => some found
        | none => scaled? 10 10 'e' rest
      else scaled? 10 10 'e' rest
    | none, none, none, _ => scaled? 10 10 'e' rest
  found.map fun (magnitude, more) => (⟨negative, magnitude⟩, more)

end Tandem.Number
