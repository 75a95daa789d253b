import Tandem.Number.Reading

/-!
# Conversions of a format

What a conversion such as `%-8.3f` makes of its argument: texts and numbers are written in full, cut
to a precision and set in a field of some width.
-/

namespace Tandem.Format

open Number

/-- Flags, width and precision of a conversion. -/
structure Spec where
  left : Bool := false
  plus : Bool := false
  space : Bool := false
  alternate : Bool := false
  zero : Bool := false
  width : Nat := 0
  precision : Option Nat := none
  deriving DecidableEq, Repr

namespace Spec

/-- Takes one flag into account. -/
def add (s : Spec) (c : Char) : Spec :=
  match c with
  | '-' => { s with left := true }
  | '+' => { s with plus := true }
  | ' ' => { s with space := true }
  | '#' => { s with alternate := true }
  | '0' => { s with zero := true }
  | _ => s

/-- The width that an argument asks for; a negative one asks for the left. -/
def withWidth (s : Spec) (w : Int) : Spec :=
  if w < 0 then { s with left := true, width := w.natAbs } else { s with width := w.natAbs }

/-- The precision that an argument asks for; a negative one asks for none. -/
def withPrecision (s : Spec) (p : Int) : Spec :=
  { s with precision := if p < 0 then none else some p.natAbs }

/-- Sets a text with a sign or mark at its front in its field. -/
def field (s : Spec) (zeros : Bool) (front body : Octets) : Octets :=
  let fill := s.width - (front.length + body.length)
  if s.left then front ++ body ++ List.replicate fill ' '
  else if zeros && s.zero then front ++ List.replicate fill '0' ++ body
  else List.replicate fill ' ' ++ front ++ body

/-- The sign of a number. -/
def signOf (s : Spec) (negative : Bool) : Octets :=
  if negative then ['-'] else if s.plus then ['+'] else if s.space then [' '] else []

end Spec

/-- A text. -/
def text (s : Spec) (cs : Octets) : Octets :=
  s.field false [] (match s.precision with
    | some n => cs.take n
    | none => cs)

/-- One character. -/
def character (s : Spec) (c : Char) : Octets :=
  s.field false [] [c]

/-- Digits with zeros in front up to the precision. -/
def digitsOf (s : Spec) (base n : Nat) : Octets :=
  let digits := if n = 0 && s.precision = some 0 then [] else Nat.toDigits base n
  List.replicate (s.precision.getD 0 - digits.length) '0' ++ digits

/-- A whole number with its sign. -/
def signed (s : Spec) (n : Int) : Octets :=
  s.field s.precision.isNone (s.signOf (n < 0)) (digitsOf s 10 n.natAbs)

/-- A whole number without a sign, by the letter of its conversion. -/
def unsigned (s : Spec) (kind : Char) (n : Nat) : Octets :=
  match kind with
  | 'x' | 'X' =>
    let body := digitsOf s 16 n
    let front := if s.alternate && n ≠ 0 then ['0', kind] else []
    s.field s.precision.isNone front (if kind = 'X' then body.map Char.toUpper else body)
  | 'o' =>
    let body := digitsOf s 8 n
    let body := if s.alternate && body.head? != some '0' then '0' :: body else body
    s.field s.precision.isNone [] body
  | _ => s.field s.precision.isNone [] (digitsOf s 10 n)

/-! ### Real numbers -/

/-- Digits with a point before the last `places` of them. -/
def withPoint (s : Spec) (places n : Nat) : Octets :=
  let digits := Nat.toDigits 10 n
  let digits := List.replicate (places + 1 - digits.length) '0' ++ digits
  let whole := digits.take (digits.length - places)
  if places = 0 then (if s.alternate then whole ++ ['.'] else whole)
  else whole ++ '.' :: digits.drop whole.length

/-- A fraction with so many decimal places. -/
def fixed (s : Spec) (places num den : Nat) : Octets :=
  withPoint s places (Binary.divEven (num * Nat.pow 10 places) den)

/-- The greatest `e` with `10 ^ e` not above a fraction that is not zero. -/
def magnitude (num den : Nat) : Int :=
  if den ≤ num then ((Nat.toDigits 10 (num / den)).length : Int) - 1
  else
    let rough := (Nat.toDigits 10 (den / num)).length
    if den ≤ num * Nat.pow 10 (rough - 1) then -((rough : Int) - 1) else -(rough : Int)

/-- A fraction as digits, of which all but the first are places, and a power of ten. -/
def mantissa (places num den : Nat) : Nat × Int :=
  if num = 0 then (0, 0)
  else
    let e := magnitude num den
    let scale := (places : Int) - e
    let n := Binary.divEven (num * Nat.pow 10 scale.toNat) (den * Nat.pow 10 (-scale).toNat)
    if n = Nat.pow 10 (places + 1) then (n / 10, e + 1) else (n, e)

/-- An exponent with its sign and at least two digits. -/
def exponentText (e : Int) : Octets :=
  let digits := Nat.toDigits 10 e.natAbs
  (if e < 0 then '-' else '+') :: (if digits.length < 2 then '0' :: digits else digits)

/-- A fraction as digits with a power of ten. -/
def scientific (s : Spec) (places num den : Nat) : Octets :=
  let (n, e) := mantissa places num den
  withPoint s places n ++ 'e' :: exponentText e

/-- The text without zeros at its end, and without a point that nothing follows. -/
def trimZeros (cs : Octets) : Octets :=
  if cs.contains '.' then
    match cs.reverse.dropWhile (· == '0') with
    | '.' :: rest => rest.reverse
    | rest => rest.reverse
  else cs

/-- A fraction in whichever way is shorter. -/
def general (s : Spec) (precision num den : Nat) : Octets :=
  let precision := max precision 1
  let (_, e) := mantissa (precision - 1) num den
  let trim (cs : Octets) : Octets := if s.alternate then cs else trimZeros cs
  if -4 ≤ e && e < precision then trim (fixed s ((precision : Int) - 1 - e).toNat num den)
  else
    let (n, e) := mantissa (precision - 1) num den
    trim (withPoint s (precision - 1) n) ++ 'e' :: exponentText e

/-- A number with a binary point in base sixteen, with `lead` bits before the point. One that is
kept with fewer than `bits` bits starts with a zero. Rounding to fewer places may make the digit
before the point too large to be one, and then it is `1` at a greater exponent. -/
def hexadecimal (s : Spec) (lead bits : Nat) (x : Binary) : Octets :=
  let places := (bits - lead + 3) / 4
  let point (n places : Nat) (e : Int) : Octets :=
    let digits := Nat.toDigits 16 n
    let digits := List.replicate (places + 1 - digits.length) '0' ++ digits
    let whole := digits.take (digits.length - places)
    let part := digits.drop whole.length
    let part := if s.precision.isNone then (part.reverse.dropWhile (· == '0')).reverse else part
    whole ++ (if part.isEmpty && !s.alternate then [] else '.' :: part) ++
      ['p', if e < 0 then '-' else '+'] ++ Nat.toDigits 10 e.natAbs
  if x.mantissa = 0 then point 0 (s.precision.getD 0) 0
  else
    let width := max bits (x.mantissa.log2 + 1)
    let n := (x.mantissa <<< (lead + 4 * places)) >>> width
    let e : Int := x.exponent + (width - lead : Nat)
    match s.precision with
    | some p =>
      if p < places then
        let rounded := Binary.divEven n (1 <<< (4 * (places - p)))
        if rounded < 1 <<< (4 * (p + 1)) then point rounded p e else point (rounded >>> 4) p (e + 4)
      else point (n <<< (4 * (p - places))) p e
    | none => point n places e

/-- How real numbers are kept before they are written. -/
structure Kept where
  precision : Binary.Precision
  /-- The greatest power of two. -/
  most : Nat
  /-- How many bits stand before the point in base sixteen. -/
  lead : Nat

/-- Numbers of double precision. -/
def Kept.double : Kept := ⟨.double, 1024, 1⟩

/-- Numbers of extended precision. -/
def Kept.extended : Kept := ⟨.extended, 16384, 4⟩

/-- A number is too large to be kept. -/
def Kept.overflows (k : Kept) : Magnitude → Bool
  | .finite num den =>
    let x := Binary.ofRatio k.precision num den
    x.den <<< k.most ≤ x.num
  | _ => false

/-- A number is too small to be kept, and not zero. -/
def Kept.underflows (k : Kept) : Magnitude → Bool
  | .finite num den =>
    let x := Binary.ofRatio k.precision num den
    let isExact := (x.mantissa * den) <<< x.exponent.toNat = num <<< (-x.exponent).toNat
    num ≠ 0 && x.mantissa.log2 + 1 < k.precision.bits && (!isExact || x.mantissa = 0)
  | _ => false

/-- A real number by the letter of its conversion. -/
def real (k : Kept) (s : Spec) (kind : Char) (x : Numeral) : Octets :=
  let upper := CharClass.isUpper kind
  let shape (cs : Octets) : Octets := if upper then cs.map Char.toUpper else cs
  let front := s.signOf x.negative
  let plain (word : String) : Octets :=
    { s with zero := false }.field false front (shape (Octets.ofString word))
  if k.overflows x.magnitude then plain "inf"
  else match x.magnitude with
    | .infinite => plain "inf"
    | .notANumber => plain "nan"
    | .finite num den =>
      let b := Binary.ofRatio k.precision num den
      let precision := s.precision.getD 6
      match kind.toLower with
      | 'e' => s.field true front (shape (scientific s precision b.num b.den))
      | 'g' => s.field true front (shape (general s precision b.num b.den))
      | 'a' => s.field true (front ++ shape ['0', 'x'])
          (shape (hexadecimal s k.lead k.precision.bits b))
      | _ => s.field true front (fixed s precision b.num b.den)

end Tandem.Format
