import Tandem.Text.Utf8

/-!
# Octets as characters

The shell and its tools read text byte by byte, whatever encoding it is in. Here each byte is taken
for the character of the same number, so that such text can be handled with character literals.
-/

namespace Tandem

/-- Characters that stand for one byte each. -/
abbrev Octets := List Char

namespace Octets

/-- The characters of a byte string. -/
def ofBytes (bs : Bytes) : Octets :=
  bs.map fun b => Char.ofNat b.toNat

/-- The bytes that the characters stand for. -/
def toBytes (cs : Octets) : Bytes :=
  cs.map fun c => c.toNat.toUInt8

/-- The characters of a text in ASCII. -/
def ofString (s : String) : Octets :=
  s.toList

/-- The number that decimal digits spell. -/
def number? (cs : Octets) : Option Nat :=
  if cs.isEmpty || !cs.all Char.isDigit then none
  else some (cs.foldl (fun n c => 10 * n + (c.toNat - '0'.toNat)) 0)

/-- Decimal digits with an optional sign. -/
def integer? : Octets → Option Int
  | '-' :: cs => (number? cs).map fun n => -(n : Int)
  | '+' :: cs => (number? cs).map fun n => (n : Int)
  | cs => (number? cs).map fun n => (n : Int)

/-- The decimal digits of a number. -/
def ofNat (n : Nat) : Octets :=
  Nat.toDigits 10 n

end Octets

end Tandem
