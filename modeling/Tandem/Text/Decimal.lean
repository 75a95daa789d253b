import Tandem.Text.Utf8

/-!
# Decimal numbers

Numbers are written in base ten, without leading zeros, with a minus sign in front of negative
ones.
-/

namespace Tandem.Decimal

/-- The digits of a natural number, as ASCII bytes. -/
def digits (n : Nat) : Bytes :=
  (Nat.toDigits 10 n).map Char.toUInt8

/-- The decimal text of an integer. -/
def text (i : Int) : String :=
  if i < 0 then "-" ++ Nat.repr i.natAbs else Nat.repr i.natAbs

end Tandem.Decimal
