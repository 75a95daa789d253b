/-!
# Numbers of limited precision

A number with a binary point is a natural number times a power of two. Fractions are rounded to the
nearest number of so many significant bits, a tie going to the even neighbour, and arithmetic rounds
after every operation: `ofRatio` is the one place where precision is lost, and the operations are
exact fractions that pass through it.
-/

namespace Tandem

/-- The number `mantissa * 2 ^ exponent`. -/
structure Binary where
  mantissa : Nat
  exponent : Int
  deriving DecidableEq, Repr

namespace Binary

/-- Zero. -/
def zero : Binary := ⟨0, 0⟩

/-- The numerator of the number as a fraction. -/
def num (x : Binary) : Nat :=
  x.mantissa <<< x.exponent.toNat

/-- The denominator of the number as a fraction, a power of two. -/
def den (x : Binary) : Nat :=
  1 <<< (-x.exponent).toNat

/-- The quotient to the nearest whole number, a tie going to the even neighbour. -/
def divEven (num den : Nat) : Nat :=
  let q := num / den
  let twice := 2 * (num % den)
  if twice < den || (twice = den && q % 2 = 0) then q else q + 1

/-- The multiple of `2 ^ exponent` that is nearest to a fraction. -/
def atExponent (exponent : Int) (num den : Nat) : Binary :=
  ⟨divEven (num <<< (-exponent).toNat) (den <<< exponent.toNat), exponent⟩

/-- The exponent at which a fraction has `bits` bits in front of the binary point. -/
def exponentFor (bits num den : Nat) : Int :=
  let low : Int := (num.log2 : Int) - den.log2 - bits
  if num <<< (-low).toNat < den <<< (bits + low.toNat) then low else low + 1

/-- How exactly numbers are kept: with so many significant bits, none of which stands for less than
`2 ^ least`. -/
structure Precision where
  bits : Nat
  least : Int
  deriving DecidableEq, Repr

/-- Double precision. -/
def Precision.double : Precision := ⟨53, -1074⟩

/-- Extended precision. -/
def Precision.extended : Precision := ⟨64, -16445⟩

/-- The number that is nearest to a fraction. -/
def ofRatio (p : Precision) (num den : Nat) : Binary :=
  if num = 0 || den = 0 then zero else atExponent (max p.least (exponentFor p.bits num den)) num den

/-- The sum, rounded. -/
def add (p : Precision) (x y : Binary) : Binary :=
  ofRatio p (x.num * y.den + y.num * x.den) (x.den * y.den)

/-- The quotient, rounded. -/
def div (p : Precision) (x y : Binary) : Binary :=
  ofRatio p (x.num * y.den) (x.den * y.num)

/-- A whole number, rounded. -/
def ofNat (p : Precision) (n : Nat) : Binary :=
  ofRatio p n 1

/-- `x` is less than `y`. -/
def lt (x y : Binary) : Bool :=
  x.num * y.den < y.num * x.den

end Binary

end Tandem
