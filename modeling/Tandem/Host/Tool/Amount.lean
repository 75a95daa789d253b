import Tandem.Number.Reading

/-!
# Amounts

A number on a command line may have a unit behind it: a letter for a power of 1024, which `iB` may
follow, or for the same power of 1000 if `B` or `D` follows. A unit alone counts once.
-/

namespace Tandem.Host.Tool.Amount

open Number

/-- The powers that letters stand for. -/
def powers : List (Char × Nat) :=
  [('k', 1), ('K', 1), ('m', 2), ('M', 2), ('G', 3), ('T', 4), ('P', 5), ('E', 6), ('Z', 7),
    ('Y', 8)]

/-- The bytes in a block, a unit of its own that nothing may follow. -/
def block : Nat := 512

/-- A unit at the front of a text, one of those that are known, and what is left. -/
def unit? (units : List Char) : Octets → Option (Nat × Octets)
  | [] => none
  | letter :: rest =>
    if !units.contains letter then none
    else if letter == 'b' then some (block, rest)
    else (powers.lookup letter).map fun power =>
      match rest with
      | 'i' :: 'B' :: rest => (Nat.pow 1024 power, rest)
      | 'B' :: rest | 'D' :: rest => (Nat.pow 1000 power, rest)
      | _ => (Nat.pow 1024 power, rest)

/-- An amount at the front of a text, and what is left. Blanks and a plus sign may come before the
number, but not before a unit alone. -/
def read? (units : List Char) (number? : Octets → Option (Nat × Octets)) (cs : Octets) :
    Option (Nat × Octets) :=
  let (negative, digits) := sign (skipBlanks cs)
  if negative then none
  else match number? digits with
    | none => unit? units cs
    | some (n, rest) => match unit? units rest with
      | some (unit, rest) => some (n * unit, rest)
      | none => some (n, rest)

end Tandem.Host.Tool.Amount
