/-!
# Sets of characters

A set of characters is kept as ranges of code points, in ascending order and apart from one another.
Surrogates are no characters and lie in no range, also not in those of a complement, so a set is
empty exactly if it has no ranges.
-/

namespace Tandem

/-- Ranges of code points, in ascending order and apart from one another. -/
structure CharSet where
  ranges : List (Nat × Nat)
  deriving DecidableEq, Repr

namespace CharSet

/-- No character. -/
def empty : CharSet := ⟨[]⟩

/-- The set holds no character. -/
def isEmpty (s : CharSet) : Bool :=
  s.ranges.isEmpty

/-- The character is in the set. -/
def contains (s : CharSet) (c : Char) : Bool :=
  s.ranges.any fun (low, high) => low ≤ c.toNat && c.toNat ≤ high

/-- Adds a range to ascending ranges, and joins those that it meets. -/
def addRange (low high : Nat) : List (Nat × Nat) → List (Nat × Nat)
  | [] => [(low, high)]
  | (l, h) :: rest =>
    if high < l then (low, high) :: (l, h) :: rest
    else if h < low then (l, h) :: addRange low high rest
    else addRange (min low l) (max high h) rest

/-- The first and the last surrogate. -/
def surrogates : Nat × Nat := (0xD800, 0xDFFF)

/-- The last code point. -/
def lastPoint : Nat := 0x10FFFF

/-- The characters from one to another, both included. -/
def between (low high : Char) : CharSet :=
  if high < low then empty
  else if low.toNat < surrogates.1 && surrogates.2 < high.toNat then
    ⟨[(low.toNat, surrogates.1 - 1), (surrogates.2 + 1, high.toNat)]⟩
  else ⟨[(low.toNat, high.toNat)]⟩

/-- One character. -/
def single (c : Char) : CharSet :=
  between c c

/-- The characters of either set. -/
def union (s t : CharSet) : CharSet :=
  ⟨t.ranges.foldl (fun ranges (low, high) => addRange low high ranges) s.ranges⟩

/-- What lies between ascending ranges, from a code point on. -/
def gaps (start : Nat) : List (Nat × Nat) → List (Nat × Nat)
  | [] => if start ≤ lastPoint then [(start, lastPoint)] else []
  | (low, high) :: rest =>
    if start < low then (start, low - 1) :: gaps (high + 1) rest else gaps (high + 1) rest

/-- The characters that are not in the set. -/
def complement (s : CharSet) : CharSet :=
  ⟨gaps 0 (addRange surrogates.1 surrogates.2 s.ranges)⟩

/-- The characters of both sets. -/
def inter (s t : CharSet) : CharSet :=
  (s.complement.union t.complement).complement

/-- The characters of the first set that are not in the second. -/
def diff (s t : CharSet) : CharSet :=
  s.inter t.complement

/-- The characters that are in one of the sets and not in the other. -/
def exclusive (s t : CharSet) : CharSet :=
  (s.diff t).union (t.diff s)

/-- How far apart the two cases of an ASCII letter are. -/
def caseShift : Nat := 'a'.toNat - 'A'.toNat

/-- The set with both cases of each of its ASCII letters. -/
def foldCase (s : CharSet) : CharSet :=
  let moved (low high : Char) (shift : Nat → Nat) : CharSet :=
    ⟨(s.inter (between low high)).ranges.map fun (l, h) => (shift l, shift h)⟩
  (s.union (moved 'A' 'Z' (· + caseShift))).union (moved 'a' 'z' (· - caseShift))

end CharSet

end Tandem
