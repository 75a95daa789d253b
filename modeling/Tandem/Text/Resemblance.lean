import Tandem.Number.Binary

/-!
# Resemblance of words

The Jaro measure of two words. Two equal characters match if they stand close enough together, no
character matches twice, and matches that come in another order on the two sides count half. With
`m` matches, `t` of them out of order in pairs, among `a` and `b` characters, the measure is the
mean of `m / a`, `m / b` and `(m - t) / m`. It is computed in double precision, from left to right,
so that two words may score a little less or more than the exact mean.
-/

namespace Tandem.Resemblance

/-- A measure between zero and one. -/
abbrev Score := Binary

/-- Marks the first unmarked `c` between positions `low` and `high`; `none` if there is none. -/
def mark (c : Char) (low high i : Nat) : List (Char × Bool) → Option (List (Char × Bool))
  | [] => none
  | (d, taken) :: rest =>
    if low ≤ i && i < high && c == d && !taken then some ((d, true) :: rest)
    else (mark c low high (i + 1) rest).map ((d, taken) :: ·)

/-- Matches the characters of the first word, from position `i` on, against the second; answers
with the characters that found a match and the second word with its matches marked. -/
def pairUp (window i : Nat) : List Char → List (Char × Bool) → List Char × List (Char × Bool)
  | [], bs => ([], bs)
  | c :: cs, bs =>
    match mark c (i - window) (i + window + 1) 0 bs with
    | some bs =>
      let (found, bs) := pairUp window (i + 1) cs bs
      (c :: found, bs)
    | none => pairUp window (i + 1) cs bs

/-- A quotient of whole numbers. -/
def ratio (num den : Nat) : Score :=
  Binary.ofRatio .double num den

/-- The mean of three scores, added from left to right. -/
def mean (x y z : Score) : Score :=
  Binary.div .double (Binary.add .double (Binary.add .double x y) z) (Binary.ofNat .double 3)

/-- The Jaro measure. -/
def jaro (s t : String) : Score :=
  let as := s.toList
  let bs := t.toList
  let a := as.length
  let b := bs.length
  if a = 0 && b = 0 then ratio 1 1
  else
    let window := max a b / 2 - 1
    let (left, marked) := pairUp window 0 as (bs.map (·, false))
    let right := (marked.filter (·.2)).map (·.1)
    let m := left.length
    let t := ((left.zip right).filter fun (x, y) => x != y).length / 2
    if m = 0 then ratio 0 1 else mean (ratio m a) (ratio m b) (ratio (m - t) m)

end Tandem.Resemblance
