import Tandem.Edit.Op

/-!
# Meeting in the middle of an edit graph

Walking from the front of two sequences, a path over deletions and insertions moves between
*diagonals*: on diagonal `k` it has passed `x` old and `x - k` new elements. A `Frontier` holds, for
each diagonal, how far along the old sequence the paths of the current cost reach. `meeting` grows
one frontier from the front and one from the back, the second being the first for the reversed
sequences, until they meet, and answers with a point on a path of least cost.
-/

namespace Tandem.Edit

/-- How far the old sequence is passed on each diagonal; diagonals may be negative. -/
structure Frontier where
  offset : Nat
  reach : Array Nat
  deriving Repr

namespace Frontier

/-- The frontier that holds zero on the diagonals from `-(n + 1)` to `n + 1`. -/
def zero (n : Nat) : Frontier :=
  ⟨n + 1, Array.replicate (2 * n + 3) 0⟩

/-- How far diagonal `k` is reached. -/
def get (v : Frontier) (k : Int) : Nat :=
  v.reach.getD (k + v.offset).toNat 0

/-- Records how far diagonal `k` is reached. -/
def set (v : Frontier) (k : Int) (x : Nat) : Frontier :=
  { v with reach := v.reach.setIfInBounds (k + v.offset).toNat x }

/-- Where a path of cost `d` enters diagonal `k`: by an insertion from the diagonal above, or by a
deletion from the one below, whichever gets further. -/
def enter (v : Frontier) (d : Nat) (k : Int) : Nat :=
  if k = -(d : Int) ∨ (k ≠ (d : Int) ∧ v.get (k - 1) < v.get (k + 1)) then v.get (k + 1)
  else v.get (k - 1) + 1

end Frontier

variable {α : Type} [DecidableEq α]

/-- How many elements agree from position `x` of `as` and position `y` of `bs` on. -/
def matching (as bs : Array α) (x y : Nat) : Nat :=
  if hx : x < as.size then
    if hy : y < bs.size then
      if as[x] = bs[y] then matching as bs (x + 1) (y + 1) + 1 else 0
    else 0
  else 0
termination_by as.size - x

/-- Where the walk along diagonal `k` from `x` ends. -/
def slide (as bs : Array α) (k : Int) (x : Nat) : Nat :=
  if (x : Int) < k then x else x + matching as bs x ((x : Int) - k).toNat

/-- Two frontiers have met: on diagonal `k`, entered at `start`, the walk ended at `stop`. -/
structure Meeting where
  diagonal : Int
  start : Nat
  stop : Nat
  deriving Repr

/-- The diagonals of paths of cost `d`, from the highest down. -/
def diagonals (d : Nat) : List Int :=
  (List.range (d + 1)).map fun (i : Nat) => (d : Int) - 2 * (i : Int)

/-- Advances a frontier on the given diagonals, up to the first on which it meets the other. -/
def sweep (as bs : Array α) (d : Nat) (meets : Int → Nat → Bool) :
    List Int → Frontier → Meeting ⊕ Frontier
  | [], v => .inr v
  | k :: ks, v =>
    let start := v.enter d k
    let stop := slide as bs k start
    if meets k stop then .inl ⟨k, start, stop⟩ else sweep as bs d meets ks (v.set k stop)

/-- Rounds of growing cost `d`, forward and then backward in each; `rounds` bounds how many. -/
def search (as bs : Array α) : (rounds d : Nat) → Frontier → Frontier → Option (Nat × Nat)
  | 0, _, _, _ => none
  | rounds + 1, d, front, back =>
    let n := as.size
    let delta : Int := (n : Int) - (bs.size : Int)
    let odd : Bool := delta % 2 != 0
    let metForward (k : Int) (x : Nat) : Bool :=
      odd && (k - delta).natAbs < d && n ≤ x + back.get (delta - k)
    match sweep as bs d metForward (diagonals d) front with
    | .inl m => some (m.start, ((m.start : Int) - m.diagonal).toNat)
    | .inr front =>
      let metBackward (k : Int) (x : Nat) : Bool :=
        !odd && (k - delta).natAbs ≤ d && n ≤ x + front.get (delta - k)
      match sweep as.reverse bs.reverse d metBackward (diagonals d) back with
      | .inl m => some (n - m.stop, bs.size - ((m.stop : Int) - m.diagonal).toNat)
      | .inr back => search as bs rounds (d + 1) front back

/-- A point, as a number of old and a number of new elements passed, on a path of least cost. -/
def meeting (as bs : List α) : Option (Nat × Nat) :=
  let most := (as.length + bs.length + 1) / 2
  search as.toArray bs.toArray (most + 1) 0 (Frontier.zero most) (Frontier.zero most)

end Tandem.Edit
