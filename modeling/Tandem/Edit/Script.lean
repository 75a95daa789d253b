import Tandem.Edit.Frontier

/-!
# Edit scripts

`script` turns an old sequence into a new one. It keeps what the two share at the front and at the
back; what is left is dropped or added if one side is empty, and otherwise cut in two at a point
where paths of least cost from both ends meet.
-/

namespace Tandem.Edit

variable {α : Type} [DecidableEq α]

/-- Drops all of `old` and adds all of `new`. -/
def replaceAll (i j : Nat) (old new : List α) : List Op :=
  [.delete i old.length j, .insert i j new.length]

/-- A cut of two sequences that leaves both parts smaller than the whole. -/
structure Cut (old new : List α) where
  x : Nat
  y : Nat
  x_le : x ≤ old.length
  y_le : y ≤ new.length
  pos : 0 < x + y
  lt : x + y < old.length + new.length

/-- Where to cut two sequences, if paths from both ends meet strictly inside. -/
def cut? (old new : List α) : Option (Cut old new) :=
  match meeting old new with
  | some (x, y) =>
    if h : x ≤ old.length ∧ y ≤ new.length ∧ 0 < x + y ∧ x + y < old.length + new.length then
      some ⟨x, y, h.1, h.2.1, h.2.2.1, h.2.2.2⟩
    else none
  | none => none

/-- The script from `old`, which starts at position `i`, to `new`, which starts at `j`. -/
def script (i j : Nat) (old new : List α) : List Op :=
  let front := commonFront old new
  let old₁ := old.drop front
  let new₁ := new.drop front
  let back := commonBack old₁ new₁
  let old₂ := old₁.take (old₁.length - back)
  let new₂ := new₁.take (new₁.length - back)
  let i₁ := i + front
  let j₁ := j + front
  let middle :=
    if old₂.isEmpty && new₂.isEmpty then []
    else if new₂.isEmpty then [.delete i₁ old₂.length j₁]
    else if old₂.isEmpty then [.insert i₁ j₁ new₂.length]
    else match cut? old₂ new₂ with
      | some c =>
        script i₁ j₁ (old₂.take c.x) (new₂.take c.y) ++
          script (i₁ + c.x) (j₁ + c.y) (old₂.drop c.x) (new₂.drop c.y)
      | none => replaceAll i₁ j₁ old₂ new₂
  Op.keep i j front ++ middle ++ Op.keep (i₁ + old₂.length) (j₁ + new₂.length) back
termination_by old.length + new.length
decreasing_by
  all_goals
    have hx := c.x_le
    have hy := c.y_le
    have hp := c.pos
    have hl := c.lt
    simp only [old₂, new₂, old₁, new₁, List.length_take, List.length_drop] at *
    omega

end Tandem.Edit
