import Mathlib.Tactic
import Tandem.Proofs.NormalDiff.Reading

/-!
# The positions in headers

The header of a lone deletion also names the new line after which it happened, and that of a lone
addition the old line after which the lines go. Such a position is **right** when it is the position
on the side that is touched, corrected by what the hunks before have dropped and added
(`PositionsRight`). If all are right, the diff can be applied by them (`patch`).

They need not be. Compaction may carry additions past a deletion and slide them on along unchanged
lines, and the positions on the untouched sides stay behind. What is printed is the position that
the script had *before* compaction, counted by rank, and so the exact condition is that compaction
has carried nothing across a lone hunk (`KeepsOrder`, `Laid.positionsRight_iff`).
-/

namespace Tandem

namespace Edit

/-! ### Right positions -/

/-- What the hunk says of the side it does not touch is right after hunks that have dropped `g` and
added `c` elements. -/
def Hunk.PositionRight (g c : ℕ) : Hunk → Prop
  | .delete old _ new => (new : ℤ) = old - g + c
  | .insert old new _ => (old : ℤ) = new - c + g
  | .change .. => True

/-- All positions are right, after hunks that have dropped `g` and added `c` elements. -/
def PositionsRight (g c : ℕ) : List Hunk → Prop
  | [] => True
  | h :: hs => h.PositionRight g c ∧ PositionsRight (g + total h.gone) (c + total h.come) hs

instance (g c : ℕ) : DecidablePred (Hunk.PositionRight g c)
  | .delete old _ new => inferInstanceAs (Decidable ((new : ℤ) = old - g + c))
  | .insert old new _ => inferInstanceAs (Decidable ((old : ℤ) = new - c + g))
  | .change .. => inferInstanceAs (Decidable True)

instance decidablePositionsRight (g c : ℕ) : DecidablePred (PositionsRight g c)
  | [] => inferInstanceAs (Decidable True)
  | h :: hs =>
    have := decidablePositionsRight (g + total h.gone) (c + total h.come) hs
    inferInstanceAs (Decidable (h.PositionRight g c ∧ _))

/-- Across a lone hunk, after hunks that have dropped `g` and added `c` elements, no change of the
other kind has been carried: `others` elements of the other kind come before it. -/
def Hunk.KeepsOrder (others : Change → ℕ → ℕ) (g c : ℕ) : Hunk → Prop
  | .delete .. => others .deletion g = c
  | .insert .. => others .addition c = g
  | .change .. => True

/-- Across no lone hunk has a change of the other kind been carried. -/
def KeepsOrder (others : Change → ℕ → ℕ) (g c : ℕ) : List Hunk → Prop
  | [] => True
  | h :: hs => h.KeepsOrder others g c ∧ KeepsOrder others (g + total h.gone) (c + total h.come) hs

section Laid

variable {α : Type} {olds news : List α} {others : Change → ℕ → ℕ} {least : ℕ} {p : Place}
  {h : Hunk} {hs : List Hunk}

theorem Hunk.Fits.positionRight_iff (hfits : h.Fits olds news others p) :
    h.PositionRight p.gone p.come ↔ h.KeepsOrder others p.gone p.come := by
  cases h with
  | delete old len new =>
    obtain ⟨rfl, -, -, rfl⟩ := hfits
    simp only [Hunk.PositionRight, Hunk.KeepsOrder, Place.old]
    omega
  | insert old new len =>
    obtain ⟨rfl, -, -, rfl⟩ := hfits
    simp only [Hunk.PositionRight, Hunk.KeepsOrder, Place.new]
    omega
  | change old oldLen new newLen => exact Iff.rfl

/-- **Positions are right exactly when order is kept**, for hunks that are laid. -/
theorem Laid.positionsRight_iff (hlaid : Laid olds news others least p hs) :
    PositionsRight p.gone p.come hs ↔ KeepsOrder others p.gone p.come hs := by
  induction hs generalizing least p with
  | nil => exact Iff.rfl
  | cons h hs ih =>
    obtain ⟨m, -, -, hfits, hrest⟩ := hlaid
    exact and_congr hfits.positionRight_iff (ih hrest)

/-! ### Applying hunks -/

/-- How many old elements come before the hunk, as its header says. -/
def Hunk.start : Hunk → ℕ
  | .delete old _ _ => old
  | .insert old _ _ => old
  | .change old _ _ _ => old

/-- Applies hunks to the elements from position `i` on, each at the position that its header names,
with the elements to be added in `placed`. Fails if a hunk starts before the end of the one before
it, or reaches past the last element. -/
def patch (i : ℕ) (rest : List α) : List Hunk → List α → Option (List α)
  | [], _ => some rest
  | h :: hs, placed =>
    if i ≤ h.start ∧ h.start - i + total h.gone ≤ rest.length then
      (patch (h.start + total h.gone) (rest.drop (h.start - i + total h.gone)) hs
        (placed.drop (total h.come))).map
          (rest.take (h.start - i) ++ placed.take (total h.come) ++ ·)
    else none

/-- A hunk whose position is right starts at its place. -/
theorem Hunk.Fits.start_eq (hfits : h.Fits olds news others p)
    (hright : h.PositionRight p.gone p.come) : h.start = p.old := by
  cases h with
  | delete old len new => exact hfits.1
  | insert old new len =>
    obtain ⟨rfl, -⟩ := hfits
    simp only [Hunk.PositionRight, Place.new] at hright
    simp only [Hunk.start, Place.old]
    omega
  | change old oldLen new newLen => exact hfits.1

/-- **Hunks with right positions can be applied by them.** -/
theorem Laid.patch_eq (hlaid : Laid olds news others least p hs)
    (hright : PositionsRight p.gone p.come hs) :
    patch p.old (olds.drop p.old) hs ((comeIn hs).flatMap fun s => s.part news)
      = some (news.drop p.new) := by
  induction hs generalizing least p with
  | nil => exact congrArg some hlaid
  | cons h hs ih =>
    obtain ⟨m, -, hkept, hfits, hrest⟩ := hlaid
    obtain ⟨hhere, hright⟩ := hright
    have hstart : h.start = p.old + m := by
      rw [hfits.start_eq hhere, Place.old_keep]
    have hgone := hfits.gone.add_total_le (by simpa using hkept.old_le)
    have hcome := hfits.come.add_total_le (by simpa using hkept.new_le)
    have hpart := hfits.come.flatMap_part
    have ih' := ih hrest hright
    -- so the lines up to the hunk are those passed, and what is placed stands right after them
    simp only [Place.old_past, Place.new_past, Place.old_keep, Place.new_keep]
      at hgone hcome hpart ih'
    have hlen : (slice news (p.new + m) (total h.come)).length = total h.come := length_slice hcome
    rw [patch, hstart, if_pos ⟨Nat.le_add_right _ _, by rw [List.length_drop]; omega⟩,
      Nat.add_sub_cancel_left, List.drop_drop, comeIn_cons, List.flatMap_append, hpart,
      List.take_left' hlen, List.drop_left' hlen, ← Nat.add_assoc, ih', Option.map_some]
    have hslice : (olds.drop p.old).take m = slice news p.new m := hkept.slice_eq
    rw [hslice, List.append_assoc, slice_append_drop, slice_append_drop]

end Laid

end Edit

/-! ### Rendered diffs -/

namespace NormalDiff

open Edit

/-- The byte string that applying a diff at the positions in its headers gives. -/
def patched (expected text : Bytes) : Option Bytes :=
  (patch 0 (Lines.split expected) (hunksIn text) (marked come (rows text))).map List.flatten

/-- **A rendered diff has right positions, and can be applied by them, exactly when compaction has
carried nothing across a lone hunk.** -/
theorem applicable_render_iff (expected actual : Bytes) :
    (PositionsRight 0 0 (hunksIn (render expected actual)) ∧
        patched expected (render expected actual) = some actual) ↔
      KeepsOrder
        (fun kind => othersBefore kind (script 0 0 (Lines.split expected) (Lines.split actual))) 0 0
        (hunksIn (render expected actual)) := by
  have hlaid := laid_hunks (Lines.split expected) (Lines.split actual)
  have hiff : PositionsRight 0 0 _ ↔ KeepsOrder _ 0 0 _ := hlaid.positionsRight_iff
  rw [patched, hunksIn_render, marked_come_render, ← hiff]
  refine and_iff_left_of_imp fun hright => ?_
  have hpatch : patch 0 (Lines.split expected) _ _ = some (Lines.split actual) :=
    hlaid.patch_eq hright
  rw [hpatch, Option.map_some, Lines.flatten_split]

/-- **Positions can be wrong, and applying a diff by them can go wrong.** The first `b` was to be
added ahead of the deletion; compaction has carried it past the deletion and past the `b` that
stays, where it joins the addition of `a`. Both headers name positions from before: `1d0` and
`2a2,3` would be right. By those printed, the two lines go in front of the `b` that stays. -/
theorem positions_wrong_after_slide :
    let expected := Utf8.encode "a\nb\n"
    let actual := Utf8.encode "b\nb\na\n"
    render expected actual = Utf8.encode "1d1\n< a\n1a2,3\n> b\n> a\n" ∧
      ¬ PositionsRight 0 0 (hunksIn (render expected actual)) ∧
      patched expected (render expected actual) = some (Utf8.encode "b\na\nb\n") := by
  have hrender : render (Utf8.encode "a\nb\n") (Utf8.encode "b\nb\na\n")
      = Utf8.encode "1d1\n< a\n1a2,3\n> b\n> a\n" := by cbv
  simp only [hrender]
  exact ⟨trivial, by decide, by decide⟩

end NormalDiff

end Tandem
