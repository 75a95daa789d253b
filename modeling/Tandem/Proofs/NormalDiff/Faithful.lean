import Tandem.Proofs.NormalDiff.Reading

/-!
# What a rendered diff says

Three things can be relied on by whoever reads a rendered diff, for all pairs of byte strings:

* it is **sound** (`Edit.Sound`): its ranges lie inside the two line lists, ascend on both sides
  with unchanged lines between them, and without them the two line lists are the same;
* it is **lossless** (`newOf`, `oldOf`): with either byte string it gives the other one back, byte
  for byte, line terminators included;
* it is **least** (`Edit.common`): no more lines are marked than the two line lists force.

All three are about the hunks and lines that are read back from the text, not about those that the
comparison passed on to the printer.
-/

namespace Tandem

open Edit

/-! ### Soundness -/

/-- The hunks say the truth about two sequences, as far as their ranges go. -/
structure Edit.Sound {α : Type} (olds news : List α) (hs : List Hunk) : Prop where
  /-- A range of the old side is not empty and lies inside the old sequence. -/
  gone_inside : ∀ s ∈ goneIn hs, 0 < s.len ∧ s.stop ≤ olds.length
  /-- A range of the new side is not empty and lies inside the new sequence. -/
  come_inside : ∀ s ∈ comeIn hs, 0 < s.len ∧ s.stop ≤ news.length
  /-- The ranges of the old side ascend and are disjoint. -/
  gone_ascends : (goneIn hs).Pairwise fun s t => s.stop < t.start
  /-- The ranges of the new side ascend and are disjoint. -/
  come_ascends : (comeIn hs).Pairwise fun s t => s.stop < t.start
  /-- Wherever the hunks are divided, an unchanged element lies between. -/
  apart : ∀ before after, hs = before ++ after → before ≠ [] → after ≠ [] →
    Apart olds news before after
  /-- Without the ranges the two sequences are the same. -/
  same_rest : without (goneIn hs) 0 olds = without (comeIn hs) 0 news

/-- Hunks that are laid along two sequences are sound. -/
theorem Edit.Laid.sound {α : Type} {olds news : List α} {others : Change → ℕ → ℕ} {hs : List Hunk}
    (h : Laid olds news others 0 .start hs) : Sound olds news hs := by
  have hgone := h.ascending_gone
  have hcome := h.ascending_come
  refine ⟨fun s hs => (hgone.bounds hs).2, fun s hs => (hcome.bounds hs).2, hgone.pairwise,
    hcome.pairwise, ?_, ?_⟩
  · rintro before after rfl hbefore hafter
    exact h.apart hbefore hafter
  · exact h.without_eq

namespace NormalDiff

/-- **A rendered diff is sound.** It is the text of the hunks that its headers name, and these are
sound for the two line lists. -/
theorem render_sound (expected actual : Bytes) :
    render expected actual = (hunksIn (render expected actual)).flatMap
        (hunkText (Lines.split expected) (Lines.split actual)) ∧
      Sound (Lines.split expected) (Lines.split actual) (hunksIn (render expected actual)) := by
  rw [hunksIn_render]
  exact ⟨rfl, (laid_hunks _ _).sound⟩

/-! ### Losslessness -/

/-- The byte string in which some stretches of lines are taken out of `lines` and others are filled
with `placed`. -/
def rebuild (out inn : List Stretch) (lines placed : List Bytes) : Bytes :=
  (weave 0 (without out 0 lines) (pieces inn placed)).flatten

/-- The new byte string, from the old one and a diff. -/
def newOf (expected text : Bytes) : Bytes :=
  rebuild (goneIn (hunksIn text)) (comeIn (hunksIn text)) (Lines.split expected)
    (marked come (rows text))

/-- The old byte string, from the new one and a diff. -/
def oldOf (actual text : Bytes) : Bytes :=
  rebuild (comeIn (hunksIn text)) (goneIn (hunksIn text)) (Lines.split actual)
    (marked gone (rows text))

/-- Lines are rebuilt from those that two byte strings share and the pieces they do not. -/
private theorem rebuild_eq {bs : Bytes} {lines : List Bytes} {out inn : List Stretch}
    (hinn : Ascending (Lines.split bs).length 0 inn)
    (hrest : without out 0 lines = without inn 0 (Lines.split bs)) :
    rebuild out inn lines (inn.flatMap fun s => s.part (Lines.split bs)) = bs := by
  have hweave := weave_without hinn
  rw [List.drop_zero] at hweave
  rw [rebuild, hrest, pieces_flatMap_part hinn, hweave, Lines.flatten_split]

theorem newOf_render (expected actual : Bytes) :
    newOf expected (render expected actual) = actual := by
  have hlaid := laid_hunks (Lines.split expected) (Lines.split actual)
  rw [newOf, hunksIn_render, marked_come_render]
  exact rebuild_eq hlaid.ascending_come hlaid.without_eq

theorem oldOf_render (expected actual : Bytes) :
    oldOf actual (render expected actual) = expected := by
  have hlaid := laid_hunks (Lines.split expected) (Lines.split actual)
  rw [oldOf, hunksIn_render, marked_gone_render]
  exact rebuild_eq hlaid.ascending_gone hlaid.without_eq.symm

/-- **A rendered diff loses nothing.** With one of the two byte strings it gives the other one back,
and so for each byte string different partners have different diffs. -/
theorem render_lossless :
    (∀ expected actual, newOf expected (render expected actual) = actual) ∧
      (∀ expected actual, oldOf actual (render expected actual) = expected) ∧
      (∀ expected, Function.Injective (render expected)) ∧
      ∀ actual, Function.Injective fun expected => render expected actual := by
  refine ⟨newOf_render, oldOf_render, fun expected actual actual' h => ?_,
    fun actual expected expected' h => ?_⟩
  · rw [← newOf_render expected actual, h, newOf_render]
  · rw [← oldOf_render expected actual, show render expected actual = _ from h, oldOf_render]

example : newOf (Utf8.encode "x\n")
    (Utf8.encode "1c1\n< x\n---\n> x\n\\ No newline at end of file\n") = Utf8.encode "x" := by
  decide

/-! ### Minimality -/

/-- **A rendered diff is least.** With `L` the length of a longest common subsequence of the two
line lists, as many rows carry the mark of a line that is gone, or of one that has come, as there
are lines beyond `L`. None carries the mark of a line that is gone just when the old lines are a
subsequence of the new ones, and the other way round. -/
theorem render_least (expected actual : Bytes) :
    ∃ L, IsGreatest {n | ∃ s : List Bytes, s.Sublist (Lines.split expected) ∧
        s.Sublist (Lines.split actual) ∧ s.length = n} L ∧
      (rows (render expected actual)).countP (gone.isPrefixOf ·)
        = (Lines.split expected).length - L ∧
      (rows (render expected actual)).countP (come.isPrefixOf ·)
        = (Lines.split actual).length - L ∧
      ((rows (render expected actual)).countP (gone.isPrefixOf ·) = 0 ↔
        (Lines.split expected).Sublist (Lines.split actual)) ∧
      ((rows (render expected actual)).countP (come.isPrefixOf ·) = 0 ↔
        (Lines.split actual).Sublist (Lines.split expected)) := by
  have hlaid := laid_hunks (Lines.split expected) (Lines.split actual)
  obtain ⟨hgone, hcome⟩ := total_hunks (Lines.split expected) (Lines.split actual)
  have hold := common_le_left (Lines.split expected) (Lines.split actual)
  have hnew := common_le_right (Lines.split expected) (Lines.split actual)
  refine ⟨common (Lines.split expected) (Lines.split actual), isGreatest_common _ _, ?_⟩
  rw [← length_marked, ← length_marked, marked_gone_render, marked_come_render,
    length_flatMap_part hlaid.ascending_gone, length_flatMap_part hlaid.ascending_come, hgone,
    hcome, ← common_eq_left_iff, ← common_eq_right_iff]
  exact ⟨rfl, rfl, by omega, by omega⟩

end NormalDiff

end Tandem
