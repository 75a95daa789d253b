import Tandem.NormalDiff
import Tandem.Proofs.NormalDiff.Reading
import Tandem.Proofs.Text.Lines

/-!
# Diffs of texts

The diff of two texts is rendered from their bytes and shown as a text. Nothing is lost on the way:
what is printed of a text are whole lines of it, so that no character is cut, and all that stands
around them are characters of one byte. The rendered bytes are an encoded text, and showing them
replaces nothing (`encode_renderText`).
-/

namespace Tandem.NormalDiff

open Edit Utf8

/-! ### Headers -/

theorem isText_digits (n : ℕ) : IsText (Decimal.digits n) := by
  refine isText_of_lt fun b hb => ?_
  have hdigit := isDigit_of_mem_digits hb
  simp only [isDigit, Bool.and_eq_true, decide_eq_true_eq] at hdigit
  exact UInt8.lt_of_le_of_lt hdigit.2 (by decide)

theorem isText_range (start len : ℕ) : IsText (range start len) := by
  unfold range
  split
  · exact isText_digits _
  · exact ((isText_digits _).append (isText_encode _)).append (isText_digits _)

theorem isText_header (h : Hunk) : IsText (header h) := by
  cases h with
  | delete old len new =>
    exact ((isText_range old len).append (isText_encode _)).append (isText_digits new)
  | insert old new len =>
    exact ((isText_digits old).append (isText_encode _)).append (isText_range new len)
  | change old oldLen new newLen =>
    exact ((isText_range old oldLen).append (isText_encode _)).append (isText_range new newLen)

/-! ### Lines -/

variable {mark : Bytes} {olds news lines : List Bytes}

theorem isText_entries (hmark : IsText mark) (h : ∀ line ∈ lines, IsText line) :
    IsText (entries mark lines) := by
  refine isText_flatMap fun line hline => ?_
  unfold entry
  split
  · exact hmark.append (h line hline)
  · exact (hmark.append (h line hline)).append (isText_encode _)

/-- What is printed of a hunk is a text if the lines are. -/
theorem isText_hunkText (holds : ∀ line ∈ olds, IsText line) (hnews : ∀ line ∈ news, IsText line)
    (h : Hunk) : IsText (hunkText olds news h) := by
  have hgone : ∀ old len, IsText (entries gone (slice olds old len)) := fun old len =>
    isText_entries (isText_encode _) fun line hline =>
      holds line (List.mem_of_mem_drop (List.mem_of_mem_take hline))
  have hcome : ∀ new len, IsText (entries come (slice news new len)) := fun new len =>
    isText_entries (isText_encode _) fun line hline =>
      hnews line (List.mem_of_mem_drop (List.mem_of_mem_take hline))
  refine ((isText_header h).append (isText_encode _)).append ?_
  cases h with
  | delete old len new => exact hgone old len
  | insert old new len => exact hcome new len
  | change old oldLen new newLen =>
    exact ((hgone old oldLen).append (isText_encode _)).append (hcome new newLen)

/-! ### Rendered diffs -/

theorem isText_render {expected actual : Bytes} (hexpected : IsText expected)
    (hactual : IsText actual) : IsText (render expected actual) :=
  isText_flatMap fun h _ => isText_hunkText (fun _ => Lines.isText_of_mem_split hexpected)
    (fun _ => Lines.isText_of_mem_split hactual) h

/-- **The diff of two texts is the diff of their bytes.** The bytes rendered for two encoded texts
have no ill-formed piece, so none is replaced where they are shown, and the text shown has exactly
these bytes. -/
theorem encode_renderText (expected actual : String) :
    isValid (render (encode expected) (encode actual)) = true ∧
      encode (renderText expected actual) = render (encode expected) (encode actual) := by
  have htext := isText_render (isText_encode expected) (isText_encode actual)
  exact ⟨htext.isValid, htext.encode_lossy⟩

end Tandem.NormalDiff
