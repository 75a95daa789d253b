import Mathlib.Tactic
import Tandem.Text.Lines
import Tandem.Proofs.Text.Encoding

/-!
# Dividing a file

Where a file is divided depends on the byte before and the byte after the place alone. So a file
whose first part ends in `\n` has the lines of that part and then those of the rest
(`split_append`). And no line begins or ends inside a character, since only bytes that are
characters of their own end a line: the lines of an encoded text are encoded texts
(`isText_of_mem_split`).
-/

namespace Tandem.Lines

variable {bs rest line : Bytes} {lines : List Bytes}

/-- Bytes that end no line are put at the front of the first line. -/
theorem split_append_of_forall (h : ∀ b ∈ bs, b ≠ lf ∧ b ≠ cr) (rest : Bytes) :
    split (bs ++ rest) = bs.foldr extend (split rest) := by
  induction bs with
  | nil => rfl
  | cons b bs ih =>
    rw [List.forall_mem_cons] at h
    have hends : endsAfter b (bs ++ rest) = false := by simp [endsAfter, h.1]
    rw [List.cons_append, split, hends, if_neg (by simp), ih h.2, List.foldr_cons]

theorem foldr_extend_cons (bs line : Bytes) (lines : List Bytes) :
    bs.foldr extend (line :: lines) = (bs ++ line) :: lines := by
  induction bs with
  | nil => rfl
  | cons b bs ih => rw [List.foldr_cons, ih, extend, List.cons_append]

theorem foldr_extend_nil (h : bs ≠ []) : bs.foldr extend [] = [bs] := by
  obtain ⟨bs, b, rfl⟩ := bs.eq_nil_or_concat'.resolve_left h
  rw [List.foldr_append, List.foldr_cons, List.foldr_nil, extend, foldr_extend_cons]

/-! ### Files in two parts -/

theorem split_append_lf (bs rest : Bytes) :
    split (bs ++ lf :: rest) = split (bs ++ [lf]) ++ split rest := by
  induction bs with
  | nil => rfl
  | cons b bs ih =>
    -- the first byte sees the same byte after it on both sides
    have hhead : (bs ++ lf :: rest).head? = (bs ++ [lf]).head? := by cases bs <;> rfl
    have hne : split (bs ++ [lf]) ≠ [] := fun hnil => by
      have hflatten := flatten_split (bs ++ [lf])
      simp [hnil] at hflatten
    rw [List.cons_append, List.cons_append, split, split, endsAfter, endsAfter, hhead, ih]
    split
    · rfl
    · obtain ⟨line, lines, heq⟩ := List.exists_cons_of_ne_nil hne
      rw [heq]
      rfl

/-- **A file whose first part ends in `\n`** has the lines of this part, and then those of the
rest. -/
theorem split_append (h : bs = [] ∨ bs.getLast? = some lf) (rest : Bytes) :
    split (bs ++ rest) = split bs ++ split rest := by
  rcases h with rfl | h
  · rfl
  · obtain ⟨bs, rfl⟩ := List.getLast?_eq_some_iff.mp h
    rw [List.append_assoc, List.singleton_append, split_append_lf]

/-! ### Encoded texts -/

open Utf8

/-- A line goes on after a character, or ends there. -/
theorem split_encodeChar_append (c : Char) (rest : Bytes) :
    split (String.utf8EncodeChar c ++ rest) = String.utf8EncodeChar c :: split rest ∨
      split (String.utf8EncodeChar c ++ rest)
        = (String.utf8EncodeChar c).foldr extend (split rest) := by
  rcases encodeChar_eq_singleton_or c with ⟨b, hb⟩ | hhigh
  · rw [hb, List.singleton_append, split]
    split
    · exact .inl rfl
    · exact .inr rfl
  · refine .inr (split_append_of_forall (fun b hb => ?_) rest)
    have hle := hhigh b hb
    constructor
    · rintro rfl
      exact absurd hle (by decide)
    · rintro rfl
      exact absurd hle (by decide)

/-- **The lines of an encoded text are encoded texts.** -/
theorem isText_of_mem_split (h : IsText bs) (hline : line ∈ split bs) : IsText line := by
  obtain ⟨s, rfl⟩ := h
  rw [encode] at hline
  generalize s.toList = cs at hline
  induction cs generalizing line with
  | nil => cases hline
  | cons c cs ih =>
    have hc := isText_encodeChar c
    rw [List.flatMap_cons] at hline
    rcases split_encodeChar_append c (cs.flatMap String.utf8EncodeChar) with heq | heq
    · rw [heq] at hline
      rcases List.mem_cons.mp hline with rfl | hline
      · exact hc
      · exact ih hline
    rw [heq] at hline
    generalize split (cs.flatMap String.utf8EncodeChar) = lines at hline ih
    cases lines with
    | nil =>
      rw [foldr_extend_nil (by simp)] at hline
      obtain rfl := List.mem_singleton.mp hline
      exact hc
    | cons first lines =>
      rw [foldr_extend_cons] at hline
      rcases List.mem_cons.mp hline with rfl | hline
      · exact hc.append (ih List.mem_cons_self)
      · exact ih (List.mem_cons_of_mem _ hline)

end Tandem.Lines
