import Mathlib
import Tandem.Proofs.Edit.CommonFront
import Tandem.Proofs.NormalDiff.Reading
import Tandem.Proofs.Text.Lines

/-!
# Diffs behind common lines

Whole lines put in front of both files move a diff by their number, and do nothing else to it
(`render_append_left`): every number in a header is that much higher (`raiseHeaders`), and all other
rows are the same.
-/

namespace Tandem.NormalDiff

open Edit

/-! ### Raising numbers -/

/-- What follows a number is shorter than the whole. -/
theorem length_lt_of_readNumber {bs rest : Bytes} {k : ℕ} (h : readNumber bs = some (k, rest)) :
    rest.length < bs.length := by
  obtain ⟨m, hm, heq⟩ := Option.map_eq_some_iff.mp h
  obtain rfl : bs.dropWhile isDigit = rest := congrArg Prod.snd heq
  have hne : bs.takeWhile isDigit ≠ [] := by
    intro hnil
    rw [hnil] at hm
    cases hm
  have hlen := congrArg List.length (List.takeWhile_append_dropWhile (p := isDigit) (l := bs))
  have hpos := List.length_pos_iff.mpr hne
  rw [List.length_append] at hlen
  omega

/-- The bytes with every number among them raised by `n`; what is not a digit stays. -/
def raise (n : ℕ) : Bytes → Bytes
  | [] => []
  | b :: rest =>
    match _h : readNumber (b :: rest) with
    | some (k, rest') => Decimal.digits (k + n) ++ raise n rest'
    | none => b :: raise n rest
termination_by bs => bs.length
decreasing_by
  · exact length_lt_of_readNumber _h
  · simp

/-- A row of a diff, with every number in it raised by `n` if it is a header: a row that starts with
a digit. -/
def raiseRow (n : ℕ) (row : Bytes) : Bytes :=
  if row.head?.any isDigit then raise n row else row

/-- A diff with every number in its headers raised by `n`. -/
def raiseHeaders (n : ℕ) (text : Bytes) : Bytes :=
  ofRows ((rows text).map (raiseRow n))

@[simp] theorem raise_nil (n : ℕ) : raise n [] = [] := by
  rw [raise]

/-- A byte that is no digit stays. -/
theorem raise_cons {b : UInt8} (hb : isDigit b = false) (n : ℕ) (rest : Bytes) :
    raise n (b :: rest) = b :: raise n rest := by
  have hnone := readNumber_eq_none hb rest
  rw [raise]
  split
  · next hsome => simp [hnone] at hsome
  · rfl

/-- A number that no digit follows is raised. -/
theorem raise_digits (n k : ℕ) {rest : Bytes} (h : ∀ b ∈ rest.head?, isDigit b = false) :
    raise n (Decimal.digits k ++ rest) = Decimal.digits (k + n) ++ raise n rest := by
  have hread := readNumber_digits k h
  obtain ⟨b, ds, hds⟩ := List.exists_cons_of_ne_nil (digits_ne_nil k)
  rw [hds, List.cons_append] at hread ⊢
  rw [raise]
  split
  · next k' rest' hsome =>
    rw [hread] at hsome
    cases hsome
    rfl
  · next hnone => simp [hread] at hnone

/-- A range that no digit follows is raised at both ends. -/
theorem raise_range (n start len : ℕ) {rest : Bytes} (h : ∀ b ∈ rest.head?, isDigit b = false) :
    raise n (range start len ++ rest) = range (start + n) len ++ raise n rest := by
  have hfirst : start + 1 + n = start + n + 1 := by omega
  have hlast : start + len + n = start + n + len := by omega
  have hcomma : Utf8.encode "," = [0x2C] := rfl
  unfold range
  split
  · rw [raise_digits n _ h, hfirst]
  · simp only [hcomma, List.append_assoc, List.cons_append, List.nil_append]
    rw [raise_digits n _ (by simp [isDigit]), raise_cons rfl, raise_digits n _ h, hfirst, hlast]

/-- **The header of a hunk further on** is its header with all numbers raised. -/
theorem raise_header (n : ℕ) (h : Hunk) : raise n (header h) = header (h.shift n) := by
  have hend : ∀ b ∈ ([] : Bytes).head?, isDigit b = false := by simp
  have hdigits : ∀ k, raise n (Decimal.digits k) = Decimal.digits (k + n) := by
    intro k
    simpa using raise_digits n k hend
  have hrange : ∀ start len, raise n (range start len) = range (start + n) len := by
    intro start len
    simpa using raise_range n start len hend
  have hdelete : Utf8.encode "d" = [0x64] := rfl
  have hinsert : Utf8.encode "a" = [0x61] := rfl
  have hchange : Utf8.encode "c" = [0x63] := rfl
  cases h with
  | delete old len new =>
    simp only [header, Hunk.shift, hdelete, List.append_assoc, List.cons_append, List.nil_append]
    rw [raise_range n _ _ (by simp [isDigit]), raise_cons rfl, hdigits]
  | insert old new len =>
    simp only [header, Hunk.shift, hinsert, List.append_assoc, List.cons_append, List.nil_append]
    rw [raise_digits n _ (by simp [isDigit]), raise_cons rfl, hrange]
  | change old oldLen new newLen =>
    simp only [header, Hunk.shift, hchange, List.append_assoc, List.cons_append, List.nil_append]
    rw [raise_range n _ _ (by simp [isDigit]), raise_cons rfl, hrange]

/-! ### Rendered diffs -/

/-- **The rows of a hunk behind common lines** are its rows, but for the numbers in the header. -/
theorem hunkRows_append_left (front olds news : List Bytes) (h : Hunk) :
    hunkRows (front ++ olds) (front ++ news) (h.shift front.length)
      = (hunkRows olds news h).map (raiseRow front.length) := by
  obtain ⟨rs, heq, hrs⟩ := exists_hunkRows_eq olds news h
  obtain ⟨b, row, hheader, hb⟩ := exists_header_eq h
  have hraise : raiseRow front.length (header h) = header (h.shift front.length) := by
    rw [raiseRow, if_pos (by simp [hheader, hb]), raise_header]
  have hsame : hunkRows (front ++ olds) (front ++ news) (h.shift front.length)
      = header (h.shift front.length) :: rs := by
    obtain ⟨-, rfl⟩ := List.cons.inj heq
    cases h <;>
      simp [hunkRows, Hunk.shift, Hunk.gone, Hunk.come, Stretch.part, slice_append_left, rule]
  have hid : rs.map (raiseRow front.length) = rs :=
    (List.map_congr_left fun row hrow => by simp [raiseRow, hrs row hrow]).trans (List.map_id _)
  rw [hsame, heq, List.map_cons, hraise, hid]

/-- **Common lines in front move a diff.** Whole lines `p` in front of both files raise every line
number in every header of their diff by how many they are, and change nothing else. -/
theorem render_append_left {p : Bytes} (hp : p = [] ∨ p.getLast? = some Lines.lf) (e a : Bytes) :
    render (p ++ e) (p ++ a) = raiseHeaders (Lines.split p).length (render e a) := by
  rw [render_eq, Lines.split_append hp, Lines.split_append hp, hunks_append_left, raiseHeaders,
    rows_render, List.flatMap_map, List.map_flatMap]
  simp only [hunkRows_append_left]

/-- Compaction slides the added `b` up into the common lines, and down again. -/
theorem render_append_left_slide :
    let p := Utf8.encode "a\nb\n"
    p.getLast? = some Lines.lf ∧
      render (p ++ Utf8.encode "c\n") (p ++ Utf8.encode "b\nc\nd\n")
        = Utf8.encode "2a3\n> b\n3a5\n> d\n" := by
  have hrender : render (Utf8.encode "c\n") (Utf8.encode "b\nc\nd\n")
      = Utf8.encode "0a1\n> b\n1a3\n> d\n" := by cbv
  refine ⟨by decide, ?_⟩
  rw [render_append_left (.inr (by decide)), hrender]
  cbv

end Tandem.NormalDiff
