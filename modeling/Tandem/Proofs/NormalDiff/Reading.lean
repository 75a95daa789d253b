import Tandem.NormalDiff
import Tandem.Text.Octet
import Tandem.Proofs.Edit.Hunks

/-!
# Reading a normal diff

A normal diff is read by rows. A row that starts with a number is a header and names a hunk
(`readHeader`); a row that starts with a mark carries a line, which ends in `\n` unless the remark
comes next (`marked`). Rows of lines may hold any bytes but `\n`, also what looks like a header or
a remark; the mark in front of them tells them apart.

Reading takes back all that printing puts down: the hunks (`hunksIn_render`) and the lines of
either mark (`marked_gone_render`, `marked_come_render`). A length of zero and one of one are
printed alike, so this needs hunks that cover an element at least.
-/

namespace Tandem

/-- Inside a line stands no `\n`. -/
theorem Lines.lf_not_mem_dropLast {bs line : Bytes} (h : line ∈ Lines.split bs) :
    Lines.lf ∉ line.dropLast := by
  induction bs generalizing line with
  | nil => simp [Lines.split] at h
  | cons b rest ih =>
    rw [Lines.split] at h
    split at h
    · rcases List.mem_cons.mp h with rfl | h
      · simp
      · exact ih h
    · next hends =>
      have hne := fun line (h : line ∈ Lines.split rest) => Lines.ne_nil_of_mem h
      generalize Lines.split rest = lines at h ih hne
      cases lines with
      | nil =>
        obtain rfl := List.mem_singleton.mp h
        simp
      | cons first lines =>
        rcases List.mem_cons.mp h with rfl | h
        · have hb : Lines.lf ≠ b := by
            rintro rfl
            exact hends rfl
          rw [List.dropLast_cons_of_ne_nil (hne first List.mem_cons_self), List.mem_cons, not_or]
          exact ⟨hb, ih List.mem_cons_self⟩
        · exact ih (List.mem_cons_of_mem _ h)

namespace NormalDiff

open Edit

/-! ### Rows -/

/-- The rows of a text, without the `\n` at their ends. -/
def rows : Bytes → List Bytes
  | [] => []
  | b :: rest => if b = Lines.lf then [] :: rows rest else Lines.extend b (rows rest)

/-- The text of rows, each ended by `\n`. -/
def ofRows (rs : List Bytes) : Bytes := rs.flatMap (· ++ [Lines.lf])

@[simp] theorem ofRows_nil : ofRows [] = [] := rfl

@[simp] theorem ofRows_cons (row : Bytes) (rs : List Bytes) :
    ofRows (row :: rs) = row ++ [Lines.lf] ++ ofRows rs := rfl

@[simp] theorem ofRows_append (rs rs' : List Bytes) :
    ofRows (rs ++ rs') = ofRows rs ++ ofRows rs' := List.flatMap_append

private theorem rows_append {row : Bytes} (h : Lines.lf ∉ row) (text : Bytes) :
    rows (row ++ [Lines.lf] ++ text) = row :: rows text := by
  induction row with
  | nil => simp [rows]
  | cons b row ih =>
    rw [List.mem_cons, not_or] at h
    simp only [List.append_assoc, List.cons_append] at ih ⊢
    rw [rows, if_neg (Ne.symm h.1), ih h.2, Lines.extend]

/-- Rows without `\n` inside are read back. -/
theorem rows_ofRows {rs : List Bytes} (h : ∀ row ∈ rs, Lines.lf ∉ row) : rows (ofRows rs) = rs := by
  induction rs with
  | nil => rfl
  | cons row rs ih =>
    rw [ofRows_cons, rows_append (h row List.mem_cons_self),
      ih fun row hrow => h row (List.mem_cons_of_mem _ hrow)]

/-! ### Numbers -/

/-- The byte is a decimal digit. -/
def isDigit (b : UInt8) : Bool := 0x30 ≤ b && b ≤ 0x39

/-- A number at the front of a byte string, and what follows. -/
def readNumber (bs : Bytes) : Option (ℕ × Bytes) :=
  (Octets.number? (Octets.ofBytes (bs.takeWhile isDigit))).map (·, bs.dropWhile isDigit)

private theorem toNat_of_isDigit {c : Char} (h : c.isDigit = true) :
    c.toUInt8.toNat = c.toNat ∧ 48 ≤ c.toNat ∧ c.toNat ≤ 57 := by
  simp only [Char.isDigit, ge_iff_le, Bool.and_eq_true, decide_eq_true_eq,
    UInt32.le_iff_toNat_le] at h
  have hzero : '0'.val.toNat = 48 := rfl
  have hnine : '9'.val.toNat = 57 := rfl
  have hnat : c.toNat = c.val.toNat := rfl
  refine ⟨?_, by omega, by omega⟩
  rw [Char.toUInt8, UInt32.toNat_toUInt8]
  omega

private theorem isDigit_of_mem_toDigits {n : ℕ} {c : Char} (h : c ∈ Nat.toDigits 10 n) :
    c.isDigit = true :=
  Nat.isDigit_of_mem_toDigits (by omega) (by omega) h

theorem isDigit_of_mem_digits {n : ℕ} {b : UInt8} (h : b ∈ Decimal.digits n) :
    isDigit b = true := by
  obtain ⟨c, hc, rfl⟩ := List.mem_map.mp h
  obtain ⟨heq, hlow, hhigh⟩ := toNat_of_isDigit (isDigit_of_mem_toDigits hc)
  simp only [isDigit, Bool.and_eq_true, decide_eq_true_eq, UInt8.le_iff_toNat_le, UInt8.reduceToNat]
  omega

theorem digits_ne_nil (n : ℕ) : Decimal.digits n ≠ [] := by
  simp [Decimal.digits, Nat.toDigits_ne_nil]

/-- The digits of a number, as characters. -/
private theorem ofBytes_digits (n : ℕ) :
    Octets.ofBytes (Decimal.digits n) = Nat.toDigits 10 n := by
  rw [Octets.ofBytes, Decimal.digits, List.map_map]
  refine (List.map_congr_left fun c hc => ?_).trans (List.map_id _)
  rw [Function.comp_apply, (toNat_of_isDigit (isDigit_of_mem_toDigits hc)).1, Char.ofNat_toNat, id]

private theorem number?_toDigits (n : ℕ) : Octets.number? (Nat.toDigits 10 n) = some n := by
  have hall : (Nat.toDigits 10 n).all Char.isDigit = true :=
    List.all_eq_true.mpr fun c hc => isDigit_of_mem_toDigits hc
  have hvalue : Nat.ofDigitChars 10 (Nat.toDigits 10 n) 0 = n := Nat.ofDigitChars_ten_toDigits
  rw [Octets.number?, hall, List.isEmpty_eq_false_iff.mpr Nat.toDigits_ne_nil]
  exact congrArg some hvalue

/-- A number that no digit follows is read back. -/
theorem readNumber_digits (n : ℕ) {rest : Bytes} (h : ∀ b ∈ rest.head?, isDigit b = false) :
    readNumber (Decimal.digits n ++ rest) = some (n, rest) := by
  have hdigits : ∀ b ∈ Decimal.digits n, isDigit b = true := fun b hb => isDigit_of_mem_digits hb
  have hrest : rest.takeWhile isDigit = [] ∧ rest.dropWhile isDigit = rest := by
    cases rest with
    | nil => exact ⟨rfl, rfl⟩
    | cons b rest => simp [h b rfl]
  rw [readNumber, List.takeWhile_append_of_pos hdigits, List.dropWhile_append_of_pos hdigits,
    hrest.1, hrest.2, List.append_nil, ofBytes_digits, number?_toDigits, Option.map_some]

/-- A number starts with a digit. -/
theorem readNumber_eq_none {b : UInt8} (h : isDigit b = false) (rest : Bytes) :
    readNumber (b :: rest) = none := by
  simp [readNumber, h, Octets.ofBytes, Octets.number?]

/-! ### Headers -/

/-- The first and the last line number of a range at the front, and what follows. -/
def readRange (bs : Bytes) : Option (ℕ × ℕ × Bytes) :=
  match readNumber bs with
  | none => none
  | some (first, rest) =>
    if rest.head? = some 0x2C then
      (readNumber rest.tail).map fun (last, rest) => (first, last, rest)
    else some (first, first, rest)

/-- No number and no range goes on in these bytes. -/
private def Ends (rest : Bytes) : Prop := ∀ b ∈ rest.head?, isDigit b = false ∧ b ≠ 0x2C

/-- The bytes are read as a range, whatever ends it. -/
private def Spells (bs : Bytes) (first last : ℕ) : Prop :=
  ∀ rest, Ends rest → readRange (bs ++ rest) = some (first, last, rest)

private theorem spells_digits (n : ℕ) : Spells (Decimal.digits n) n n := by
  intro rest h
  have hcomma : rest.head? ≠ some 0x2C := fun hhead => (h _ hhead).2 rfl
  rw [readRange, readNumber_digits n fun b hb => (h b hb).1]
  simp only [if_neg hcomma]

/-- A range that covers a line at least is read back. -/
private theorem spells_range (start : ℕ) {len : ℕ} (hlen : 0 < len) :
    Spells (range start len) (start + 1) (start + len) := by
  unfold range
  split
  · next hle =>
    obtain rfl : len = 1 := by omega
    exact spells_digits (start + 1)
  · intro rest h
    have hcomma : Utf8.encode "," = [0x2C] := rfl
    have hdigit : ∀ b ∈ (0x2C :: (Decimal.digits (start + len) ++ rest)).head?,
        isDigit b = false := by simp [isDigit]
    rw [hcomma, List.append_assoc, List.append_assoc, List.singleton_append, readRange,
      readNumber_digits _ hdigit]
    simp [readNumber_digits _ fun b hb => (h b hb).1]

/-- A range starts with the number of its first line. -/
private theorem exists_range_eq (start len : ℕ) :
    ∃ rest, range start len = Decimal.digits (start + 1) ++ rest := by
  unfold range
  split
  · exact ⟨[], (List.append_nil _).symm⟩
  · exact ⟨_, List.append_assoc ..⟩

/-- The stretch from a first to a last line number. -/
def stretch (first last : ℕ) : Stretch := ⟨first - 1, last + 1 - first⟩

/-- The hunk that a header names. -/
def readHeader (row : Bytes) : Option Hunk :=
  match readRange row with
  | some (first, last, letter :: rest) =>
    match readRange rest with
    | some (first', last', []) =>
      let old := stretch first last
      let new := stretch first' last'
      if letter = 0x64 then some (.delete old.start old.len first')
      else if letter = 0x61 then some (.insert first new.start new.len)
      else if letter = 0x63 then some (.change old.start old.len new.start new.len)
      else none
    | _ => none
  | _ => none

/-- The hunks that the headers of a text name. -/
def hunksIn (text : Bytes) : List Hunk := (rows text).filterMap readHeader

private theorem stretch_range (start len : ℕ) :
    stretch (start + 1) (start + len) = ⟨start, len⟩ := by
  simp only [stretch, Stretch.mk.injEq]
  omega

/-- A header is read from its two ranges and the letter between them. -/
private theorem readHeader_eq (letter : UInt8) {left right : Bytes} {first last first' last' : ℕ}
    (hleft : Spells left first last) (hright : Spells right first' last')
    (hdigit : isDigit letter = false) (hcomma : letter ≠ 0x2C) :
    readHeader (left ++ [letter] ++ right)
      = if letter = 0x64 then
          some (.delete (stretch first last).start (stretch first last).len first')
        else if letter = 0x61 then
          some (.insert first (stretch first' last').start (stretch first' last').len)
        else if letter = 0x63 then
          some (.change (stretch first last).start (stretch first last).len
            (stretch first' last').start (stretch first' last').len)
        else none := by
  have hletter : Ends ([letter] ++ right) := by
    intro b hb
    obtain rfl : letter = b := by simpa using hb
    exact ⟨hdigit, hcomma⟩
  have hend := hright [] (by simp [Ends])
  rw [List.append_nil] at hend
  rw [List.append_assoc, readHeader, hleft _ hletter, List.singleton_append]
  simp only [hend]

/-- The header of a hunk is read back, if the hunk covers a line wherever it names a range. -/
theorem readHeader_header {h : Hunk} (hgone : ∀ s ∈ h.gone, 0 < s.len)
    (hcome : ∀ s ∈ h.come, 0 < s.len) : readHeader (header h) = some h := by
  cases h with
  | delete old len new =>
    have hlen : 0 < len := hgone _ List.mem_cons_self
    have hread := readHeader_eq 0x64 (spells_range old hlen) (spells_digits new) rfl
      (by decide)
    rwa [stretch_range] at hread
  | insert old new len =>
    have hlen : 0 < len := hcome _ List.mem_cons_self
    have hread := readHeader_eq 0x61 (spells_digits old) (spells_range new hlen) rfl
      (by decide)
    rwa [stretch_range] at hread
  | change old oldLen new newLen =>
    have hold : 0 < oldLen := hgone _ List.mem_cons_self
    have hnew : 0 < newLen := hcome _ List.mem_cons_self
    have hread := readHeader_eq 0x63 (spells_range old hold) (spells_range new hnew) rfl
      (by decide)
    rwa [stretch_range, stretch_range] at hread

/-- A row that does not start with a digit is no header. -/
theorem readHeader_eq_none {row : Bytes} (h : row.head?.any isDigit = false) :
    readHeader row = none := by
  cases row with
  | nil => rfl
  | cons b row => rw [readHeader, readRange, readNumber_eq_none h]

/-- A header starts with a digit. -/
theorem exists_header_eq (h : Hunk) : ∃ b row, header h = b :: row ∧ isDigit b = true := by
  have hfront : ∃ n rest, header h = Decimal.digits n ++ rest := by
    cases h with
    | delete old len new =>
      obtain ⟨rest, heq⟩ := exists_range_eq old len
      exact ⟨_, _, by rw [header, heq, List.append_assoc, List.append_assoc]⟩
    | insert old new len => exact ⟨_, _, List.append_assoc ..⟩
    | change old oldLen new newLen =>
      obtain ⟨rest, heq⟩ := exists_range_eq old oldLen
      exact ⟨_, _, by rw [header, heq, List.append_assoc, List.append_assoc]⟩
  obtain ⟨n, rest, heq⟩ := hfront
  obtain ⟨b, ds, hds⟩ := List.exists_cons_of_ne_nil (digits_ne_nil n)
  refine ⟨b, ds ++ rest, by rw [heq, hds, List.cons_append], isDigit_of_mem_digits (n := n) ?_⟩
  rw [hds]
  exact List.mem_cons_self

theorem lf_not_mem_header (h : Hunk) : Lines.lf ∉ header h := by
  have hdigits : ∀ n, Lines.lf ∉ Decimal.digits n :=
    fun n hmem => absurd (isDigit_of_mem_digits hmem) (by decide)
  have hrange : ∀ start len, Lines.lf ∉ range start len := by
    intro start len
    have hcomma : Lines.lf ∉ Utf8.encode "," := by decide
    unfold range
    split <;> simp [hdigits, hcomma]
  have hletter : Lines.lf ∉ Utf8.encode "d" ++ Utf8.encode "a" ++ Utf8.encode "c" := by decide
  simp only [List.mem_append, not_or] at hletter
  cases h <;> simp [header, hdigits, hrange, hletter]

/-! ### Lines behind marks -/

/-- The row of the remark. -/
def remarkRow : Bytes := Utf8.encode "\\ No newline at end of file"

theorem head?_remarkRow : remarkRow.head? = some 0x5C := rfl

/-- The lines behind a mark. A line ends in `\n`, unless the next row is the remark. -/
def marked (mark : Bytes) : List Bytes → List Bytes
  | [] => []
  | row :: rest =>
    if mark <+: row then
      (row.drop mark.length ++ if rest.head? = some remarkRow then [] else [Lines.lf]) ::
        marked mark rest
    else marked mark rest

/-- Every line found is behind a mark of its own. -/
theorem length_marked (mark : Bytes) (rs : List Bytes) :
    (marked mark rs).length = rs.countP (mark.isPrefixOf ·) := by
  induction rs with
  | nil => rfl
  | cons row rest ih =>
    rw [marked, List.countP_cons]
    split <;> simp_all

/-- The first of these rows is not the remark. -/
private def NoRemark (rs : List Bytes) : Prop := rs.head? ≠ some remarkRow

private theorem NoRemark.append {rs rs' : List Bytes} (h : NoRemark rs) (h' : NoRemark rs') :
    NoRemark (rs ++ rs') := by
  cases rs with
  | nil => exact h'
  | cons row rs => exact h

/-- Rows are read one after the other, as long as no remark is torn from its line. -/
private theorem marked_append (mark : Bytes) (rs : List Bytes) {rs' : List Bytes}
    (h : NoRemark rs') : marked mark (rs ++ rs') = marked mark rs ++ marked mark rs' := by
  induction rs with
  | nil => rfl
  | cons row rest ih =>
    -- only the last row before `rs'` looks into `rs'`, and finds no remark there
    have hnext : (rest ++ rs').head? = some remarkRow ↔ rest.head? = some remarkRow := by
      cases rest with
      | nil => exact ⟨fun heq => absurd heq h, fun heq => by cases heq⟩
      | cons next rest => rfl
    simp only [List.cons_append, marked, hnext, ih]
    split <;> rfl

private theorem marked_cons_of_not {mark row : Bytes} (h : ¬ mark <+: row) (rest : List Bytes) :
    marked mark (row :: rest) = marked mark rest := by
  rw [marked, if_neg h]

/-- The rows of a line behind its mark. -/
def entryRows (mark line : Bytes) : List Bytes :=
  if line.getLast? = some Lines.lf then [mark ++ line.dropLast] else [mark ++ line, remarkRow]

theorem entry_eq (mark line : Bytes) : entry mark line = ofRows (entryRows mark line) := by
  unfold entry entryRows
  split
  · next h =>
    obtain ⟨body, rfl⟩ := List.getLast?_eq_some_iff.mp h
    simp
  · have hremark : remark = [Lines.lf] ++ (remarkRow ++ [Lines.lf]) := rfl
    simp [hremark]

/-- Lines behind a mark are read back behind this mark. -/
private theorem marked_entries {mark : Bytes} (hmark : ¬ mark <+: remarkRow) (lines : List Bytes) :
    NoRemark (lines.flatMap (entryRows mark)) ∧
      marked mark (lines.flatMap (entryRows mark)) = lines := by
  induction lines with
  | nil => exact ⟨by simp [NoRemark], rfl⟩
  | cons line lines ih =>
    have hne : mark ++ line ≠ remarkRow := fun heq => hmark ⟨line, heq⟩
    have hne' : mark ++ line.dropLast ≠ remarkRow := fun heq => hmark ⟨line.dropLast, heq⟩
    have hline : marked mark (entryRows mark line) = [line] := by
      unfold entryRows
      split
      · next h =>
        obtain ⟨body, rfl⟩ := List.getLast?_eq_some_iff.mp h
        simp [marked]
      · simp [marked, hmark]
    rw [List.flatMap_cons]
    refine ⟨NoRemark.append ?_ ih.1, ?_⟩
    · unfold NoRemark entryRows
      split <;> simpa
    · rw [marked_append _ _ ih.1, hline, ih.2, List.singleton_append]

/-- Lines behind a mark are not found behind another one. -/
private theorem marked_entries_of_not {mark mark' : Bytes} (hmark : ¬ mark <+: remarkRow)
    (hother : ∀ line, ¬ mark <+: mark' ++ line) (lines : List Bytes) :
    marked mark (lines.flatMap (entryRows mark')) = [] := by
  induction lines with
  | nil => rfl
  | cons line lines ih =>
    rw [List.flatMap_cons, entryRows]
    split <;> simp [marked, hmark, hother, ih]

/-- A line behind one mark is not behind the other. -/
private theorem not_prefix_other (line : Bytes) :
    ¬ gone <+: come ++ line ∧ ¬ come <+: gone ++ line := by
  have hgone : gone = [0x3C, 0x20] := rfl
  have hcome : come = [0x3E, 0x20] := rfl
  simp [hgone, hcome, List.cons_prefix_cons]

private theorem not_prefix_header {b : UInt8} (hb : isDigit b = false) (mark : Bytes) (h : Hunk) :
    ¬ b :: mark <+: header h := by
  obtain ⟨c, row, heq, hc⟩ := exists_header_eq h
  rw [heq, List.cons_prefix_cons]
  rintro ⟨rfl, -⟩
  rw [hb] at hc
  cases hc

/-! ### Hunks -/

/-- The rule between the two sides of a change. -/
def rule : Hunk → List Bytes
  | .change .. => [Utf8.encode "---"]
  | _ => []

theorem eq_of_mem_rule {h : Hunk} {row : Bytes} (hrow : row ∈ rule h) :
    row = Utf8.encode "---" := by
  cases h with
  | change old oldLen new newLen => exact List.mem_singleton.mp hrow
  | delete old len new => cases hrow
  | insert old new len => cases hrow

/-- The rows of a hunk. -/
def hunkRows (olds news : List Bytes) (h : Hunk) : List Bytes :=
  header h :: ((h.gone.flatMap fun s => s.part olds).flatMap (entryRows gone) ++ rule h ++
    (h.come.flatMap fun s => s.part news).flatMap (entryRows come))

theorem hunkText_eq (olds news : List Bytes) (h : Hunk) :
    hunkText olds news h = ofRows (hunkRows olds news h) := by
  have hentries : ∀ mark lines, entries mark lines = ofRows (lines.flatMap (entryRows mark)) := by
    intro mark lines
    rw [entries, funext (entry_eq mark), ofRows, List.flatMap_assoc]
    rfl
  have hlf : Utf8.encode "\n" = [Lines.lf] := rfl
  have hrule : Utf8.encode "---\n" = ofRows [Utf8.encode "---"] := rfl
  cases h <;>
    simp [hunkText, hunkRows, body, hentries, hlf, hrule, Hunk.gone, Hunk.come, Stretch.part, rule]

private theorem mem_of_mem_part {s : Stretch} {xs : List Bytes} {x : Bytes}
    (h : x ∈ s.part xs) : x ∈ xs :=
  List.mem_of_mem_drop (List.mem_of_mem_take h)

/-- The rows of a line hold no `\n`. -/
private theorem lf_not_mem_entryRows {bs mark line row : Bytes} (hmark : Lines.lf ∉ mark)
    (hline : line ∈ Lines.split bs) (hrow : row ∈ entryRows mark line) : Lines.lf ∉ row := by
  have hbody := Lines.lf_not_mem_dropLast hline
  obtain ⟨body, last, rfl⟩ : ∃ body last, line = body ++ [last] :=
    ⟨_, _, (List.dropLast_concat_getLast (Lines.ne_nil_of_mem hline)).symm⟩
  rw [List.dropLast_concat] at hbody
  unfold entryRows at hrow
  split at hrow
  · simp only [List.dropLast_concat, List.mem_singleton] at hrow
    simp [hrow, hmark, hbody]
  · next hlast =>
    -- a line that does not end in `\n` may end in `\r`, but holds no `\n` at all
    have hlf : Lines.lf ≠ last := fun heq => hlast (by simp [heq])
    simp only [List.mem_cons, List.not_mem_nil, or_false] at hrow
    rcases hrow with rfl | rfl
    · simp [hmark, hbody, hlf]
    · decide

private theorem lf_not_mem_hunkRows {expected actual row : Bytes} {h : Hunk}
    (hrow : row ∈ hunkRows (Lines.split expected) (Lines.split actual) h) : Lines.lf ∉ row := by
  simp only [hunkRows, List.mem_cons, List.mem_append, List.mem_flatMap] at hrow
  rcases hrow with rfl | (⟨line, ⟨s, -, hline⟩, hrow⟩ | hrow) | ⟨line, ⟨s, -, hline⟩, hrow⟩
  · exact lf_not_mem_header h
  · exact lf_not_mem_entryRows (by decide) (mem_of_mem_part hline) hrow
  · rw [eq_of_mem_rule hrow]
    decide
  · exact lf_not_mem_entryRows (by decide) (mem_of_mem_part hline) hrow

/-- A rendered diff is made of the rows of its hunks. -/
theorem render_eq (expected actual : Bytes) :
    render expected actual
      = ofRows ((hunks (Lines.split expected) (Lines.split actual)).flatMap
          (hunkRows (Lines.split expected) (Lines.split actual))) := by
  rw [render, funext (hunkText_eq _ _), ofRows, List.flatMap_assoc]
  rfl

/-- The rows of a rendered diff are those of its hunks. -/
theorem rows_render (expected actual : Bytes) :
    rows (render expected actual)
      = (hunks (Lines.split expected) (Lines.split actual)).flatMap
          (hunkRows (Lines.split expected) (Lines.split actual)) := by
  rw [render_eq]
  refine rows_ofRows fun row hrow => ?_
  obtain ⟨h, -, hrow⟩ := List.mem_flatMap.mp hrow
  exact lf_not_mem_hunkRows hrow

private theorem noRemark_rule (h : Hunk) : NoRemark (rule h) := by
  intro heq
  exact absurd (eq_of_mem_rule (List.mem_of_mem_head? heq)) (by decide)

private theorem marked_rule {mark : Bytes} (hmark : ¬ mark <+: Utf8.encode "---") (h : Hunk) :
    marked mark (rule h) = [] := by
  cases h with
  | change old oldLen new newLen => exact marked_cons_of_not hmark []
  | delete old len new => rfl
  | insert old new len => rfl

private theorem noRemark_hunkRows (olds news : List Bytes) (h : Hunk) :
    NoRemark (hunkRows olds news h) := by
  intro heq
  obtain ⟨b, row, hheader, hb⟩ := exists_header_eq h
  rw [hunkRows, List.head?_cons, hheader, Option.some.injEq] at heq
  have hhead := congrArg List.head? heq
  rw [head?_remarkRow, List.head?_cons, Option.some.injEq] at hhead
  rw [hhead] at hb
  cases hb

/-- The lines that are gone in a hunk are read back. -/
private theorem marked_gone_hunkRows (olds news : List Bytes) (h : Hunk) :
    marked gone (hunkRows olds news h) = h.gone.flatMap fun s => s.part olds := by
  obtain ⟨-, hgone⟩ := marked_entries (by decide : ¬ gone <+: remarkRow)
    (h.gone.flatMap fun s => s.part olds)
  obtain ⟨hnext, -⟩ := marked_entries (by decide : ¬ come <+: remarkRow)
    (h.come.flatMap fun s => s.part news)
  have hheader : ¬ gone <+: header h := not_prefix_header (b := 0x3C) rfl [0x20] h
  rw [hunkRows, marked_cons_of_not hheader, marked_append _ _ hnext,
    marked_append _ _ (noRemark_rule h), hgone, marked_rule (by decide),
    marked_entries_of_not (by decide) fun line => (not_prefix_other line).1, List.append_nil,
    List.append_nil]

/-- The lines that have come in a hunk are read back. -/
private theorem marked_come_hunkRows (olds news : List Bytes) (h : Hunk) :
    marked come (hunkRows olds news h) = h.come.flatMap fun s => s.part news := by
  obtain ⟨hnext, hcome⟩ := marked_entries (by decide : ¬ come <+: remarkRow)
    (h.come.flatMap fun s => s.part news)
  have hheader : ¬ come <+: header h := not_prefix_header (b := 0x3E) rfl [0x20] h
  rw [hunkRows, marked_cons_of_not hheader, marked_append _ _ hnext,
    marked_append _ _ (noRemark_rule h), hcome, marked_rule (by decide),
    marked_entries_of_not (by decide) fun line => (not_prefix_other line).2, List.nil_append,
    List.nil_append]

/-- Hunks are read one after the other. -/
private theorem marked_flatMap_hunkRows (mark : Bytes) (olds news : List Bytes) (hs : List Hunk) :
    marked mark (hs.flatMap (hunkRows olds news))
      = hs.flatMap fun h => marked mark (hunkRows olds news h) := by
  have hnext : ∀ hs : List Hunk, NoRemark (hs.flatMap (hunkRows olds news)) := by
    intro hs
    cases hs with
    | nil => simp [NoRemark]
    | cons h hs => exact noRemark_hunkRows olds news h
  induction hs with
  | nil => rfl
  | cons h hs ih => rw [List.flatMap_cons, marked_append _ _ (hnext hs), ih, List.flatMap_cons]

private theorem head?_of_mem_entryRows {b : UInt8} {mark line row : Bytes}
    (h : row ∈ entryRows (b :: mark) line) : row.head? = some b ∨ row.head? = some 0x5C := by
  unfold entryRows at h
  split at h
  · obtain rfl := List.mem_singleton.mp h
    exact .inl rfl
  · simp only [List.mem_cons, List.not_mem_nil, or_false] at h
    rcases h with rfl | rfl
    · exact .inl rfl
    · exact .inr head?_remarkRow

/-- A hunk has one header, and no other row of it starts with a digit. -/
theorem exists_hunkRows_eq (olds news : List Bytes) (h : Hunk) :
    ∃ rs, hunkRows olds news h = header h :: rs ∧ ∀ row ∈ rs, row.head?.any isDigit = false := by
  refine ⟨_, rfl, fun row hrow => ?_⟩
  simp only [List.mem_append, List.mem_flatMap] at hrow
  rcases hrow with (⟨line, -, hrow⟩ | hrow) | ⟨line, -, hrow⟩
  · rcases head?_of_mem_entryRows (b := 0x3C) hrow with heq | heq <;> simp [heq, isDigit]
  · rw [eq_of_mem_rule hrow]
    rfl
  · rcases head?_of_mem_entryRows (b := 0x3E) hrow with heq | heq <;> simp [heq, isDigit]

private theorem filterMap_hunkRows {h : Hunk} (hgone : ∀ s ∈ h.gone, 0 < s.len)
    (hcome : ∀ s ∈ h.come, 0 < s.len) (olds news : List Bytes) :
    (hunkRows olds news h).filterMap readHeader = [h] := by
  obtain ⟨rs, heq, hrs⟩ := exists_hunkRows_eq olds news h
  have hnone : rs.filterMap readHeader = [] :=
    List.filterMap_eq_nil_iff.mpr fun row hrow => readHeader_eq_none (hrs row hrow)
  rw [heq, List.filterMap_cons_some (readHeader_header hgone hcome), hnone]

/-! ### Rendered diffs -/

section Render

variable (expected actual : Bytes)

/-- **The lines that are gone are read back.** -/
theorem marked_gone_render :
    marked gone (rows (render expected actual))
      = (goneIn (hunks (Lines.split expected) (Lines.split actual))).flatMap
          fun s => s.part (Lines.split expected) := by
  rw [rows_render, marked_flatMap_hunkRows, goneIn, List.flatMap_assoc]
  simp only [marked_gone_hunkRows]

/-- **The lines that have come are read back.** -/
theorem marked_come_render :
    marked come (rows (render expected actual))
      = (comeIn (hunks (Lines.split expected) (Lines.split actual))).flatMap
          fun s => s.part (Lines.split actual) := by
  rw [rows_render, marked_flatMap_hunkRows, comeIn, List.flatMap_assoc]
  simp only [marked_come_hunkRows]

/-- **The hunks are read back.** -/
theorem hunksIn_render :
    hunksIn (render expected actual) = hunks (Lines.split expected) (Lines.split actual) := by
  have hlaid := laid_hunks (Lines.split expected) (Lines.split actual)
  have hgone := fun s hs => (hlaid.ascending_gone.bounds (s := s) hs).2.1
  have hcome := fun s hs => (hlaid.ascending_come.bounds (s := s) hs).2.1
  rw [hunksIn, rows_render]
  -- from here on only the lengths matter, not where the hunks come from
  generalize hunks (Lines.split expected) (Lines.split actual) = hs at *
  clear hlaid
  induction hs with
  | nil => rfl
  | cons h hs ih =>
    simp only [goneIn_cons, comeIn_cons, List.mem_append] at hgone hcome
    rw [List.flatMap_cons, List.filterMap_append, filterMap_hunkRows
      (fun s hs => hgone s (.inl hs)) (fun s hs => hcome s (.inl hs)),
      ih (fun s hs => hgone s (.inr hs)) (fun s hs => hcome s (.inr hs))]
    rfl

end Render

end NormalDiff

end Tandem
