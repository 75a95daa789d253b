import Tandem.Text.Utf8

/-!
# Lines of a byte string

A line ends after `\r\n`, after a `\r` that no `\n` follows, or after `\n`; the terminator belongs
to its line, and bytes after the last terminator form a last line without one. Nothing is lost:
the lines concatenate to the byte string (`flatten_split`), and no line is empty (`ne_nil_of_mem`).
-/

namespace Tandem.Lines

/-- The byte `\n`. -/
def lf : UInt8 := 0x0A

/-- The byte `\r`. -/
def cr : UInt8 := 0x0D

/-- A line ends after the byte `b` when `rest` comes next. -/
def endsAfter (b : UInt8) (rest : Bytes) : Bool :=
  b == lf || (b == cr && rest.head? != some lf)

/-- Puts a byte at the front of the first line. -/
def extend (b : UInt8) : List Bytes → List Bytes
  | [] => [[b]]
  | line :: lines => (b :: line) :: lines

/-- The lines of a byte string, each with its terminator. -/
def split : Bytes → List Bytes
  | [] => []
  | b :: rest => if endsAfter b rest then [b] :: split rest else extend b (split rest)

theorem flatten_extend (b : UInt8) (lines : List Bytes) :
    (extend b lines).flatten = b :: lines.flatten := by
  cases lines <;> simp [extend]

/-- The lines concatenate to the byte string. -/
theorem flatten_split (bs : Bytes) : (split bs).flatten = bs := by
  induction bs with
  | nil => rfl
  | cons b rest ih =>
    simp only [split]
    split
    · simp [ih]
    · rw [flatten_extend, ih]

/-- No line is empty. -/
theorem ne_nil_of_mem {bs line : Bytes} (h : line ∈ split bs) : line ≠ [] := by
  induction bs generalizing line with
  | nil => simp [split] at h
  | cons b rest ih =>
    simp only [split] at h
    split at h
    · rcases List.mem_cons.mp h with rfl | h
      · simp
      · exact ih h
    · revert h ih
      cases split rest with
      | nil => simp +contextual [extend]
      | cons l ls =>
        intro ih h
        rcases List.mem_cons.mp h with rfl | h
        · simp
        · exact ih (List.mem_cons_of_mem _ h)

end Tandem.Lines
