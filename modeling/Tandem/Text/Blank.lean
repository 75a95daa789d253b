/-!
# Blank characters and words

A character is *blank* if it has the Unicode property `White_Space`. A word of a text is a maximal
run of characters that are not blank; texts are cut into words, tested for being blank altogether,
and stripped of the blanks at their ends.
-/

namespace Tandem

/-- Ranges of code points with the property `White_Space`, in ascending order. -/
def blankRanges : List (Nat × Nat) :=
  [(0x09, 0x0D), (0x20, 0x20), (0x85, 0x85), (0xA0, 0xA0), (0x1680, 0x1680), (0x2000, 0x200A),
    (0x2028, 0x2029), (0x202F, 0x202F), (0x205F, 0x205F), (0x3000, 0x3000)]

/-- The character has the property `White_Space`. -/
def isBlank (c : Char) : Bool :=
  blankRanges.any fun (low, high) => low ≤ c.toNat && c.toNat ≤ high

/-- Twenty-five characters are blank. -/
example : (blankRanges.map fun (low, high) => high + 1 - low).sum = 25 := by decide

namespace Words

variable {α : Type}

/-- Puts a run in front of later runs, unless it is empty. -/
def keep (run : List α) (later : List (List α)) : List (List α) :=
  if run.isEmpty then later else run :: later

/-- The run at the very front, which may be empty, and the non-empty runs after it. -/
def split (sep : α → Bool) : List α → List α × List (List α)
  | [] => ([], [])
  | c :: cs =>
    let (run, later) := split sep cs
    if sep c then ([], keep run later) else (c :: run, later)

/-- The maximal non-empty runs of elements that are no separators, in order. -/
def runs (sep : α → Bool) (cs : List α) : List (List α) :=
  keep (split sep cs).1 (split sep cs).2

end Words

/-- The words of a text. -/
def words (s : String) : List String :=
  (Words.runs isBlank s.toList).map String.ofList

/-- Every character of the text is blank; the empty text is. -/
def allBlank (s : String) : Bool :=
  s.toList.all isBlank

/-- The text without the blanks at its two ends. -/
def strip (s : String) : String :=
  String.ofList ((s.toList.dropWhile isBlank).reverse.dropWhile isBlank).reverse

end Tandem
