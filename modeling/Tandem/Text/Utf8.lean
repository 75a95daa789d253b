/-!
# Bytes and UTF-8

File contents, names and streams are raw bytes. `Utf8.pieces` reads a byte string the way a UTF-8
reader does: it cuts it into encoded scalars and *ill-formed pieces*, where an ill-formed piece is
the longest beginning of a scalar that the bytes at hand still allow. Everything shown to a person
goes through `Utf8.lossy`, which writes one replacement character for each ill-formed piece.

Main statement: reading a piece consumes at least one byte (`length_next_lt`), which is what makes
`pieces` terminate.
-/

namespace Tandem

/-- Raw bytes: file contents, names, paths and console text. -/
abbrev Bytes := List UInt8

namespace Utf8

/-- The UTF-8 bytes of a text. -/
def encode (s : String) : Bytes :=
  s.toList.flatMap String.utf8EncodeChar

/-- What a reader finds at one place of a byte string: a scalar, or bytes that begin a scalar and
do not complete it. -/
inductive Piece where
  | scalar (c : Char)
  | ill (bytes : Bytes)
  deriving DecidableEq, Repr

/-- The replacement character, shown for each ill-formed piece. -/
def replacement : Char := Char.ofNat 0xFFFD

/-- The character that stands for a piece. -/
def Piece.shown : Piece → Char
  | .scalar c => c
  | .ill _ => replacement

/-- A scalar is well formed. -/
def Piece.isScalar : Piece → Bool
  | .scalar _ => true
  | .ill _ => false

/-- What the first byte of a longer scalar promises: how many bytes follow, in which range the
next one lies, and the high bits of the value. -/
structure Lead where
  more : Nat
  low : UInt8
  high : UInt8
  value : Nat
  deriving Repr

/-- The lead bytes of scalars longer than one byte. The narrowed ranges exclude overlong forms,
surrogates and values past the last scalar. -/
def Lead.ofByte? (b : UInt8) : Option Lead :=
  if 0xC2 ≤ b && b ≤ 0xDF then some ⟨1, 0x80, 0xBF, b.toNat - 0xC0⟩
  else if b = 0xE0 then some ⟨2, 0xA0, 0xBF, 0⟩
  else if b = 0xED then some ⟨2, 0x80, 0x9F, 0xD⟩
  else if 0xE1 ≤ b && b ≤ 0xEF then some ⟨2, 0x80, 0xBF, b.toNat - 0xE0⟩
  else if b = 0xF0 then some ⟨3, 0x90, 0xBF, 0⟩
  else if 0xF1 ≤ b && b ≤ 0xF3 then some ⟨3, 0x80, 0xBF, b.toNat - 0xF0⟩
  else if b = 0xF4 then some ⟨3, 0x80, 0x8F, 4⟩
  else none

/-- Reads the `need` bytes that must follow, the first of them between `low` and `high`. `seen`
holds the bytes read so far, latest first. -/
def follow (need : Nat) (low high : UInt8) (value : Nat) (seen : Bytes) : Bytes → Piece × Bytes :=
  match need with
  | 0 => fun rest => (.scalar (Char.ofNat value), rest)
  | need + 1 => fun
    | [] => (.ill seen.reverse, [])
    | b :: rest =>
      if low ≤ b && b ≤ high then
        follow need 0x80 0xBF (value * 64 + (b.toNat - 0x80)) (b :: seen) rest
      else (.ill seen.reverse, b :: rest)

/-- The piece at the front of `b :: rest`, and what comes after it. -/
def next (b : UInt8) (rest : Bytes) : Piece × Bytes :=
  if b < 0x80 then (.scalar (Char.ofNat b.toNat), rest)
  else match Lead.ofByte? b with
    | some lead => follow lead.more lead.low lead.high lead.value [b] rest
    | none => (.ill [b], rest)

theorem length_follow_le (need : Nat) (low high : UInt8) (value : Nat) (seen rest : Bytes) :
    (follow need low high value seen rest).2.length ≤ rest.length := by
  induction need generalizing low high value seen rest with
  | zero => simp [follow]
  | succ need ih =>
    cases rest with
    | nil => simp [follow]
    | cons b rest =>
      simp only [follow]
      split
      · exact Nat.le_succ_of_le (ih ..)
      · simp

/-- Reading a piece consumes at least one byte. -/
theorem length_next_lt (b : UInt8) (rest : Bytes) :
    (next b rest).2.length < (b :: rest).length := by
  unfold next
  split
  · simp
  · split
    · exact Nat.lt_succ_of_le (length_follow_le ..)
    · simp

/-- All pieces of a byte string, in order. -/
def pieces : Bytes → List Piece
  | [] => []
  | b :: rest => (next b rest).1 :: pieces (next b rest).2
termination_by bs => bs.length
decreasing_by exact length_next_lt b rest

/-- The byte string is the encoding of a text. -/
def isValid (bs : Bytes) : Bool :=
  (pieces bs).all Piece.isScalar

/-- The text shown for a byte string: its scalars, with a replacement character for each
ill-formed piece. -/
def lossy (bs : Bytes) : String :=
  String.ofList ((pieces bs).map Piece.shown)

/-- The text that a byte string encodes, if it encodes one. -/
def decode? (bs : Bytes) : Option String :=
  if isValid bs then some (lossy bs) else none

end Utf8

end Tandem
