import Tandem.Log.Pattern
import Tandem.Text.Alphanumeric
import Tandem.Text.Blank

/-!
# Reading patterns

Patterns are written in the usual notation of regular expressions: groups, which may be named,
alternatives, repetitions, classes with operators on sets, and flags for the rest of a group.

What needs tables of all characters cannot be read: the other case of a letter, and classes and
edges of words. With the flag `u` turned off only ASCII counts for these, so they can be read then;
but a class that leaves anything out would hold halves of characters, and cannot be. Braces cannot
be read outside of classes either: they delimit what a pattern stands in.
-/

namespace Tandem.Pattern

/-- How the notation is read. -/
structure Flags where
  /-- The case of letters does not count. -/
  caseless : Bool := false
  /-- `^` and `$` stand for the ends of lines. -/
  lines : Bool := false
  /-- `.` stands for line feeds too. -/
  dotAll : Bool := false
  /-- Repetitions prefer to be seldom, and marked ones to be often. -/
  swapped : Bool := false
  /-- All characters count, and not only ASCII. -/
  allChars : Bool := true
  /-- A carriage return ends a line too. -/
  returns : Bool := false
  /-- Blanks and comments are skipped. -/
  spaced : Bool := false
  deriving DecidableEq, Repr

/-- Turns a flag on or off. -/
def Flags.turn (f : Flags) (on : Bool) (letter : Char) : Flags :=
  match letter with
  | 'i' => { f with caseless := on }
  | 'm' => { f with lines := on }
  | 's' => { f with dotAll := on }
  | 'U' => { f with swapped := on }
  | 'u' => { f with allChars := on }
  | 'R' => { f with returns := on }
  | 'x' => { f with spaced := on }
  | _ => f

/-- Turns on the flags that are listed, or off if they are listed after a dash. Nothing may be
listed twice, and a dash not last. -/
def Flags.update? (f : Flags) (listed : List Char) : Option Flags :=
  if !listed.all ("imsUuRx-".toList.contains ·) || listed.eraseDups.length < listed.length ||
      listed.getLast? == some '-' then none
  else
    let on := listed.takeWhile (· != '-')
    let off := listed.drop on.length
    some (off.foldl (·.turn false) (on.foldl (·.turn true) f))

/-- What is left to read, the flags at this place, and the names of groups so far. -/
structure Reading where
  rest : List Char
  flags : Flags := {}
  names : List (List Char) := []

/-- Reads something, or finds that it makes no sense. -/
abbrev Reader := StateT Reading Option

namespace Reader

/-- The flags at this place. -/
def flags : Reader Flags :=
  return (← get).flags

/-- What is left. -/
def rest : Reader (List Char) :=
  return (← get).rest

/-- Goes on with what is left. -/
def goTo (rest : List Char) : Reader Unit :=
  modify fun r => { r with rest }

/-- The next character. -/
def next : Reader Char := do
  match ← rest with
  | [] => failure
  | c :: cs => goTo cs; return c

/-- Takes a text if it stands here. -/
def accept (text : String) : Reader Bool := do
  let cs ← rest
  if text.toList.isPrefixOf cs then
    goTo (cs.drop text.length)
    return true
  else return false

/-- Texts without the blanks and comments in front. A comment starts with `#` and ends with its
line. -/
def dropBlanks (comment : Bool) : List Char → List Char
  | [] => []
  | c :: cs =>
    if comment then dropBlanks (c != '\n') cs
    else if isBlank c then dropBlanks false cs
    else if c == '#' then dropBlanks true cs
    else c :: cs

/-- Skips blanks and comments, if they are to be skipped. -/
def skipBlanks : Reader Unit := do
  if (← flags).spaced then goTo (dropBlanks false (← rest))

/-- What follows the next character, blanks aside. The sign of a comment counts as a blank. -/
def ahead : Reader (Option Char) := do
  let cs := (← rest).drop 1
  if (← flags).spaced then
    let dense := cs.dropWhile isBlank
    let dense := if dense.head? == some '#' then (dense.drop 1).dropWhile isBlank else dense
    return dense.head?.or cs.head?
  else return cs.head?

/-! ### Characters -/

/-- The value of a hexadecimal digit. -/
def hexDigit? (c : Char) : Option Nat :=
  if c.isDigit then some (c.toNat - '0'.toNat)
  else if 'a' ≤ c && c ≤ 'f' then some (c.toNat - 'a'.toNat + 10)
  else if 'A' ≤ c && c ≤ 'F' then some (c.toNat - 'A'.toNat + 10)
  else none

/-- The number with some hexadecimal digits, after a number. -/
def hex (digits : Nat) (value : Nat) : Reader Nat :=
  match digits with
  | 0 => return value
  | digits + 1 => do
    skipBlanks
    match hexDigit? (← next) with
    | some d => hex digits (16 * value + d)
    | none => failure

/-- The character with a code point. -/
def ofPoint (n : Nat) : Reader Char :=
  if n.isValidChar then return Char.ofNat n else failure

/-- What stands behind a backslash. -/
inductive Escape where
  | char (c : Char)
  | set (s : CharSet)
  | spot (s : Spot)
  deriving DecidableEq, Repr

/-- The sets with names. -/
def named : List (String × CharSet) :=
  [("alnum", ⟨[(0x30, 0x39), (0x41, 0x5A), (0x61, 0x7A)]⟩),
    ("alpha", ⟨[(0x41, 0x5A), (0x61, 0x7A)]⟩), ("ascii", ⟨[(0, 0x7F)]⟩),
    ("blank", ⟨[(0x09, 0x09), (0x20, 0x20)]⟩), ("cntrl", ⟨[(0, 0x1F), (0x7F, 0x7F)]⟩),
    ("digit", ⟨[(0x30, 0x39)]⟩), ("graph", ⟨[(0x21, 0x7E)]⟩), ("lower", ⟨[(0x61, 0x7A)]⟩),
    ("print", ⟨[(0x20, 0x7E)]⟩),
    ("punct", ⟨[(0x21, 0x2F), (0x3A, 0x40), (0x5B, 0x60), (0x7B, 0x7E)]⟩),
    ("space", ⟨[(0x09, 0x0D), (0x20, 0x20)]⟩), ("upper", ⟨[(0x41, 0x5A)]⟩), ("word", wordChars),
    ("xdigit", ⟨[(0x30, 0x39), (0x41, 0x46), (0x61, 0x66)]⟩)]

/-- The set with a name. -/
def ofName? (name : String) : Option CharSet :=
  named.lookup name

/-- What can only be read as long as ASCII alone counts. -/
def asciiOnly {α : Type} (result : Option α) : Reader α := do
  if (← flags).allChars then failure
  else match result with
    | some a => return a
    | none => failure

/-- A character that a backslash in front of it turns into itself. -/
def isPlainEscape (c : Char) : Bool :=
  c.toNat < 0x80 && !c.isAlphanum && c != '<' && c != '>'

/-- Reads what stands behind a backslash. With two digits a byte is meant rather than a character,
as long as ASCII alone counts. -/
def escape : Reader Escape := do
  match ← next with
  | 'x' =>
    let n ← hex 2 0
    if 0x80 ≤ n && !(← flags).allChars then failure else return .char (← ofPoint n)
  | 'u' => return .char (← ofPoint (← hex 4 0))
  | 'U' => return .char (← ofPoint (← hex 8 0))
  | 'a' => return .char (Char.ofNat 7)
  | 't' => return .char '\t'
  | 'n' => return .char '\n'
  | 'v' => return .char (Char.ofNat 11)
  | 'f' => return .char (Char.ofNat 12)
  | 'r' => return .char '\r'
  | 'A' => return .spot .start
  | 'z' => return .spot .finish
  | 'd' => asciiOnly ((ofName? "digit").map .set)
  | 's' => asciiOnly ((ofName? "space").map .set)
  | 'w' => asciiOnly ((ofName? "word").map .set)
  | 'b' => asciiOnly (some (.spot (.edge false)))
  | 'B' => asciiOnly (some (.spot (.edge true)))
  | '<' => asciiOnly (some (.spot .wordStart))
  | '>' => asciiOnly (some (.spot .wordEnd))
  | c => if isPlainEscape c then return .char c else failure

/-- The pattern of a character that stands for itself. -/
def literal (c : Char) : Reader Pattern := do
  let f ← flags
  if !f.caseless then return .one (.single c)
  else if f.allChars then failure
  else return .one (CharSet.single c).foldCase

/-! ### Classes -/

/-- The characters from one to another as members of a class. -/
def range (low high : Char) : Reader CharSet := do
  let f ← flags
  if high < low || (if f.allChars then f.caseless else 0x80 ≤ high.toNat) then failure
  else return .between low high

/-- What is left out by a class. -/
def leftOut (s : CharSet) : Reader CharSet := do
  if (← flags).allChars then return s.complement else failure

/-- One character of a class, or a set that is spelled with a backslash. -/
def atom : Reader Escape := do
  if ← accept "\\" then escape else return .char (← next)

/-- A member of a class: a character, a range, or a set. A dash in front of the end or of another
dash makes no range. -/
def member : Reader CharSet := do
  let first ← atom
  skipBlanks
  let follower ← ahead
  if (← rest).head? == some '-' && follower != some ']' && follower != some '-' then
    goTo ((← rest).drop 1)
    skipBlanks
    match first, ← atom with
    | .char low, .char high => range low high
    | _, _ => failure
  else match first with
    | .char c => range c c
    | .set s => return s
    | .spot _ => failure

/-- A set that is named inside a class, if its name is known. -/
def namedSet? : Reader (Option CharSet) := do
  match ← rest with
  | '[' :: ':' :: cs =>
    let negated := cs.head? == some '^'
    let cs := if negated then cs.drop 1 else cs
    let name := cs.takeWhile (· != ':')
    let after := cs.drop name.length
    match ofName? (String.ofList name) with
    | some s =>
      if !([':', ']'].isPrefixOf after) then return none
      let f ← flags
      goTo (after.drop 2)
      if f.allChars && f.caseless then failure
      if negated then return some (← leftOut s) else return some s
    | none => return none
  | _ => return none

/-- An operator on sets. -/
inductive SetOp where
  | inter
  | diff
  | exclusive
  deriving DecidableEq, Repr

/-- What an operator makes of two sets. -/
def SetOp.apply : SetOp → CharSet → CharSet → CharSet
  | .inter => .inter
  | .diff => .diff
  | .exclusive => .exclusive

/-- A set, and how deep what spells it is nested. -/
structure NestedSet where
  set : CharSet := .empty
  depth : Nat := 0

/-- The members of a class since its start or the last operator. -/
structure Members extends NestedSet where
  count : Nat := 0

/-- One member more. -/
def Members.add (m : Members) (s : CharSet) (depth : Nat := 0) : Members :=
  { set := m.set.union s, depth := max m.depth depth, count := m.count + 1 }

/-- The members as one set; several are nested one deeper than each. -/
def Members.close (f : Flags) (m : Members) : NestedSet :=
  { set := if f.caseless then m.set.foldCase else m.set
    depth := if 2 ≤ m.count then m.depth + 1 else m.depth }

/-- The members behind an operator, with what stands before it. -/
def Members.joined (f : Flags) (left : Option (SetOp × NestedSet)) (m : Members) : NestedSet :=
  let right := m.close f
  match left with
  | none => right
  | some (op, l) => { set := op.apply l.set right.set, depth := max l.depth right.depth + 1 }

/-- Dashes in front of a class are members. -/
def leadingDashes (fuel : Nat) (m : Members) : Reader Members :=
  match fuel with
  | 0 => return m
  | fuel + 1 => do
    if ← accept "-" then
      skipBlanks
      leadingDashes fuel (m.add (← range '-' '-'))
    else return m

/-- The members in front: dashes, or else a closing bracket. -/
def leading : Reader Members := do
  let m ← leadingDashes (← rest).length {}
  if m.count = 0 then
    if ← accept "]" then return m.add (← range ']' ']')
  return m

mutual

/-- Reads a class from behind its opening bracket on. -/
def bracketed (fuel : Nat) : Reader NestedSet :=
  match fuel with
  | 0 => failure
  | fuel + 1 => do
    skipBlanks
    let negated ← accept "^"
    skipBlanks
    let inside ← members fuel none (← leading)
    let set ← if negated then leftOut inside.set else pure inside.set
    return { set, depth := inside.depth + 1 }

/-- Reads members up to the closing bracket of their class. -/
def members (fuel : Nat) (left : Option (SetOp × NestedSet)) (m : Members) : Reader NestedSet :=
  match fuel with
  | 0 => failure
  | fuel + 1 => do
    skipBlanks
    let f ← flags
    let behind (op : SetOp) : Reader NestedSet := members fuel (some (op, m.joined f left)) {}
    if let some s ← namedSet? then members fuel left (m.add s)
    else if ← accept "[" then
      let inside ← bracketed fuel
      members fuel left (m.add inside.set inside.depth)
    else if ← accept "]" then return m.joined f left
    else if ← accept "&&" then behind .inter
    else if ← accept "--" then behind .diff
    else if ← accept "~~" then behind .exclusive
    else members fuel left (m.add (← member))

end

/-! ### Pieces -/

/-- A piece of a pattern, how deep it is nested, and whether a repetition can follow it. -/
structure Piece where
  pattern : Pattern
  depth : Nat := 0
  repeatable : Bool := true

/-- Pieces as one; several are nested one deeper than each. -/
def Piece.join (make : List Pattern → Pattern) (ps : List Piece) : Piece :=
  let deepest := ps.foldl (fun n p => max n p.depth) 0
  { pattern := make (ps.map (·.pattern))
    depth := if 2 ≤ ps.length then deepest + 1 else deepest }

/-- The piece, repeated as a mark behind it says. -/
def repeated (mark : Char) (p : Piece) : Reader Piece := do
  let marked ← accept "?"
  let greedy := marked == (← flags).swapped
  let pattern := match mark with
    | '?' => p.pattern.optional greedy
    | '*' => p.pattern.star greedy
    | _ => .many p.pattern greedy
  if p.repeatable then return { pattern, depth := p.depth + 1 } else failure

/-- What `.` stands for. -/
def anyChar : Reader Pattern := do
  let f ← flags
  if !f.allChars then failure
  else if f.dotAll then return .one CharSet.empty.complement
  else if f.returns then return .one ((CharSet.single '\n').union (.single '\r')).complement
  else return .one (CharSet.single '\n').complement

/-- Reads a piece that is one character, a set or a spot, given its first character. -/
def simple (c : Char) : Reader Piece := do
  let f ← flags
  match c with
  | '.' => return { pattern := ← anyChar }
  | '^' => return { pattern := .spot (if f.lines then .lineStart f.returns else .start) }
  | '$' => return { pattern := .spot (if f.lines then .lineEnd f.returns else .finish) }
  | '[' =>
    let inside ← bracketed (2 * (← rest).length + 2)
    return { pattern := .one inside.set, depth := inside.depth }
  | '\\' => match ← escape with
    | .char c => return { pattern := ← literal c }
    | .set s => return { pattern := .one s }
    | .spot s => return { pattern := .spot s }
  | c => return { pattern := ← literal c }

/-- A character of the name of a group. -/
def isNameChar (c : Char) : Bool :=
  c == '_' || c == '.' || c == '[' || c == ']' || isAlphanumeric c

/-- Reads the name of a group. No two groups have the same. -/
def groupName : Reader Unit := do
  let cs ← rest
  let name := cs.takeWhile (· != '>')
  let known := (← get).names
  if name.length = cs.length || !name.head?.any (fun c => c == '_' || isLetter c) ||
      !name.all isNameChar || known.contains name then failure
  modify fun r => { r with rest := cs.drop (name.length + 1), names := name :: r.names }

/-- Reads the flags at the start of a group. Whether the group is over with them, and they count for
the rest of the group around it. -/
def groupFlags : Reader Bool := do
  let cs ← rest
  let listed := cs.takeWhile fun c => c != ':' && c != ')'
  match (← flags).update? listed, cs.drop listed.length with
  | some flags, mark :: rest =>
    if mark == ')' && listed.isEmpty then failure
    modify fun r => { r with rest, flags }
    return mark == ')'
  | _, _ => failure

mutual

/-- Reads alternatives, after those that are `found`, the latest first. -/
def alternatives (fuel : Nat) (found : List Piece) : Reader Piece :=
  match fuel with
  | 0 => failure
  | fuel + 1 => do
    let found := (← pieces fuel []) :: found
    if ← accept "|" then alternatives fuel found else return .join anyOf found.reverse

/-- Reads pieces that follow one another, after those that are `found`, the latest first. -/
def pieces (fuel : Nat) (found : List Piece) : Reader Piece :=
  match fuel with
  | 0 => failure
  | fuel + 1 => do
    skipBlanks
    match ← rest with
    | [] | '|' :: _ | ')' :: _ => return .join sequence found.reverse
    | c :: cs =>
      goTo cs
      if c == '(' then pieces fuel ((← group fuel) :: found)
      else if c == '?' || c == '*' || c == '+' then
        match found with
        | [] => failure
        | p :: found => pieces fuel ((← repeated c p) :: found)
      else if c == '\x7b' then failure
      else pieces fuel ((← simple c) :: found)

/-- Reads a group from behind its opening parenthesis on. The flags of a group end with it. -/
def group (fuel : Nat) : Reader Piece :=
  match fuel with
  | 0 => failure
  | fuel + 1 => do
    skipBlanks
    let outside ← flags
    let isNamed ← if ← accept "?P<" then pure true else accept "?<"
    if isNamed then groupName
    else if ← accept "?" then
      if ← groupFlags then return { pattern := .empty, repeatable := false }
    let inside ← alternatives fuel []
    if ← accept ")" then
      modify fun r => { r with flags := outside }
      return { pattern := inside.pattern, depth := inside.depth + 1 }
    else failure

end

end Reader

/-- How deep a pattern may be nested. -/
def deepest : Nat := 250

/-- The pattern spelled by a text. -/
def ofText? (text : String) : Option Pattern := do
  let (p, reading) ← (Reader.alternatives (3 * text.length + 3) []).run { rest := text.toList }
  if reading.rest.isEmpty && p.depth ≤ deepest then some p.pattern else none

end Tandem.Pattern
