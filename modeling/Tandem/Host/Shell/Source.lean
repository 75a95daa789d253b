import Tandem.Host.Shell.Script

/-!
# Reading scripts, character by character

A script is read while it runs, line by line, so the reader keeps what is left of the text and the
number of the line it has come to. Texts that a command takes from the lines below it are promised
by their marks first, and read when the line is over.
-/

namespace Tandem.Host.Shell

/-- Words that are special where a command may start. -/
inductive Keyword where
  | bang
  | case
  | do
  | done
  | elif
  | else
  | esac
  | fi
  | for
  | if
  | in
  | then
  | until
  | while
  | openBrace
  | closeBrace
  deriving DecidableEq, Repr

/-- The keywords as they are written. -/
def Keyword.named : List (String × Keyword) :=
  [("!", .bang), ("case", .case), ("do", .do), ("done", .done), ("elif", .elif), ("else", .else),
    ("esac", .esac), ("fi", .fi), ("for", .for), ("if", .if), ("in", .in), ("then", .then),
    ("until", .until), ("while", .while), ("\x7b", .openBrace), ("\x7d", .closeBrace)]

/-- What a script is cut into. -/
inductive Token where
  | endOfFile
  | newline
  | semicolon
  | ampersand
  | and
  | or
  | bar
  | openParen
  | closeParen
  | doubleSemicolon
  /-- A sign of redirection with the number of its stream. -/
  | redirect (stream : Nat) (direction : Direction) (stripTabs : Bool)
  | word (w : Word)
  | key (k : Keyword)

/-- What is wrong with a script, and the line in which that showed. -/
structure SyntaxError where
  line : Nat
  text : Octets

/-- A text below a command that was promised: its number, the line that ends it, whether it is taken
as it stands, and whether tabs in front of its lines are dropped. -/
structure Promise where
  id : Nat
  mark : Octets
  literal : Bool
  stripTabs : Bool

/-- What is left to be read, and what was found on the way. -/
structure Source where
  rest : Octets
  line : Nat := 1
  pushed : Option Token := none
  promises : List Promise := []
  documents : List (Nat × Word) := []
  nextDocument : Nat := 0
  aliases : List (Octets × Octets) := []
  /-- Aliases whose text is being read, with how much text comes after it. -/
  expanding : List (Octets × Nat) := []
  /-- The reader has seen that nothing is left. -/
  sawEnd : Bool := false
  /-- A text below a command is being read, and no script inside it. -/
  inDocument : Bool := false

/-- Reading from a source. -/
abbrev Reading := StateT Source (Except SyntaxError)

namespace Reading

/-- Gives up. -/
def fail {α : Type} (text : Octets) : Reading α := do
  throw ⟨(← get).line, text⟩

/-- Gives up because of a mistake in the script. -/
def mistake {α : Type} (text : String) : Reading α :=
  fail (Octets.ofString ("Syntax error: " ++ text))

/-- The next character, which stays. -/
def peek? : Reading (Option Char) := do
  match (← get).rest with
  | c :: _ => return some c
  | [] =>
    modify ({ · with sawEnd := true })
    return none

/-- Takes the next character. -/
def take : Reading Unit :=
  modify fun s => match s.rest with
    | [] => s
    | c :: rest => { s with rest, line := if c = '\n' then s.line + 1 else s.line }

/-- Takes the next character without counting lines. -/
def swallow : Reading Unit :=
  modify fun s => { s with rest := s.rest.drop 1 }

/-- Takes away line ends that a backslash hides. -/
def join : Nat → Reading Unit
  | 0 => return
  | n + 1 => do
    match (← get).rest with
    | '\\' :: '\n' :: _ =>
      take
      take
      join n
    | ['\\'] => modify ({ · with sawEnd := true })
    | _ => return

/-- The next character after hidden line ends, which stays. -/
def peekJoined? : Reading (Option Char) := do
  join (← get).rest.length
  peek?

/-- Takes the next character if it is the given one; hidden line ends are taken anyhow. -/
def accept (c : Char) : Reading Bool := do
  if (← peekJoined?) == some c then
    take
    return true
  else return false

/-- Takes characters as long as they fit, across hidden line ends. -/
def takeName (fits : Char → Bool) : Nat → Reading Octets
  | 0 => return []
  | n + 1 => do
    match ← peekJoined? with
    | some c =>
      if fits c then
        take
        return c :: (← takeName fits n)
      else return []
    | none => return []

/-- How far reading can go at most, with a token that was put back and the end counted. -/
def size : Reading Nat := do
  return (← get).rest.length + 3

/-- Reads another text in between, as part of the same script, with a line number of its own. -/
def within {α : Type} (inDocument : Bool) (line : Nat) (text : Octets) (reading : Reading α) :
    Reading α := do
  let outer ← get
  set { outer with rest := text, line, pushed := none, promises := [], inDocument }
  let a ← reading
  modify fun s => { s with
    rest := outer.rest, line := outer.line, pushed := outer.pushed, sawEnd := outer.sawEnd
    promises := outer.promises ++ s.promises, expanding := outer.expanding
    inDocument := outer.inDocument }
  return a

/-- Reads a script that stands inside a word. -/
def asScript {α : Type} (reading : Reading α) : Reading α := do
  let inDocument := (← get).inDocument
  modify ({ · with inDocument := false })
  let a ← reading
  modify ({ · with inDocument })
  return a

/-- Gives up because the text ends in the middle of quotes. Below a command, quotes count only in
braces, so the braces are what is missed. -/
def unfinished {α : Type} : Reading α := do
  mistake (if (← get).inDocument then "Missing '\x7d'" else "Unterminated quoted string")

end Reading

/-- A word in the making: parts that are finished, latest first, and the characters that come last.
-/
structure Draft where
  parts : List Part := []
  cs : Octets := []
  quoted : Bool := false

namespace Draft

/-- Finishes the characters that come last. -/
def close (d : Draft) : Draft :=
  if d.cs.isEmpty then d else { d with parts := .text d.cs.reverse d.quoted :: d.parts, cs := [] }

/-- Adds a character. -/
def put (d : Draft) (c : Char) (quoted : Bool) : Draft :=
  if d.quoted = quoted then { d with cs := c :: d.cs } else { d.close with cs := [c], quoted }

/-- Adds a part. -/
def add (d : Draft) (p : Part) : Draft :=
  { d.close with parts := p :: d.close.parts }

/-- Adds the trace of quotes with nothing between them. -/
def addEmpty (d : Draft) : Draft :=
  d.add (.text [] true)

/-- The draft has come further than another one. -/
def grew (d before : Draft) : Bool :=
  before.parts.length < d.parts.length || before.cs.length < d.cs.length

/-- The finished word. -/
def word (d : Draft) : Word :=
  d.close.parts.reverse

end Draft

end Tandem.Host.Shell
