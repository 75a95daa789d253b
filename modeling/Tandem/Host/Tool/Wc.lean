import Tandem.Host.Tool.Options
import Tandem.Text.CharClass

/-!
# Counting

`wc` counts lines, words and bytes. Counts of one line are set in columns, which are wide enough for
the size of all inputs together, if those are plain files.
-/

namespace Tandem.Host.Tool.Wc

/-- How `wc` is called. -/
def usage : Usage where
  short := "clLmw".toList.map (·, .none)
  long := [("bytes", .none, "c"), ("chars", .none, "m"), ("lines", .none, "l"),
    ("words", .none, "w"), ("max-line-length", .none, "L"), ("help", .none, "help"),
    ("version", .none, "version")]

/-- Counts of a text. -/
structure Counts where
  lines : Nat := 0
  words : Nat := 0
  bytes : Nat := 0
  longest : Nat := 0
  /-- The column that the present line has come to. -/
  column : Nat := 0
  inWord : Bool := false

namespace Counts

/-- Counts one byte. A word starts with a character that can be printed. -/
def step (n : Counts) (b : UInt8) : Counts :=
  let c := Char.ofNat b.toNat
  let n := { n with bytes := n.bytes + 1 }
  let ended (n : Counts) : Counts :=
    { n with words := if n.inWord then n.words + 1 else n.words, inWord := false }
  let lineEnded (n : Counts) : Counts :=
    { n with longest := max n.longest n.column, column := 0 }
  if b = 0x0A then ended (lineEnded { n with lines := n.lines + 1 })
  else if b = 0x0D || b = 0x0C then ended (lineEnded n)
  else if b = 0x09 then ended { n with column := n.column + (8 - n.column % 8) }
  else if b = 0x20 then ended { n with column := n.column + 1 }
  else if b = 0x0B then ended n
  else if CharClass.isPrint c then { n with column := n.column + 1, inWord := true }
  else n

/-- Ends the last word and the last line. -/
def finish (n : Counts) : Counts :=
  { n with
    words := if n.inWord then n.words + 1 else n.words
    inWord := false
    longest := max n.longest n.column
    column := 0 }

/-- Counts of two texts together. -/
def add (n m : Counts) : Counts :=
  { lines := n.lines + m.lines, words := n.words + m.words, bytes := n.bytes + m.bytes
    longest := max n.longest m.longest }

/-- The counts that were asked for, in their order. -/
def wanted (choices : List Choice) (n : Counts) : List Nat :=
  let has (key : String) : Bool := Choice.given choices key
  let none := !(["l", "w", "c", "m", "L"].any has)
  (if none || has "l" then [n.lines] else []) ++ (if none || has "w" then [n.words] else []) ++
    (if has "m" then [n.bytes] else []) ++ (if none || has "c" then [n.bytes] else []) ++
    (if has "L" then [n.longest] else [])

end Counts

/-- One line of counts. -/
def line (width : Nat) (counts : List Nat) (name : Option Octets) : Octets :=
  let column (n : Nat) : Octets :=
    let digits := Octets.ofNat n
    List.replicate (width - digits.length) ' ' ++ digits
  (List.intersperse [' '] (counts.map column)).flatten ++
    (name.map (' ' :: ·)).getD [] ++ ['\n']

/-- What is known of an input beforehand: the size of a plain file, or nothing. -/
def sizeOf (name : Octets) : Act (Option (Option Nat)) := do
  let context ← read
  let s ← get
  let ofTarget : Target → Option Nat
    | .file id => some (s.store.data id).size
    | _ => none
  if name = Act.standard then
    return (context.streams.lookup 0).map fun o => ofTarget (s.opening o).target
  else match s.store.lookup context.place ⟨Octets.toBytes name⟩ with
    | .ok (_, .file id _) => return some (some (s.store.data id).size)
    | .ok _ => return some none
    | .error _ => return none

/-- How wide columns are: as wide as the total size, and wider if an input is no plain file. A lone
count of a lone input needs no columns. -/
def widthFor (columns : Nat) (names : List Octets) : Act Nat := do
  if names.length ≤ 1 && columns ≤ 1 then return 1
  let sizes := (← names.mapM sizeOf).filterMap id
  let total := (sizes.filterMap id).foldl (· + ·) 0
  return max (Octets.ofNat total).length (if sizes.any Option.isNone then 7 else 1)

/-- Counts one input. -/
def count (input : Nat) (n : Counts) : Nat → Act (Counts × Option Errno)
  | 0 => return (n.finish, none)
  | fuel + 1 => do
    match ← Act.readSome input Act.chunk with
    | .error e => return (n.finish, some e)
    | .ok part =>
      if part.isEmpty then return (n.finish, none)
      count input (part.foldl Counts.step n) fuel

/-- Counts, and what is to be printed so far. -/
structure Progress where
  total : Counts := {}
  output : Octets := []
  failed : Bool := false

/-- Counts one named input. -/
def countOne (choices : List Choice) (width : Nat) (named : Bool) (p : Progress) (name : Octets) :
    Act Progress := do
  if name.isEmpty then
    usage.warn (Octets.ofString "invalid zero-length file name")
    return { p with failed := true }
  let told := if named then name else Octets.ofString "standard input"
  let counted : Except Errno (Counts × Option Errno) ← do
    match ← Act.openInput name with
    | .error e => pure (if name = Act.standard then .ok ({}, some e) else .error e)
    | .ok input => .ok <$> count input {} Act.patience
  match counted with
  | .error e =>
    usage.warnOf told e
    return { p with failed := true }
  | .ok (n, failure) =>
    if let some e := failure then usage.warnOf told e
    let shown := if name.contains '\n' then Quote.ifNeeded name else name
    let text := line width (n.wanted choices) (if named then some shown else none)
    return { total := p.total.add n, output := p.output ++ text
             failed := p.failed || failure.isSome }

/-- Counts files, or the standard input if there are none. -/
def run (args : List Octets) : Act Nat := do
  let (choices, operands) ← usage.parse args
  let names := if operands.isEmpty then [Act.standard] else operands
  let width ← widthFor (Counts.wanted choices {}).length names
  let p ← names.foldlM (countOne choices width (!operands.isEmpty)) {}
  let total := if 1 < names.length then
      line width (p.total.wanted choices) (some (Octets.ofString "total"))
    else []
  usage.flushOr (Act.bytes (p.output ++ total)) fun e =>
    usage.fail (Octets.ofString ("write error" ++ if e == .noSpace then "" else ": " ++ e.text))
  if ← usage.lacksInput names then usage.fail (Octets.ofString ("-: " ++ Errno.badStream.text))
  return if p.failed then 1 else 0

end Tandem.Host.Tool.Wc
