import Tandem.Host.Tool.Options
import Tandem.Text.Decimal

/-!
# Printing files

`cat` prints its files one after the other, byte for byte, or with its lines numbered, its empty
lines squeezed, and characters that cannot be seen made visible.
-/

namespace Tandem.Host.Tool.Cat

/-- How `cat` is called. -/
def usage : Usage where
  short := "AbeEnstTuv".toList.map (·, .none)
  long := [("number-nonblank", .none, "b"), ("number", .none, "n"), ("squeeze-blank", .none, "s"),
    ("show-nonprinting", .none, "v"), ("show-ends", .none, "E"), ("show-tabs", .none, "T"),
    ("show-all", .none, "A"), ("help", .none, "help"), ("version", .none, "version")]

/-- What is done to the text. -/
structure Style where
  number : Bool := false
  numberNonblank : Bool := false
  squeeze : Bool := false
  ends : Bool := false
  tabs : Bool := false
  hidden : Bool := false
  deriving DecidableEq

namespace Style

/-- The style that options ask for. -/
def ofChoices (cs : List Choice) : Style :=
  let has (keys : List String) : Bool := keys.any (Choice.given cs)
  { number := has ["n"] && !has ["b"]
    numberNonblank := has ["b"]
    squeeze := has ["s"]
    ends := has ["E", "e", "A"]
    tabs := has ["T", "t", "A"]
    hidden := has ["v", "e", "t", "A"] }

/-- Nothing is done to the text. -/
def isPlain (s : Style) : Bool :=
  s == {}

end Style

/-- Where the printing stands: how many line ends came last, and the number of the last line that
was numbered. -/
structure Progress where
  breaks : Nat := 1
  line : Nat := 0
  /-- A carriage return whose line may end next. -/
  held : Bool := false

/-- A line number in front of its line. -/
def numbered (n : Nat) : Bytes :=
  let digits := Decimal.digits n
  List.replicate (6 - digits.length) 0x20 ++ digits ++ [0x09]

/-- A byte made visible. -/
def visible (s : Style) (b : UInt8) : Bytes :=
  if b = 0x09 then if s.tabs then [0x5E, 0x49] else [b]
  else if !s.hidden then [b]
  else
    let low (b : UInt8) : Bytes :=
      if b < 0x20 then [0x5E, b + 0x40] else if b = 0x7F then [0x5E, 0x3F] else [b]
    if b < 0x80 then low b else [0x4D, 0x2D] ++ low (b - 0x80)

/-- Prints one byte: what is added to the output, latest first. -/
def step (s : Style) (state : Progress × Bytes) (b : UInt8) : Progress × Bytes :=
  let (p, out) := state
  let number (p : Progress) (out : Bytes) : Progress × Bytes :=
    ({ p with line := p.line + 1 }, (numbered (p.line + 1)).reverse ++ out)
  if b = 0x0A then
    if s.squeeze && 2 ≤ p.breaks then (p, out)
    else
      let (p, out) := if p.breaks ≠ 0 && s.number then number p out else (p, out)
      let out := if p.held then [0x4D, 0x5E] ++ out else out
      let out := if s.ends then 0x24 :: out else out
      ({ p with breaks := p.breaks + 1, held := false }, b :: out)
  else
    let out := if p.held then 0x0D :: out else out
    let counts := p.breaks ≠ 0 && (s.number || s.numberNonblank)
    let (p, out) := if counts then number p out else (p, out)
    if b = 0x0D && s.ends && !s.hidden then ({ p with breaks := 0, held := true }, out)
    else ({ p with breaks := 0, held := false }, (visible s b).reverse ++ out)

/-- Prints one input. -/
def copy (s : Style) (input : Nat) (p : Progress) : Nat → Act (Progress × Option Errno)
  | 0 => return (p, none)
  | n + 1 => do
    match ← Act.readSome input Act.chunk with
    | .error e => return (p, some e)
    | .ok part =>
      if part.isEmpty then
        if p.held then usage.flush ⟨#[0x0D]⟩
        return ({ p with held := false }, none)
      else
        let (p, out) := part.foldl (step s) (p, [])
        usage.flush ⟨out.reverse.toArray⟩
        copy s input p n

/-- Prints one input as it is. -/
def copyPlain (input : Nat) : Act (Option Errno) :=
  Act.drain input usage.flush Act.patience

/-- The input is the very file that is being printed to, and not at its end. -/
def feedsItself (input : Nat) : Act Bool := do
  match ← Act.stream? 1 with
  | none => return false
  | some output =>
    let s ← get
    match (s.opening input).target, (s.opening output).target with
    | .file a, .file b => return a == b && (s.opening input).position < (s.store.data a).size
    | _, _ => return false

/-- Prints files in order; answers with the exit code. -/
def printAll (s : Style) (p : Progress) (code : Nat) : List Octets → Act Nat
  | [] => return code
  | name :: names => do
    match ← Act.openInput name with
    | .error e =>
      usage.warnOf name e
      printAll s p 1 names
    | .ok input =>
      if ← feedsItself input then
        usage.warn (Quote.ifNeeded name ++ Octets.ofString ": input file is output file")
        printAll s p 1 names
      else
        let (p, failure) ← if s.isPlain then do pure (p, ← copyPlain input)
          else copy s input p Act.patience
        match failure with
        | some e =>
          usage.warnOf name e
          printAll s p 1 names
        | none => printAll s p code names

/-- Prints files, or the standard input if there are none. -/
def run (args : List Octets) : Act Nat := do
  let (choices, names) ← usage.parse args
  let names := if names.isEmpty then [Act.standard] else names
  let closed := Octets.ofString (": " ++ Errno.badStream.text)
  if (← Act.stream? 1).isNone then usage.fail (Octets.ofString "standard output" ++ closed)
  let code ← printAll (.ofChoices choices) {} 0 names
  if ← usage.lacksInput names then usage.fail (Octets.ofString "closing standard input" ++ closed)
  return code

end Tandem.Host.Tool.Cat
