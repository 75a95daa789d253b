import Tandem.Host.Tool.Amount
import Tandem.Host.Tool.Options

/-!
# The beginning of files

`head` prints the first lines or bytes of its files, or all but the last ones. What it does not
print of an input that can be rewound is left for whoever reads it next.
-/

namespace Tandem.Host.Tool.Head

/-- How `head` is called. -/
def usage : Usage where
  short := [('c', .required), ('n', .required), ('q', .none), ('v', .none), ('z', .none)]
  long := [("bytes", .required, "c"), ("lines", .required, "n"), ("quiet", .none, "q"),
    ("silent", .none, "q"), ("verbose", .none, "v"), ("zero-terminated", .none, "z"),
    ("help", .none, "help"), ("version", .none, "version")]

/-- What is counted. -/
inductive Counted where
  | lines
  | bytes
  deriving DecidableEq

/-- What is printed. -/
structure Plan where
  counted : Counted := .lines
  count : Nat := 10
  /-- The count says how much is left out at the end. -/
  allBut : Bool := false
  quiet : Bool := false
  verbose : Bool := false
  lineEnd : UInt8 := 0x0A

/-- The letters for units behind a count. -/
def units : List Char := "bkKmMGTPEZY".toList

/-- The plan with a count. -/
def Plan.counting (p : Plan) (counted : Counted) (value : Octets) : Act Plan := do
  let (allBut, digits) := match value with
    | '-' :: rest => (true, rest)
    | _ => (false, value)
  let what := match counted with
    | .lines => "invalid number of lines: "
    | .bytes => "invalid number of bytes: "
  let refuse (more : String) : Act Plan :=
    usage.fail (Octets.ofString what ++ Quote.spelled digits ++ Octets.ofString more)
  match Amount.read? units (Number.naturalIn? 10) digits with
  | some (count, []) =>
    if count ≤ Number.greatestUnsigned then return { p with counted, count, allBut }
    else refuse ": Value too large for defined data type"
  | _ => refuse ""

/-- Takes one option into account. -/
def Plan.add (p : Plan) (c : Choice) : Act Plan :=
  match c.key with
  | "c" => p.counting .bytes c.value
  | "n" => p.counting .lines c.value
  | "q" => return { p with quiet := true, verbose := false }
  | "v" => return { p with verbose := true, quiet := false }
  | "z" => return { p with lineEnd := 0 }
  | _ => return p

/-- Takes one letter behind an old-fashioned count into account. -/
def Plan.trail (state : Plan × Octets) (c : Char) : Act (Plan × Octets) :=
  let (p, unit) := state
  match c with
  | 'c' => return ({ p with counted := .bytes }, [])
  | 'b' | 'k' | 'm' => return ({ p with counted := .bytes }, [c])
  | 'l' => return ({ p with counted := .lines }, unit)
  | 'q' => return ({ p with quiet := true, verbose := false }, unit)
  | 'v' => return ({ p with verbose := true, quiet := false }, unit)
  | 'z' => return ({ p with lineEnd := 0 }, unit)
  | _ => usage.misuse (Octets.ofString "invalid trailing option -- " ++ [c])

/-- The plan of an old-fashioned first argument, a dash with a count, and the arguments after it. -/
def Plan.first (args : List Octets) : Act (Plan × List Octets) := do
  match args with
  | ('-' :: d :: cs) :: rest =>
    if d.isDigit then
      let digits := (d :: cs).takeWhile Char.isDigit
      let (p, unit) ← ((d :: cs).drop digits.length).foldlM Plan.trail ({}, [])
      return (← p.counting p.counted (digits ++ unit), rest)
    else return ({}, args)
  | _ => return ({}, args)

/-- The bytes up to and with the `n`th line end, if there are so many. -/
def linesWithin (lineEnd : UInt8) (n : Nat) (data : ByteArray) : Nat × Nat :=
  data.foldl (fun (size, left, going) b =>
      if going then
        let left := if b == lineEnd then left - 1 else left
        (size + 1, left, left != 0)
      else (size, left, going)) (0, n, n != 0)
    |> fun (size, left, _) => (size, left)

/-- The place from which the last `n` lines start. -/
def beforeLast (lineEnd : UInt8) (n : Nat) (data : ByteArray) : Nat :=
  let count (i : Nat) (ends : List Nat) (b : UInt8) : Nat × List Nat :=
    (i + 1, if b == lineEnd then (i + 1) :: ends else ends)
  let ends := (data.foldl (fun (i, ends) b => count i ends b) (0, [])).2
  let whole := match ends with
    | last :: _ => last == data.size
    | [] => data.isEmpty
  let ends := if whole then ends else data.size :: ends
  match ends.drop n with
  | place :: _ => place
  | [] => 0

/-- How much is read at once. -/
def block : Nat := 8192

/-- Prints the first bytes. -/
def firstBytes (input : Nat) (left : Nat) (out : ByteArray) :
    Nat → Act (ByteArray × Option Errno)
  | 0 => return (out, none)
  | n + 1 => do
    if left = 0 then return (out, none)
    match ← Act.readSome input (min block left) with
    | .error e => return (out, some e)
    | .ok part =>
      if part.isEmpty then return (out, none)
      firstBytes input (left - part.size) (← usage.hold out part) n

/-- Goes back in an input that allows it. -/
def rewind (input back : Nat) : Act Unit := do
  match ← Act.targetOf input with
  | .file _ => modify fun s => s.moveTo input ((s.opening input).position - back)
  | _ => return

/-- Prints the first lines. -/
def firstLines (lineEnd : UInt8) (input : Nat) (left : Nat) (out : ByteArray) :
    Nat → Act (ByteArray × Option Errno)
  | 0 => return (out, none)
  | n + 1 => do
    if left = 0 then return (out, none)
    match ← Act.readSome input block with
    | .error e => return (out, some e)
    | .ok part =>
      if part.isEmpty then return (out, none)
      let (size, left) := linesWithin lineEnd left part
      rewind input (part.size - size)
      firstLines lineEnd input left (← usage.hold out (part.extract 0 size)) n

/-- Prints all but the end. -/
def allButLast (p : Plan) (input : Nat) (out : ByteArray) : Act (ByteArray × Option Errno) := do
  let (data, failure) ← Act.gather input .empty Act.patience
  match failure with
  | some e => return (out, some e)
  | none =>
    let size := match p.counted with
      | .bytes => data.size - p.count
      | .lines => beforeLast p.lineEnd p.count data
    return (← usage.hold out (data.extract 0 size), none)

/-- Prints one input. -/
def printOne (p : Plan) (input : Nat) (out : ByteArray) : Act (ByteArray × Option Errno) :=
  if p.allBut then allButLast p input out
  else match p.counted with
    | .bytes => firstBytes input p.count out Act.patience
    | .lines => firstLines p.lineEnd input p.count out Act.patience

/-- The line above the text of a file. -/
def header (name : Octets) (isFirst : Bool) : ByteArray :=
  let shown := if name = Act.standard then Octets.ofString "standard input" else name
  Act.bytes ((if isFirst then [] else ['\n']) ++ Octets.ofString "==> " ++ shown ++
    Octets.ofString " <==\n")

/-- Prints files in order; answers with the exit code and the output that is held back. -/
def printAll (p : Plan) (headers isFirst : Bool) (code : Nat) (out : ByteArray) :
    List Octets → Act (Nat × ByteArray)
  | [] => return (code, out)
  | name :: names => do
    let opened ← Act.openInput name
    match opened, name == Act.standard with
    | .error e, false =>
      usage.warn (Octets.ofString "cannot open " ++ Quote.always name ++
        Octets.ofString " for reading: " ++ Octets.ofString e.text)
      printAll p headers isFirst 1 out names
    | _, _ =>
      let out ← if headers then usage.hold out (header name isFirst) else pure out
      let (out, failure) ← match opened with
        | .ok input => printOne p input out
        | .error e => pure (out, some e)
      match failure with
      | some e =>
        let shown := if name = Act.standard then Octets.ofString "standard input" else name
        usage.warn (Octets.ofString "error reading " ++ Quote.always shown ++
          Octets.ofString ": " ++ Octets.ofString e.text)
        printAll p headers false 1 out names
      | none => printAll p headers false code out names

/-- Prints the beginning of files, or of the standard input if there are none. -/
def run (args : List Octets) : Act Nat := do
  let (p, args) ← Plan.first args
  let (choices, names) ← usage.parse args
  let p ← choices.foldlM Plan.add p
  let names := if names.isEmpty then [Act.standard] else names
  let headers := p.verbose || (!p.quiet && 1 < names.length)
  let (code, out) ← printAll p headers true 0 .empty names
  usage.flush out
  if ← usage.lacksInput names then usage.fail (Octets.ofString ("-: " ++ Errno.badStream.text))
  return code

end Tandem.Host.Tool.Head
