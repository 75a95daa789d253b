import Tandem.Host.Tool.Amount
import Tandem.Host.Tool.Options
import Tandem.Text.Decimal

/-!
# Comparing files byte by byte

`cmp` finds the first byte in which two files differ, or lists all of them. Files of which one is a
beginning of the other differ as well; which of the two ended is said apart.
-/

namespace Tandem.Host.Tool.Cmp

/-- How `cmp` is called. -/
def usage : Usage where
  trouble := 2
  short := [('b', .none), ('c', .none), ('i', .required), ('l', .none), ('n', .required),
    ('s', .none), ('v', .none)]
  long := [("print-bytes", .none, "b"), ("print-chars", .none, "c"),
    ("ignore-initial", .required, "i"), ("verbose", .none, "l"), ("bytes", .required, "n"),
    ("silent", .none, "s"), ("quiet", .none, "s"), ("version", .none, "v"), ("help", .none, "help")]
  helpNamed := true

/-- What is compared, and what is said. -/
structure Plan where
  bytes : Bool := false
  all : Bool := false
  silent : Bool := false
  most : Option Nat := none
  skip : Nat × Nat := (0, 0)

/-- The letters for units behind a number. -/
def units : List Char := "kKMGTPEZY".toList

/-- Refuses the value of an option. -/
def refuse {α : Type} (option : String) (value : Octets) : Act α :=
  usage.misuse (Octets.ofString ("invalid --" ++ option ++ " value '") ++ value ++ ['\''])

/-- How much is left out at the start, and what follows it: nothing, or a colon if one may follow.
-/
def skipped (colon : Bool) (value : Octets) : Act (Nat × Octets) :=
  match Amount.read? units Number.natural? value with
  | some (n, rest) =>
    if n ≤ Number.greatestSigned.toNat && (rest.isEmpty || (colon && rest.head? == some ':')) then
      return (n, rest)
    else refuse "ignore-initial" value
  | none => refuse "ignore-initial" value

/-- Takes one option into account. Of several numbers of bytes the least counts, and of several
amounts to leave out the greatest. -/
def Plan.add (p : Plan) (c : Choice) : Act Plan := do
  match c.key with
  | "b" | "c" => return { p with bytes := true }
  | "l" => return { p with all := true }
  | "s" => return { p with silent := true }
  | "n" => match Amount.read? units Number.natural? c.value with
    | some (n, []) =>
      if n ≤ Number.greatestUnsigned then return { p with most := some (min n (p.most.getD n)) }
      else refuse "bytes" c.value
    | _ => refuse "bytes" c.value
  | "i" =>
    let (n, rest) ← skipped true c.value
    let first := max p.skip.1 n
    match rest with
    | [] => return { p with skip := (first, max p.skip.2 first) }
    | _ :: second => return { p with skip := (first, max p.skip.2 (← skipped false second).1) }
  | _ => return p

/-- A byte made visible. -/
def visible (b : UInt8) : Octets :=
  let low (n : Nat) : Octets :=
    if n < 32 then ['^', Char.ofNat (n + 64)] else if n = 127 then ['^', '?'] else [Char.ofNat n]
  if b < 0x80 then low b.toNat else ['M', '-'] ++ low (b.toNat - 128)

/-- A byte in base eight, set flush right in three columns. -/
def octal (b : UInt8) : Octets :=
  let digits := Nat.toDigits 8 b.toNat
  List.replicate (3 - digits.length) ' ' ++ digits

/-- A text in so many columns, flush left. -/
def padded (width : Nat) (cs : Octets) : Octets :=
  cs ++ List.replicate (width - cs.length) ' '

/-- The first difference: its place, the number of its line, and the two bytes; or where the shorter
of the two ended, and whether a line ended there. -/
inductive Finding where
  | differ (place line : Nat) (a b : UInt8)
  | ended (place line : Nat) (lineStart : Bool)
  | same

/-- Compares from the given place on. -/
def compare (place line : Nat) (lineStart : Bool) : Bytes → Bytes → Finding
  | a :: as, b :: bs =>
    if a = b then
      let ends := a == 0x0A
      compare (place + 1) (if ends then line + 1 else line) ends as bs
    else .differ place line a b
  | [], [] => .same
  | _, _ => .ended place line lineStart

/-- All places in which two files differ. -/
def differences (place : Nat) : Bytes → Bytes → List (Nat × UInt8 × UInt8)
  | a :: as, b :: bs =>
    if a = b then differences (place + 1) as bs else (place, a, b) :: differences (place + 1) as bs
  | _, _ => []

/-- A number in decimal digits. -/
def dec (n : Nat) : Octets :=
  Octets.ofNat n

/-- Says that a file ended. -/
def sayEnd (name : Octets) (place : Nat) (line : Option (Nat × Bool)) : Act Unit :=
  let text := Octets.ofString
  let after := if place = 1 then text " which is empty"
    else text " after byte " ++ dec (place - 1) ++ match line with
      | none => []
      | some (n, true) => text ", line " ++ dec (n - 1)
      | some (n, false) => text ", in line " ++ dec n
  Act.complain (text "cmp: EOF on " ++ name ++ after ++ ['\n'])

/-- Opens one of the two files. -/
def opened (silent : Bool) (name : Octets) : Act Nat := do
  match ← Act.openInput name with
  | .ok input => return input
  | .error e =>
    if silent then Act.halt (.exit usage.trouble)
    else usage.fail (name ++ Octets.ofString ": " ++ Octets.ofString e.text)

/-- How many bytes a file has left, if it is a plain one. -/
def left? (input : Nat) : Act (Option Nat) := do
  let s ← get
  match (s.opening input).target with
  | .file id => return some ((s.store.data id).size - (s.opening input).position)
  | _ => return none

/-- What is read of one of the two files. -/
def contents (name : Octets) (input : Nat) (most : Option Nat) : Act Bytes := do
  let read := match most with
    | some n => Act.gatherUpTo input n .empty Act.patience
    | none => Act.gather input .empty Act.patience
  match ← read with
  | (data, none) => return data.toList
  | (_, some e) => usage.fail (name ++ Octets.ofString ": " ++ Octets.ofString e.text)

/-- What is read of the two files. Of one without an end only as much as the other has. -/
def contentsOfBoth (p : Plan) (a b : Octets) (first second : Nat) : Act (Bytes × Bytes) := do
  let most (skip : Nat) : Option Nat := p.most.map (· + skip)
  if (← Act.isEndless first) && p.most.isNone then
    let y ← contents b second (if ← Act.isEndless second then some 1 else none)
    return (← contents a first (some (y.length + p.skip.1 + 1)), y)
  else
    let x ← contents a first (most p.skip.1)
    if (← Act.isEndless second) && p.most.isNone then
      return (x, ← contents b second (some (x.length + p.skip.2 + 1)))
    return (x, ← contents b second (most p.skip.2))

/-- The two openings are of the same file at the same position. -/
def areOne (a b : Nat) : Act Bool := do
  let s ← get
  match (s.opening a).target, (s.opening b).target with
  | .file x, .file y => return x == y && (s.opening a).position == (s.opening b).position
  | .pipe x, .pipe y => return x == y
  | x, y => return x == y && a == b

/-- Writes output; nobody minds if there is nowhere to write to. -/
def deliver (output : ByteArray) : Act Unit :=
  usage.flushOr output fun e =>
    if e == .badStream then return
    else usage.fail (Octets.ofString ("standard output: " ++ e.text))

/-- Lists all differences. -/
def listAll (p : Plan) (a b : Octets) (x y : Bytes) (width : Nat) : Act Nat := do
  let found := differences 1 x y
  let line (d : Nat × UInt8 × UInt8) : Octets :=
    let (place, u, v) := d
    let number := dec place
    List.replicate (width - number.length) ' ' ++ number ++ [' '] ++ octal u ++
      (if p.bytes then [' '] ++ padded 4 (visible u) ++ [' '] ++ octal v ++ [' '] ++ visible v
       else [' '] ++ octal v) ++ ['\n']
  deliver (Act.bytes (found.flatMap line))
  if x.length ≠ y.length then
    let (short, n) := if x.length < y.length then (a, x.length) else (b, y.length)
    sayEnd short (n + 1) none
    return 1
  return if found.isEmpty then 0 else 1

/-- Compares two files that are open. -/
def compareFiles (p : Plan) (a b : Octets) (first second : Nat) : Act Nat := do
  let sizes := [← left? first, ← left? second].filterMap id
  let (x, y) ← contentsOfBoth p a b first second
  let cut (skip : Nat) (bs : Bytes) : Bytes :=
    match p.most with
    | some n => (bs.drop skip).take n
    | none => bs.drop skip
  let x := cut p.skip.1 x
  let y := cut p.skip.2 y
  if p.silent then return if x = y then 0 else 1
  if p.all then
    let most := (sizes ++ p.most.toList).foldl min 0x7FFFFFFFFFFFFFFF
    return ← listAll p a b x y (dec most).length
  match compare 1 1 true x y with
  | .same => return 0
  | .ended place line lineStart =>
    sayEnd (if x.length < y.length then a else b) place (some (line, lineStart))
    return 1
  | .differ place line u v =>
    let text := Octets.ofString
    deliver (Act.bytes (a ++ [' '] ++ b ++
      (if p.bytes then
        text " differ: byte " ++ dec place ++ text ", line " ++ dec line ++ text " is " ++
          octal u ++ [' '] ++ visible u ++ [' '] ++ octal v ++ [' '] ++ visible v
       else text " differ: char " ++ dec place ++ text ", line " ++ dec line) ++ ['\n']))
    return 1

/-- Compares two files, of which the second may be left out. -/
def run (args : List Octets) : Act Nat := do
  let (choices, operands) ← usage.parse args
  let p ← choices.foldlM Plan.add {}
  if p.all && p.silent then usage.misuse (Octets.ofString "options -l and -s are incompatible")
  match operands with
  | [] =>
    let last := ((← read).called :: args).getLast?.getD []
    usage.misuse (Octets.ofString "missing operand after '" ++ last ++ ['\''])
  | a :: rest =>
    let b := rest.headD Act.standard
    let skips ← (rest.drop 1).take 2 |>.mapM fun arg => do return (← skipped false arg).1
    match rest.drop 3 with
    | extra :: _ => usage.misuse (Octets.ofString "extra operand '" ++ extra ++ ['\''])
    | [] => pure ()
    let p := match skips with
      | [n] => { p with skip := (max p.skip.1 n, p.skip.2) }
      | [n, m] => { p with skip := (max p.skip.1 n, max p.skip.2 m) }
      | _ => p
    let first ← opened p.silent a
    if a = b && p.skip.1 = p.skip.2 then return 0
    let second ← opened p.silent b
    if (← areOne first second) && p.skip.1 = p.skip.2 then return 0
    compareFiles p a b first second

end Tandem.Host.Tool.Cmp
