import Tandem.Host.Tool.Options
import Tandem.Number.Reading

/-!
# Sorting lines

`sort` orders the lines of all its files together. Lines are compared by keys, which are parts of
lines with a manner of comparing of their own, and at last as a whole, byte by byte, unless only the
keys count.
-/

namespace Tandem.Host.Tool.Sort

open Number

/-- How `sort` is called. -/
def usage : Usage where
  trouble := 2
  short := "bcCdfghiMmnrRsuVz".toList.map (·, .none) ++ "koStT".toList.map (·, .required)
  long := [("ignore-leading-blanks", .none, "b"), ("check", .optional, "check"),
    ("compress-program", .required, "compress-program"), ("dictionary-order", .none, "d"),
    ("ignore-case", .none, "f"), ("general-numeric-sort", .none, "g"),
    ("ignore-nonprinting", .none, "i"), ("key", .required, "k"), ("merge", .none, "m"),
    ("month-sort", .none, "M"), ("numeric-sort", .none, "n"), ("human-numeric-sort", .none, "h"),
    ("version-sort", .none, "V"), ("random-sort", .none, "R"),
    ("random-source", .required, "random-source"), ("sort", .required, "sort"),
    ("output", .required, "o"), ("reverse", .none, "r"), ("stable", .none, "s"),
    ("batch-size", .required, "batch-size"), ("buffer-size", .required, "S"),
    ("field-separator", .required, "t"), ("temporary-directory", .required, "T"),
    ("unique", .none, "u"), ("zero-terminated", .none, "z"), ("parallel", .required, "parallel"),
    ("help", .none, "help"), ("version", .none, "version")]

/-- How two parts of lines are compared. -/
structure Manner where
  skipStart : Bool := false
  skipEnd : Bool := false
  dictionary : Bool := false
  fold : Bool := false
  general : Bool := false
  human : Bool := false
  printing : Bool := false
  month : Bool := false
  numeric : Bool := false
  /-- In no order that can be told. Lines are left in plain order. -/
  random : Bool := false
  version : Bool := false
  reverse : Bool := false
  deriving DecidableEq

/-- A part of lines: from a field and a character on, up to a field and a character. -/
structure Key where
  startField : Nat := 0
  startChar : Nat := 0
  endField : Option Nat := none
  endChar : Nat := 0
  manner : Manner := {}
  deriving DecidableEq

/-- What is sorted, and how. -/
structure Plan where
  global : Manner := {}
  keys : List Key := []
  separator : Option Char := none
  check : Option Bool := none
  merge : Bool := false
  output : Option Octets := none
  stable : Bool := false
  unique : Bool := false
  lineEnd : UInt8 := 0x0A

/-- Where a letter for a manner stands. -/
inductive Side where
  | both
  | start
  | stop
  deriving DecidableEq

/-- The manner with one more letter. -/
def Manner.add? (o : Manner) (side : Side) (c : Char) : Option Manner :=
  match c with
  | 'b' => some { o with
      skipStart := o.skipStart || side != .stop, skipEnd := o.skipEnd || side != .start }
  | 'd' => some { o with dictionary := true }
  | 'f' => some { o with fold := true }
  | 'g' => some { o with general := true }
  | 'h' => some { o with human := true }
  | 'i' => some { o with printing := true }
  | 'M' => some { o with month := true }
  | 'n' => some { o with numeric := true }
  | 'V' => some { o with version := true }
  | 'r' => some { o with reverse := true }
  | 'R' => some { o with random := true }
  | _ => none

/-- Adds letters as long as they stand for something; answers with what is left. -/
def Manner.addAll (o : Manner) (side : Side) : Octets → Manner × Octets
  | [] => (o, [])
  | c :: cs => match o.add? side c with
    | some o => o.addAll side cs
    | none => (o, c :: cs)

/-- A count in a key, and what is left. -/
def countIn (what : String) (cs : Octets) : Act (Nat × Octets) :=
  let digits := cs.takeWhile CharClass.isDigit
  if digits.isEmpty then
    usage.fail (Octets.ofString (what ++ ": invalid count at start of ") ++ Quote.spelled cs)
  else return (ofDigits 10 digits, cs.drop digits.length)

/-- The key that a text spells. -/
def readKey (text : Octets) : Act Key := do
  let refuse {α : Type} (what : String) : Act α :=
    usage.fail (Octets.ofString (what ++ ": invalid field specification ") ++ Quote.spelled text)
  let (field, rest) ← countIn "invalid number at field start" text
  if field = 0 then refuse "field number is zero"
  let (char, rest) ← match rest with
    | '.' :: more => do
      let (n, more) ← countIn "invalid number after '.'" more
      if n = 0 then refuse "character offset is zero"
      pure (n - 1, more)
    | _ => pure (0, rest)
  let (manner, rest) := Manner.addAll {} .start rest
  let key : Key := { startField := field - 1, startChar := char, manner }
  match rest with
  | [] => return key
  | ',' :: more =>
    let (field, rest) ← countIn "invalid number after ','" more
    if field = 0 then refuse "field number is zero"
    let (char, rest) ← match rest with
      | '.' :: more => countIn "invalid number after '.'" more
      | _ => pure (0, rest)
    let (manner, rest) := key.manner.addAll .stop rest
    if !rest.isEmpty then refuse "stray character in field spec"
    return { key with endField := some (field - 1), endChar := char, manner }
  | _ => refuse "stray character in field spec"

/-- The character that divides fields, of which there is only one. -/
def readSeparator (p : Plan) (value : Octets) : Act Plan :=
  let choose (c : Char) : Act Plan :=
    if p.separator.any (· != c) then usage.fail (Octets.ofString "incompatible tabs")
    else return { p with separator := some c }
  match value with
  | [] => usage.fail (Octets.ofString "empty tab")
  | [c] => choose c
  | ['\\', '0'] => choose (Char.ofNat 0)
  | _ => usage.fail (Octets.ofString "multi-character tab " ++ Quote.spelled value)

/-- Words for orders, and the letters that stand for the same. -/
def orders : List (String × Char) :=
  [("general-numeric", 'g'), ("human-numeric", 'h'), ("month", 'M'), ("numeric", 'n'),
    ("random", 'R'), ("version", 'V')]

/-- Words for what is said of lines that are out of order: nothing, or which is the first. -/
def checks : List (String × Bool) :=
  [("quiet", true), ("silent", true), ("diagnose-first", false)]

/-- The plan that only checks the order, quietly or not. -/
def Plan.checking (p : Plan) (quiet : Bool) : Act Plan := do
  if p.check.any (· != quiet) then
    usage.fail (Octets.ofString "options '-cC' are incompatible")
  return { p with check := some quiet }

/-- The plan with the order that a letter stands for. -/
def Plan.addLetter (p : Plan) (letter : Char) : Plan :=
  { p with global := (p.global.add? .both letter).getD p.global }

/-- Takes one option into account. -/
def Plan.add (p : Plan) (c : Choice) : Act Plan := do
  match c.key with
  | "k" => return { p with keys := p.keys ++ [← readKey c.value] }
  | "t" => readSeparator p c.value
  | "c" => p.checking false
  | "C" => p.checking true
  | "check" =>
    p.checking (← if c.value.isEmpty then pure false else usage.wordOf "check" checks c.value)
  | "sort" => return p.addLetter (← usage.wordOf "sort" orders c.value)
  | "m" => return { p with merge := true }
  | "o" =>
    if p.output.any (· != c.value) then
      usage.fail (Octets.ofString "multiple output files specified")
    return { p with output := some c.value }
  | "s" => return { p with stable := true }
  | "u" => return { p with unique := true }
  | "z" => return { p with lineEnd := 0 }
  | key => match key.toList with
    | [letter] => return p.addLetter letter
    | _ => return p

/-- The ways of a manner that exclude one another. -/
def Manner.clashes (o : Manner) : Octets :=
  let on : List (Bool × Char) := [(o.dictionary, 'd'), (o.fold, 'f'), (o.general, 'g'),
    (o.human, 'h'), (o.printing && !o.dictionary, 'i'), (o.month, 'M'), (o.numeric, 'n'),
    (o.random, 'R'), (o.version, 'V')]
  let ways := [o.numeric, o.general, o.human, o.month,
    o.version || o.random || o.dictionary || o.printing]
  if 1 < ways.countP id then (on.filter (·.1)).map (·.2) else []

/-! ### Comparing -/

/-- What follows so many fields at the front of a line. Without a separator, blanks belong to the
field after them. -/
def afterFields (separator : Option Char) (n : Nat) (line : Octets) : Octets :=
  match n with
  | 0 => line
  | n + 1 =>
    if line.isEmpty then line
    else match separator with
      | some c => afterFields separator n ((line.dropWhile (· != c)).drop 1)
      | none => afterFields separator n
          ((line.dropWhile CharClass.isBlank).dropWhile (!CharClass.isBlank ·))

/-- The part of a line that a key stands for. -/
def Key.part (k : Key) (separator : Option Char) (line : Octets) : Octets :=
  let start := afterFields separator k.startField line
  let start := if k.manner.skipStart then start.dropWhile CharClass.isBlank else start
  let start := start.drop k.startChar
  match k.endField with
  | none => start
  | some field =>
    let rest := if k.endChar = 0 then
        match separator with
        | some c =>
          let last := afterFields separator field line
          last.dropWhile (· != c)
        | none => afterFields separator (field + 1) line
      else
        let last := afterFields separator field line
        let last := if k.manner.skipEnd then last.dropWhile CharClass.isBlank else last
        last.drop k.endChar
    start.take (start.length - rest.length)

/-- Compares byte by byte. -/
def compareBytes : Octets → Octets → Ordering
  | [], [] => .eq
  | [], _ :: _ => .lt
  | _ :: _, [] => .gt
  | a :: as, b :: bs => if a = b then compareBytes as bs else compare a.toNat b.toNat

/-- A decimal number at the front of a text as a fraction, and what is left. Blanks may come first,
and nothing is zero. -/
def decimal (cs : Octets) : Int × Nat × Octets :=
  let cs := cs.dropWhile CharClass.isBlank
  let (negative, rest) := match cs with
    | '-' :: rest => (true, rest)
    | _ => (false, cs)
  let whole := rest.takeWhile CharClass.isDigit
  let rest := rest.drop whole.length
  let (part, rest) := match rest with
    | '.' :: more => (more.takeWhile CharClass.isDigit, more.dropWhile CharClass.isDigit)
    | _ => ([], rest)
  let n : Int := ofDigits 10 (whole ++ part)
  (if negative then -n else n, Nat.pow 10 part.length, rest)

/-- Compares by decimal numbers. -/
def compareDecimal (a b : Octets) : Ordering :=
  let (m, d, _) := decimal a
  let (n, e, _) := decimal b
  compare (m * e) (n * d)

/-- Compares by decimal numbers with a letter for their size behind them, which counts first. -/
def compareHuman (a b : Octets) : Ordering :=
  let rank (cs : Octets) : Int :=
    let (n, _, rest) := decimal cs
    let size : Nat := match rest with
      | c :: _ => ("KMGTPEZY".toList.idxOf? (if c = 'k' then 'K' else c)).elim 0 (· + 1)
      | [] => 0
    if n < 0 then -size else if n = 0 then 0 else size
  (compare (rank a) (rank b)).then (compareDecimal a b)

/-- Compares by real numbers; what is none comes first, and then what is not a number. -/
def compareReal (a b : Octets) : Ordering :=
  let rank (x : Option (Numeral × Octets)) : Int :=
    match x with
    | none => -3
    | some (x, _) => match x.magnitude with
      | .notANumber => -2
      | .infinite => if x.negative then -1 else 1
      | .finite .. => 0
  let value (x : Option (Numeral × Octets)) : Int × Nat :=
    match x with
    | some (⟨negative, .finite num den⟩, _) => (if negative then -(num : Int) else num, den)
    | _ => (0, 1)
  let x := real? a
  let y := real? b
  (compare (rank x) (rank y)).then
    (compare ((value x).1 * (value y).2) ((value y).1 * (value x).2))

/-- The number of the month that a text starts with, or zero. -/
def monthOf (cs : Octets) : Nat :=
  let name := String.ofList (((cs.dropWhile CharClass.isBlank).take 3).map Char.toUpper)
  match ["JAN", "FEB", "MAR", "APR", "MAY", "JUN", "JUL", "AUG", "SEP", "OCT", "NOV", "DEC"].idxOf?
      name with
  | some i => i + 1
  | none => 0

/-- The rank of a character in a version. -/
def versionRank (c : Option Char) : Int :=
  match c with
  | none => -1
  | some c =>
    if CharClass.isDigit c then 0 else if CharClass.isAlpha c then c.toNat
    else if c = '~' then -2 else c.toNat + 256

/-- Compares versions: runs of other characters and runs of digits in turn. -/
def compareVersion : (fuel : Nat) → Octets → Octets → Ordering
  | 0, _, _ => .eq
  | _, [], [] => .eq
  | fuel + 1, a, b =>
    let text (cs : Octets) : Octets := cs.takeWhile (!CharClass.isDigit ·)
    let ranks (cs : Octets) (other : Octets) : List Int :=
      (cs.map fun c => versionRank (some c)) ++
        List.replicate (other.length - cs.length)
          (if cs.length < a.length && cs.length < b.length then 0 else -1)
    let x := ranks (text a) (text b)
    let y := ranks (text b) (text a)
    let byText : Ordering := (x.zip y).foldl (fun o (m, n) => Ordering.then o (compare m n)) .eq
    let a := a.drop (text a).length
    let b := b.drop (text b).length
    let number (cs : Octets) : Nat := ofDigits 10 (cs.takeWhile CharClass.isDigit)
    byText.then ((compare (number a) (number b)).then
      (compareVersion fuel (a.dropWhile CharClass.isDigit) (b.dropWhile CharClass.isDigit)))

/-- The characters of a part that count, in the case that counts. -/
def Manner.essence (o : Manner) (cs : Octets) : Octets :=
  let cs := if o.dictionary then
      cs.filter fun c => CharClass.isBlank c || CharClass.isAlpha c || CharClass.isDigit c
    else if o.printing then cs.filter CharClass.isPrint else cs
  if o.fold then cs.map Char.toUpper else cs

/-- Compares two parts of lines. -/
def Manner.compare (o : Manner) (a b : Octets) : Ordering :=
  let result := if o.numeric then compareDecimal a b
    else if o.general then compareReal a b
    else if o.human then compareHuman a b
    else if o.month then Ord.compare (monthOf a) (monthOf b)
    else if o.version then compareVersion (a.length + b.length + 1) a b
    else compareBytes (o.essence a) (o.essence b)
  if o.reverse then result.swap else result

/-- The keys that count: those given, with the global manner where they have none of their own, or
the whole line if the global manner calls for it. -/
def Plan.allKeys (p : Plan) : List Key :=
  if p.keys.isEmpty then
    if { p.global with reverse := false } == {} then [] else [{ manner := p.global }]
  else p.keys.map fun k => if k.manner == {} then { k with manner := p.global } else k

/-- Compares two lines by keys alone. -/
def compareKeys (separator : Option Char) (a b : Octets) : List Key → Ordering
  | [] => .eq
  | k :: keys =>
    match k.manner.compare (k.part separator a) (k.part separator b) with
    | .eq => compareKeys separator a b keys
    | result => result

/-- Compares two lines. -/
def Plan.compare (p : Plan) (a b : Octets) : Ordering :=
  let keys := p.allKeys
  match compareKeys p.separator a b keys with
  | .eq =>
    if !keys.isEmpty && (p.unique || p.stable) then .eq
    else
      let result := compareBytes a b
      if p.global.reverse then result.swap else result
  | result => result

/-! ### Lines -/

/-- The lines of a text, the last of which may lack its end. -/
def linesOf (lineEnd : UInt8) (data : ByteArray) : List Octets :=
  let (line, lines) := data.foldl (fun (line, lines) b =>
    if b = lineEnd then (([] : Octets), line.reverse :: lines)
    else (Char.ofNat b.toNat :: line, lines)) (([] : Octets), ([] : List Octets))
  (if line.isEmpty then lines else line.reverse :: lines).reverse

/-- Leaves the first of lines that are equal, in a list that is in order. -/
def firsts (same : Octets → Octets → Bool) : List Octets → List Octets
  | a :: b :: rest =>
    if same a b then firsts same (a :: rest) else a :: firsts same (b :: rest)
  | lines => lines
termination_by lines => lines.length

/-- Merges two lists, the first one first among equals. -/
def mergeTwo (le : Octets → Octets → Bool) (as bs : List Octets) : List Octets :=
  List.merge as bs le

/-- Reads all lines of all files. -/
def readAll (p : Plan) : List Octets → Act (List (List Octets))
  | [] => return []
  | name :: names => do
    match ← Act.openInput name with
    | .error e =>
      let what := if name = Act.standard then "stat failed: " else "cannot read: "
      usage.fail (Octets.ofString what ++ Quote.ifNeeded name ++ Octets.ofString ": " ++
        Octets.ofString e.text)
    | .ok input =>
      match ← Act.gather input .empty Act.patience with
      | (_, some e) =>
        usage.fail (Octets.ofString "read failed: " ++ Quote.ifNeeded name ++
          Octets.ofString ": " ++ Octets.ofString e.text)
      | (data, none) => return linesOf p.lineEnd data :: (← readAll p names)

/-- Makes sure that all files are there. -/
def checkInputs : List Octets → Act Unit
  | [] => return
  | name :: names => do
    if name != Act.standard then
      let context ← read
      let s ← get
      if let .error fault := s.store.lookup context.place ⟨Octets.toBytes name⟩ then
        usage.fail (Octets.ofString "cannot read: " ++ Quote.ifNeeded name ++
          Octets.ofString ": " ++ Octets.ofString (System.errnoOf fault).text)
    checkInputs names

/-- The first line that is out of order, with its number. -/
def disorder? (p : Plan) (number : Nat) : List Octets → Option (Nat × Octets)
  | a :: b :: rest =>
    let result := p.compare a b
    if result == .gt || (p.unique && result == .eq) then some (number + 1, b)
    else disorder? p (number + 1) (b :: rest)
  | _ => none

/-- Checks that a file is in order. -/
def checkOrder (p : Plan) (quiet : Bool) (name : Octets) : Act Nat := do
  let lines := (← readAll p [name]).flatten
  match disorder? p 1 lines with
  | none => return 0
  | some (number, line) =>
    if !quiet then
      usage.warn (Quote.ifNeeded name ++ [':'] ++ Octets.ofNat number ++
        Octets.ofString ": disorder: " ++ line)
    return 1

/-- Writes the lines where they belong. -/
def deliver (p : Plan) (lines : List Octets) : Act Nat := do
  let text := Act.bytes (lines.flatMap (· ++ [Char.ofNat p.lineEnd.toNat]))
  let report (name : Octets) (e : Errno) : Act Nat :=
    usage.fail (Octets.ofString "write failed: " ++ name ++ Octets.ofString ": " ++
      Octets.ofString e.text)
  match p.output with
  | none =>
    usage.flushOr text fun e => do
      usage.warn (Octets.ofString ("fflush failed: 'standard output': " ++ e.text))
      usage.fail (Octets.ofString "write error")
    return 0
  | some name => match ← Act.openPath .write name with
    | .error e => usage.fail (Octets.ofString "open failed: " ++ Quote.ifNeeded name ++
        Octets.ofString ": " ++ Octets.ofString e.text)
    | .ok output => match ← Act.writeTo output text with
      | .ok () => return 0
      | .error e => report (Quote.ifNeeded name) e

/-- Complains about ways of comparing that exclude one another. -/
def checkManners (p : Plan) : Act Unit := do
  for key in p.allKeys do
    let clashes := key.manner.clashes
    if !clashes.isEmpty then
      usage.fail (Octets.ofString "options '-" ++ clashes ++ Octets.ofString "' are incompatible")

/-- Sorts files, or the standard input if there are none. -/
def run (args : List Octets) : Act Nat := do
  let (choices, operands) ← usage.parse args
  let p ← choices.foldlM Plan.add {}
  checkManners p
  let names := if operands.isEmpty then [Act.standard] else operands
  match p.check with
  | some quiet =>
    match names with
    | _ :: extra :: _ =>
      usage.fail (Octets.ofString "extra operand " ++ Quote.spelled extra ++
        Octets.ofString (if quiet then " not allowed with -C" else " not allowed with -c"))
    | name :: _ =>
      if p.output.isSome then
        usage.fail (Octets.ofString (if quiet then "options '-Co'" else "options '-co'") ++
          Octets.ofString " are incompatible")
      checkOrder p quiet name
    | [] => return 0
  | none =>
    checkInputs names
    let files ← readAll p names
    let le (a b : Octets) : Bool := p.compare a b != .gt
    let lines := if p.merge then files.foldl (mergeTwo le) [] else files.flatten.mergeSort le
    let lines := if p.unique then firsts (p.compare · · == .eq) lines else lines
    deliver p lines

end Tandem.Host.Tool.Sort
