import Tandem.Host.Tool.Options
import Tandem.Text.CharClass

/-!
# Replacing characters

`tr` replaces the characters of one set by those of another, deletes them, or leaves one of each
run. A set is written as characters, ranges, named classes and repetitions. If the second set is
shorter than the first, its last character stands in for those that are missing.
-/

namespace Tandem.Host.Tool.Tr

/-- How `tr` is called. -/
def usage : Usage where
  short := "cCdst".toList.map (·, .none)
  long := [("complement", .none, "c"), ("delete", .none, "d"), ("squeeze-repeats", .none, "s"),
    ("truncate-set1", .none, "t"), ("help", .none, "help"), ("version", .none, "version")]

/-- A part of a set. -/
inductive Element where
  | char (c : Char)
  | range (low high : Char)
  | named (name : String) (chars : Octets)
  /-- A class of equals, which has one member. -/
  | equals (c : Char)
  /-- A character so many times; without a number, as often as it takes. -/
  | repeated (c : Char) (count : Option Nat)
  deriving DecidableEq

namespace Element

/-- The characters of an element, a repetition without a number having none yet. -/
def chars : Element → Octets
  | .char c | .equals c => [c]
  | .range low high => (List.range (high.toNat + 1 - low.toNat)).map fun i =>
      Char.ofNat (low.toNat + i)
  | .named _ chars => chars
  | .repeated c count => List.replicate (count.getD 0) c

/-- The element is one of the two classes between which case is changed. -/
def isCase : Element → Bool
  | .named name _ => name == "upper" || name == "lower"
  | _ => false

/-- The element is a named class. -/
def isNamed : Element → Bool
  | .named .. => true
  | _ => false

/-- The element is a class of equals. -/
def isEquals : Element → Bool
  | .equals _ => true
  | _ => false

/-- The element is a repetition without a number. -/
def isOpen : Element → Bool
  | .repeated _ none => true
  | _ => false

end Element

/-- The characters of a set in order. -/
def members (es : List Element) : Octets :=
  es.flatMap Element.chars

/-- An octal digit. -/
def isOctal (c : Char) : Bool :=
  '0' ≤ c && c ≤ '7'

/-- The number that octal digits spell. -/
def ofOctal (digits : Octets) : Nat :=
  digits.foldl (fun n c => 8 * n + (c.toNat - '0'.toNat)) 0

/-- The characters of a set as it is written, each with whether a backslash stood before it. -/
def unquote : (fuel : Nat) → Octets → Act (List (Char × Bool))
  | 0, _ => return []
  | _, [] => return []
  | fuel + 1, '\\' :: cs => do
    match cs with
    | [] =>
      usage.warn (Octets.ofString
        "warning: an unescaped backslash at end of string is not portable")
      return [('\\', false)]
    | c :: rest =>
      let letters : List (Char × Nat) :=
        [('a', 7), ('b', 8), ('f', 12), ('n', 10), ('r', 13), ('t', 9), ('v', 11)]
      match letters.lookup c with
      | some n => return (Char.ofNat n, true) :: (← unquote fuel rest)
      | none =>
        let digits := (cs.take 3).takeWhile isOctal
        if digits.isEmpty then return (c, true) :: (← unquote fuel rest)
        else if ofOctal digits < 256 then
          return (Char.ofNat (ofOctal digits), true) :: (← unquote fuel (cs.drop digits.length))
        else
          let first := digits.take 2
          usage.warn (Octets.ofString "warning: the ambiguous octal escape \\" ++ digits ++
            Octets.ofString " is being\n\tinterpreted as the 2-byte sequence \\0" ++ first ++
            Octets.ofString ", " ++ digits.drop 2)
          return (Char.ofNat (ofOctal first), true) :: (← unquote fuel (cs.drop 2))
  | fuel + 1, c :: cs => return (c, false) :: (← unquote fuel cs)

/-- The characters up to a mark and a closing bracket, both without a backslash, and the rest. -/
def upTo (mark : Char) : List (Char × Bool) → Option (Octets × List (Char × Bool))
  | (c, false) :: (']', false) :: rest =>
    if c = mark then some ([], rest)
    else (upTo mark ((']', false) :: rest)).map fun (inside, rest) => (c :: inside, rest)
  | (c, _) :: rest => (upTo mark rest).map fun (inside, rest) => (c :: inside, rest)
  | [] => none

/-- The digits of a repetition up to its closing bracket, and the rest. -/
def repetition? : List (Char × Bool) → Option (Octets × List (Char × Bool))
  | (']', false) :: rest => some ([], rest)
  | (c, false) :: rest => (repetition? rest).map fun (digits, rest) => (c :: digits, rest)
  | _ => none

/-- A character in a message. -/
def shown (c : Char) : Octets :=
  if CharClass.isPrint c then [c]
  else
    let digits := Nat.toDigits 8 c.toNat
    '\\' :: (List.replicate (3 - digits.length) '0' ++ digits)

/-- How often a repetition repeats; nothing and zero mean as often as it takes. -/
def countOf (digits : Octets) : Act (Option Nat) := do
  let refuse : Act (Option Nat) := usage.fail (Octets.ofString "invalid repeat count " ++
    Quote.spelled digits ++ Octets.ofString " in [c*n] construct")
  if digits.isEmpty then return none
  let n? := if digits.head? = some '0' then
      if digits.all isOctal then some (ofOctal digits) else none
    else Octets.number? digits
  match n? with
  | some 0 => return none
  | some n => return some n
  | none => refuse

mutual

/-- Reads a set. -/
def elements (fuel : Nat) (cs : List (Char × Bool)) : Act (List Element) := do
  match fuel, cs with
  | 0, _ | _, [] => return []
  | fuel + 1, ('[', false) :: (mark, false) :: rest =>
    if mark = ':' || mark = '=' then
      match upTo mark rest with
      | some (inside, after) => bracketed fuel mark inside after rest
      | none => repeatedOr fuel cs
    else repeatedOr fuel cs
  | fuel + 1, cs => repeatedOr fuel cs

/-- Reads a class, or what looks like one. -/
def bracketed (fuel : Nat) (mark : Char) (inside : Octets) (after rest : List (Char × Bool)) :
    Act (List Element) := do
  match fuel with
  | 0 => return []
  | fuel + 1 =>
    let isRepetition : Bool := match rest with
      | ('*', false) :: more => (repetition? more).any fun (digits, _) => digits.all Char.isDigit
      | _ => false
    if inside.isEmpty then
      usage.fail (Octets.ofString (if mark = ':' then "missing character class name '[::]'"
        else "missing equivalence class character '[==]'"))
    else if mark = ':' then
      match CharClass.ofName? inside with
      | some p =>
        return .named (String.ofList inside) (CharClass.all.filter p) :: (← elements fuel after)
      | none =>
        if isRepetition then repeatedOr fuel (('[', false) :: (mark, false) :: rest)
        else usage.fail (Octets.ofString "invalid character class " ++ Quote.spelled inside)
    else match inside with
      | [c] => return .equals c :: (← elements fuel after)
      | _ =>
        if isRepetition then repeatedOr fuel (('[', false) :: (mark, false) :: rest)
        else usage.fail (inside ++
          Octets.ofString ": equivalence class operand must be a single character")

/-- Reads a repetition, a range or a plain character. -/
def repeatedOr (fuel : Nat) (cs : List (Char × Bool)) : Act (List Element) := do
  match fuel, cs with
  | 0, _ | _, [] => return []
  | fuel + 1, ('[', false) :: (c, e) :: ('*', false) :: rest =>
    match repetition? rest with
    | some (digits, after) =>
      let count ← countOf digits
      return .repeated c count :: (← elements fuel after)
    | none => return .char '[' :: (← elements fuel ((c, e) :: ('*', false) :: rest))
  | fuel + 1, (low, _) :: ('-', false) :: (high, _) :: rest =>
    if low ≤ high then return .range low high :: (← elements fuel rest)
    else usage.fail (Octets.ofString "range-endpoints of '" ++ shown low ++ ['-'] ++ shown high ++
      Octets.ofString "' are in reverse collating sequence order")
  | fuel + 1, (c, _) :: rest => return .char c :: (← elements fuel rest)

end

/-- The set that a text spells. -/
def readSet (text : Octets) : Act (List Element) := do
  let cs ← unquote (text.length + 1) text
  elements (3 * cs.length + 3) cs

/-- The characters that are not in a set. -/
def complement (set : Octets) : Octets :=
  CharClass.all.filter (!set.contains ·)

/-- The second set as long as the first one, repetitions filled up and the last character repeated.
-/
def extend (truncate : Bool) (size : Nat) (es : List Element) : Act (List Element) := do
  let length := (members es).length
  if es.any Element.isOpen && length ≤ size then
    return es.map fun e => match e with
      | .repeated c none => .repeated c (some (size - length))
      | e => e
  else if length < size && !truncate then
    match es.getLast? with
    | none => usage.fail (Octets.ofString
        "when not truncating set1, string2 must be non-empty")
    | some (.named ..) => usage.fail (Octets.ofString
        ("when translating with string1 longer than string2,\n" ++
          "the latter string must not end with a character class"))
    | some e =>
      let last := e.chars.getLast?.getD ' '
      return es ++ [.repeated last (some (size - length))]
  else return es

/-- Pairs of characters and what replaces them. Classes of case go together as wholes. -/
def pairs (fuel : Nat) (old new : List Element) : Act (List (Char × Char)) := do
  match fuel, old, new with
  | 0, _, _ | _, [], _ | _, _, [] => return []
  | fuel + 1, a :: old, b :: new =>
    if b.isCase then
      if !a.isCase then
        usage.fail (Octets.ofString "misaligned [:upper:] and/or [:lower:] construct")
      else return a.chars.zip b.chars ++ (← pairs fuel old new)
    else
      match a.chars, b.chars with
      | [], _ => pairs fuel old (b :: new)
      | _, [] => pairs fuel (a :: old) new
      | c :: cs, d :: ds =>
        let left (cs : Octets) : List Element := cs.map .char
        let rest ← pairs fuel (left cs ++ old) (left ds ++ new)
        return (c, d) :: rest

/-- How many characters a set has once classes of case count as one. -/
def weight (cases : Bool) (es : List Element) : Nat :=
  (es.map fun e => if cases && e.isCase then 1 else e.chars.length).foldl (· + ·) 0

/-- The replacement table of two sets. -/
def table (complemented truncate : Bool) (old new : List Element) : Act (List (Char × Char)) := do
  if new.any Element.isEquals then
    usage.fail (Octets.ofString
      "[=c=] expressions may not appear in string2 when translating")
  if new.any fun e => e.isNamed && !e.isCase then
    usage.fail (Octets.ofString
      ("when translating, the only character classes that may appear in\n" ++
        "string2 are 'upper' and 'lower'"))
  if complemented then
    let domain := complement (members old)
    let new ← extend truncate domain.length new
    let targets := members new
    let same := targets.length = domain.length && targets.eraseDups.length ≤ 1
    if old.any Element.isNamed && !same then
      usage.fail (Octets.ofString
        ("when translating with complemented character classes,\n" ++
          "string2 must map all characters in the domain to one"))
    return domain.zip targets
  else
    let cases := new.any Element.isNamed
    let size := weight cases old + (members new).length - weight cases new
    let pairUp (new : List Element) : Act (List (Char × Char)) :=
      let steps := (members old).length + (members new).length + old.length + new.length
      pairs (2 * steps + 2) old new
    let _ ← pairUp (← if new.any Element.isOpen then extend truncate size new else pure new)
    pairUp (← extend truncate size new)

/-- What is done to the text. -/
structure Action where
  /-- What a byte becomes. -/
  change : Array UInt8
  /-- Bytes that are dropped. -/
  drop : Array Bool
  /-- Bytes of which runs are cut down to one. -/
  squeeze : Array Bool

/-- The bytes of a set, as a table. -/
def marks (set : Octets) : Array Bool :=
  set.foldl (fun t c => t.setIfInBounds c.toNat true) (Array.replicate 256 false)

/-- Treats bytes, of which `last` was the one written before; answers with the output, latest first.
-/
def treat (a : Action) (state : Option UInt8 × Bytes) (b : UInt8) : Option UInt8 × Bytes :=
  let (last, out) := state
  if a.drop.getD b.toNat false then state
  else
    let c := a.change.getD b.toNat b
    if a.squeeze.getD c.toNat false && last == some c then state else (some c, c :: out)

/-- Treats the standard input. -/
def filter (a : Action) (input : Nat) (last : Option UInt8) (out : ByteArray) :
    Nat → Act (ByteArray × Option Errno)
  | 0 => return (out, none)
  | n + 1 => do
    match ← Act.readSome input 8192 with
    | .error e => return (out, some e)
    | .ok part =>
      if part.isEmpty then return (out, none)
      let (last, rev) := part.foldl (treat a) (last, [])
      filter a input last (← usage.hold out ⟨rev.reverse.toArray⟩) n

/-- The sets that were given, as they were written, if there are as many as there have to be. -/
def operands (deletes squeezes : Bool) (sets : List Octets) : Act Unit := do
  let fewest := if deletes == squeezes then 2 else 1
  let most := if deletes && !squeezes then 1 else 2
  let complainTwice {α : Type} (first second : Octets) : Act α := do
    usage.warn first
    Act.complain (second ++ ['\n'])
    usage.endWithHelp
  match sets with
  | [] => usage.misuse (Octets.ofString "missing operand")
  | _ =>
    if sets.length < fewest then
      let given := sets.getLast?.getD []
      complainTwice (Octets.ofString "missing operand after " ++ Quote.spelled given)
        (Octets.ofString (if squeezes then
          "Two strings must be given when both deleting and squeezing repeats."
          else "Two strings must be given when translating."))
    else match sets.drop most with
      | [] => return
      | extra :: _ =>
        let first := Octets.ofString "extra operand " ++ Quote.spelled extra
        if most = 1 && sets.length = 2 then
          complainTwice first (Octets.ofString
            "Only one string may be given when deleting without squeezing repeats.")
        else usage.misuse first

/-- Replaces, deletes or squeezes the characters of the standard input. -/
def run (args : List Octets) : Act Nat := do
  let (choices, sets) ← usage.parse args
  let has (key : String) : Bool := Choice.given choices key
  let complemented := has "c" || has "C"
  let deletes := has "d"
  let squeezes := has "s"
  operands deletes squeezes sets
  let old ← readSet (sets.headD [])
  let new ← match sets with
    | _ :: second :: _ => some <$> readSet second
    | _ => pure none
  if old.any Element.isOpen then
    usage.fail (Octets.ofString "the [c*] repeat construct may not appear in string1")
  if (new.getD []).countP Element.isOpen > 1 then
    usage.fail (Octets.ofString "only one [c*] repeat construct may appear in string2")
  if deletes && (new.getD []).any Element.isOpen then
    usage.fail (Octets.ofString
      "the [c*] construct may appear in string2 only when translating")
  let first := if complemented then complement (members old) else members old
  let identity := (List.range 256).map Nat.toUInt8 |>.toArray
  let nothing := marks []
  let action ← match new with
    | none => pure { change := identity, drop := if deletes then marks first else nothing
                     squeeze := if deletes then nothing else marks first : Action }
    | some new => do
      if deletes then
        pure { change := identity, drop := marks first, squeeze := marks (members new) : Action }
      else
        let pairs ← table complemented (has "t") old new
        let change := pairs.foldl (fun t (c, d) => t.setIfInBounds c.toNat d.toNat.toUInt8) identity
        let second := (← if new.any Element.isOpen then extend false first.length new else pure new)
        pure { change, drop := nothing
               squeeze := if squeezes then marks (members second) else nothing : Action }
  match ← Act.stream? 0 with
  | none => usage.fail (Octets.ofString "read error: Bad file descriptor")
  | some input =>
    let (out, failure) ← filter action input none .empty Act.patience
    usage.flush out
    match failure with
    | some e => usage.fail (Octets.ofString "read error: " ++ Octets.ofString e.text)
    | none => return 0

end Tandem.Host.Tool.Tr
