import Tandem.Host.Shell.State
import Tandem.Number.Reading

/-!
# Conditions

What `test` and `[` find out: about texts, numbers and files, joined by `!`, `-a`, `-o` and
parentheses. With three arguments, one in the middle that could be an operator is one.
-/

namespace Tandem.Host.Shell.Condition

/-- An argument that means something. -/
inductive Sign where
  /-- Asks something of the argument after it. -/
  | unary (letter : Char)
  /-- Compares the arguments around it. -/
  | binary (name : String)
  | not
  | both
  | either
  | openParen
  | closeParen
  deriving DecidableEq, Repr

/-- The letters that ask something. -/
def letters : Octets :=
  "rwxefdcbpugkstznhOGLS".toList

/-- The comparisons. -/
def comparisons : List String :=
  ["=", "!=", "<", ">", "-eq", "-ne", "-ge", "-gt", "-le", "-lt", "-nt", "-ot", "-ef"]

/-- What an argument means. -/
def sign? (arg : Octets) : Option Sign :=
  match arg with
  | ['-', 'a'] => some .both
  | ['-', 'o'] => some .either
  | ['!'] => some .not
  | ['('] => some .openParen
  | [')'] => some .closeParen
  | ['-', c] => if letters.contains c then some (.unary c) else none
  | _ => let name := String.ofList arg
    if comparisons.contains name then some (.binary name) else none

/-- What an argument is where it stands. -/
inductive Token where
  | endOfArgs
  | operand
  | sign (s : Sign)
  deriving DecidableEq, Repr

/-- The argument is a comparison. -/
def compares (arg : Octets) : Bool :=
  match sign? arg with
  | some (.binary _) => true
  | _ => false

/-- What the first argument is, in view of those after it. A letter that nothing follows, or that a
comparison follows, is an operand. -/
def look : List Octets → Token
  | [] => .endOfArgs
  | arg :: rest =>
    match sign? arg, rest with
    | some (.unary _), [] => .operand
    | some (.unary c), next :: more =>
      if !more.isEmpty && compares next then .operand else .sign (.unary c)
    | some .openParen, [] => .operand
    | some s, _ => .sign s
    | none, _ => .operand

/-- What is known about files. -/
structure Facts where
  /-- The answer to a letter about a path. -/
  file : Char → Octets → Bool
  /-- The answer to a comparison of two paths. -/
  files : String → Octets → Octets → Bool

/-- Finding out, from the argument on at which it stands. -/
abbrev Finding := StateT (List Octets) (Except Octets)

/-- Gives up, saying at which argument. -/
def refuse {α : Type} (at? : Octets) (what : String) : Finding α :=
  throw (if at?.isEmpty then Octets.ofString what
    else at? ++ Octets.ofString ": " ++ Octets.ofString what)

/-- Goes on by some arguments. -/
def advance (n : Nat) : Finding Unit :=
  modify (·.drop n)

/-- An argument as a number. -/
def number (arg : Octets) : Finding Int :=
  let bad : Finding Int := throw (Octets.ofString "Illegal number: " ++ arg)
  let (negative, rest) := Number.sign (Number.skipBlanks arg)
  let digits := rest.takeWhile CharClass.isDigit
  let after := (rest.drop digits.length).dropWhile CharClass.isSpace
  if digits.isEmpty || !after.isEmpty then bad
  else
    let n : Int := Number.ofDigits 10 digits
    let n := if negative then -n else n
    if n < Number.leastSigned || Number.greatestSigned < n then bad else return n

/-- The answer to a comparison. -/
def compare (facts : Facts) (name : String) (a b : Octets) : Finding Bool := do
  let numbers (p : Int → Int → Bool) : Finding Bool := do
    let x ← number a
    return p x (← number b)
  match name with
  | "=" => return a = b
  | "!=" => return a ≠ b
  | "<" => return a < b
  | ">" => return b < a
  | "-eq" => numbers (· = ·)
  | "-ne" => numbers (· ≠ ·)
  | "-ge" => numbers (· ≥ ·)
  | "-gt" => numbers (· > ·)
  | "-le" => numbers (· ≤ ·)
  | "-lt" => numbers (· < ·)
  | name => return facts.files name a b

/-- The answer to a letter. -/
def ask (facts : Facts) (letter : Char) (arg : Octets) : Finding Bool := do
  match letter with
  | 'z' => return arg.isEmpty
  | 'n' => return !arg.isEmpty
  | 't' =>
    let _ ← number arg
    return false
  | c => return facts.file c arg

mutual

/-- Answers joined by `-o`, given what the present argument is. -/
def disjunction (facts : Facts) (t : Token) : (fuel : Nat) → Finding Bool
  | 0 => return false
  | fuel + 1 => do
    let a ← conjunction facts t fuel
    if look ((← get).drop 1) = .sign .either then
      advance 2
      let b ← disjunction facts (look (← get)) fuel
      return a || b
    else return a

/-- Answers joined by `-a`. -/
def conjunction (facts : Facts) (t : Token) : (fuel : Nat) → Finding Bool
  | 0 => return false
  | fuel + 1 => do
    let a ← negation facts t fuel
    if look ((← get).drop 1) = .sign .both then
      advance 2
      let b ← conjunction facts (look (← get)) fuel
      return a && b
    else return a

/-- An answer that may be negated. -/
def negation (facts : Facts) (t : Token) : (fuel : Nat) → Finding Bool
  | 0 => return false
  | fuel + 1 => do
    if t = .sign .not then
      let next := look ((← get).drop 1)
      if next != .endOfArgs then advance 1
      return !(← negation facts next fuel)
    else primary facts t fuel

/-- One answer. -/
def primary (facts : Facts) (t : Token) : (fuel : Nat) → Finding Bool
  | 0 => return false
  | fuel + 1 => do
    match t with
    | .endOfArgs => return false
    | .sign .openParen =>
      advance 1
      let inside := look (← get)
      if inside = .sign .closeParen then return false
      let a ← disjunction facts inside fuel
      advance 1
      if look (← get) = .sign .closeParen then return a
      else refuse [] "closing paren expected"
    | .sign (.unary c) =>
      advance 1
      match ← get with
      | [] => refuse ['-', c] "argument expected"
      | arg :: _ => ask facts c arg
    | _ =>
      match ← get with
      | arg :: rest =>
        match look rest, rest with
        | .sign (.binary name), _ :: b :: _ =>
          advance 2
          compare facts name arg b
        | .sign (.binary name), _ => refuse (Octets.ofString name) "argument expected"
        | _, _ => return !arg.isEmpty
      | [] => return false

end

/-- The answer to the arguments, given what the first one is taken for. -/
def answer (facts : Facts) (t : Token) (args : List Octets) : Except Octets Bool := do
  let (a, rest) ← (disjunction facts t (4 * args.length + 8)).run args
  match rest with
  | arg :: _ :: _ =>
    throw (if arg.isEmpty then Octets.ofString "unexpected operator"
      else arg ++ Octets.ofString ": unexpected operator")
  | _ => return a

/-- The answer to all arguments. Of three or four of them a negation in front is taken off before
the rest is looked at, and so is a second one, which then counts for nothing. -/
def evaluate (facts : Facts) (args : List Octets) : Except Octets Bool :=
  let inner (negated : Bool) (args : List Octets) : Except Octets Bool :=
    (answer facts (look args) args).map (· != negated)
  let four (negated : Bool) (args : List Octets) (again : List Octets → Except Octets Bool) :
      Except Octets Bool :=
    match args with
    | ['('] :: rest => inner negated (if rest.getLast? == some [')'] then rest.dropLast else args)
    | ['!'] :: rest => again rest
    | _ => inner negated args
  let three (negated : Bool) (args : List Octets) : Except Octets Bool :=
    match args with
    | [_, op, _] =>
      if compares op then (answer facts .operand args).map (· != negated)
      else four negated args (inner true)
    | _ => inner negated args
  match args with
  | [] => .ok false
  | [_, _, _] => three false args
  | [_, _, _, _] => four false args (three true)
  | _ => inner false args

end Tandem.Host.Shell.Condition
