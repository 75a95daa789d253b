import Tandem.Host.Shell.Script
import Tandem.Number.Reading

/-!
# Arithmetic

Expressions over whole numbers of 64 bits, as they stand between `$((` and `))`. Variables are
looked up and may be assigned to; what is skipped by `&&`, `||` and `?:` is read and not carried
out.
-/

namespace Tandem.Host.Shell.Arithmetic

open Number

/-- Operators between two values, from those that bind tightest. -/
inductive Binary where
  | mul | div | rem | add | sub | shl | shr | lt | le | gt | ge | eq | ne | and | xor | or
  deriving DecidableEq, Repr

/-- What an expression is cut into. -/
inductive Token where
  | number (n : Int)
  | variable (name : Octets)
  | binary (op : Binary)
  /-- An assignment, perhaps with an operation. -/
  | assign (op : Option Binary)
  | not
  | complement
  | both
  | either
  | question
  | colon
  | openParen
  | closeParen
  /-- Nothing that an expression is made of. -/
  | strange
  deriving DecidableEq, Repr

/-- How loosely an operator binds. -/
def Binary.looseness : Binary → Nat
  | .mul | .div | .rem => 0
  | .add | .sub => 1
  | .shl | .shr => 2
  | .lt | .le | .gt | .ge => 3
  | .eq | .ne => 4
  | .and => 5
  | .xor => 6
  | .or => 7

/-- The signs of an expression, longer ones first. -/
def signs : List (String × Token) :=
  [("<<=", .assign (some .shl)), (">>=", .assign (some .shr)), ("==", .binary .eq),
    ("!=", .binary .ne), ("<=", .binary .le), (">=", .binary .ge), ("<<", .binary .shl),
    (">>", .binary .shr), ("&&", .both), ("||", .either), ("+=", .assign (some .add)),
    ("-=", .assign (some .sub)), ("*=", .assign (some .mul)), ("/=", .assign (some .div)),
    ("%=", .assign (some .rem)), ("&=", .assign (some .and)), ("^=", .assign (some .xor)),
    ("|=", .assign (some .or)), ("=", .assign none), ("!", .not), ("~", .complement),
    ("*", .binary .mul), ("/", .binary .div), ("%", .binary .rem), ("+", .binary .add),
    ("-", .binary .sub), ("<", .binary .lt), (">", .binary .gt), ("&", .binary .and),
    ("^", .binary .xor), ("|", .binary .or), ("?", .question), (":", .colon), ("(", .openParen),
    (")", .closeParen)]

/-- A number brought back into 64 bits. -/
def wrap (n : Int) : Int :=
  Int.bmod n (greatestUnsigned + 1)

/-- The tokens of an expression. -/
def tokens : (fuel : Nat) → Octets → List Token
  | 0, _ => []
  | _, [] => []
  | fuel + 1, c :: cs =>
    if c == ' ' || c == '\t' || c == '\n' then tokens fuel cs
    else if c.isDigit then
      match natural? (c :: cs) with
      | some (n, rest) => .number (min n greatestSigned) :: tokens fuel rest
      | none => .strange :: tokens fuel cs
    else if isNameStart c then
      let name := (c :: cs).takeWhile isNameChar
      .variable name :: tokens fuel ((c :: cs).drop name.length)
    else match signs.find? fun entry => entry.1.toList.isPrefixOf (c :: cs) with
      | some (sign, t) => t :: tokens fuel ((c :: cs).drop sign.length)
      | none => .strange :: tokens fuel cs

/-- Why an expression has no value. -/
inductive Mistake where
  /-- The expression makes no sense. -/
  | expression (what : String)
  /-- The value of a variable is no number. -/
  | number (value : Octets)
  /-- A quotient is too great for 64 bits. Unlike other results it is not cut down to them. -/
  | quotient

/-- What is left of an expression, and what was assigned, latest first. -/
structure State where
  tokens : List Token
  assigned : List (Octets × Int) := []

/-- Evaluating an expression. -/
abbrev Eval := StateT State (Except Mistake)

/-- The value of a text as a number; nothing is zero. -/
def numberOf (value : Octets) : Except Mistake Int :=
  let (n, rest) := match integer? value with
    | some found => found
    | none => (0, value)
  if !(rest.dropWhile CharClass.isSpace).isEmpty || n < leastSigned || greatestSigned < n then
    .error (.number value)
  else .ok n

/-- Takes the next token. -/
def next : Eval (Option Token) := do
  let s ← get
  match s.tokens with
  | [] => return none
  | t :: tokens =>
    set { s with tokens }
    return some t

/-- The next token, which stays. -/
def peek : Eval (Option Token) := do
  return (← get).tokens.head?

/-- Gives up. -/
def fail {α : Type} (what : String) : Eval α :=
  throw (.expression what)

/-- A truth value as a number. -/
def truth (b : Bool) : Int :=
  if b then 1 else 0

/-- The bits of a number. -/
def bits (n : Int) : Nat :=
  (n % (greatestUnsigned + 1)).toNat

/-- Divides one number by another. Where the quotient is too great there is no remainder either. -/
def divide (f : Int → Int → Int) (a b : Int) : Eval Int :=
  if b = 0 then fail "division by zero"
  else if greatestSigned < a.tdiv b then throw .quotient
  else return f a b

/-- The value of an operator. -/
def apply (op : Binary) (a b : Int) : Eval Int := do
  match op with
  | .mul => return wrap (a * b)
  | .div => divide Int.tdiv a b
  | .rem => divide Int.tmod a b
  | .add => return wrap (a + b)
  | .sub => return wrap (a - b)
  | .shl => return wrap (a <<< (bits b % 64))
  | .shr => return a >>> (bits b % 64)
  | .lt => return truth (a < b)
  | .le => return truth (a ≤ b)
  | .gt => return truth (b < a)
  | .ge => return truth (b ≤ a)
  | .eq => return truth (a = b)
  | .ne => return truth (a ≠ b)
  | .and => return wrap (bits a &&& bits b : Nat)
  | .xor => return wrap (bits a ^^^ bits b : Nat)
  | .or => return wrap (bits a ||| bits b : Nat)

/-- Where the values of variables come from. -/
abbrev Lookup := Octets → Option Octets

/-- The value of a variable. -/
def valueOf (lookup : Lookup) (name : Octets) : Eval Int := do
  match (← get).assigned.lookup name with
  | some n => return n
  | none => match numberOf ((lookup name).getD []) with
    | .ok n => return n
    | .error e => throw e

mutual

/-- A value that no operator divides. `live` says that it counts. -/
def primary (lookup : Lookup) (live : Bool) : (fuel : Nat) → Eval Int
  | 0 => fail "expecting primary"
  | fuel + 1 => do
    match ← next with
    | some (.number n) => return n
    | some (.variable name) => if live then valueOf lookup name else return 0
    | some .openParen =>
      let n ← assignment lookup live fuel
      match ← next with
      | some .closeParen => return n
      | _ => fail "expecting ')'"
    | some (.binary .add) => primary lookup live fuel
    | some (.binary .sub) => return wrap (-(← primary lookup live fuel))
    | some .not => return truth ((← primary lookup live fuel) = 0)
    | some .complement => return wrap (-(← primary lookup live fuel) - 1)
    | _ => fail "expecting primary"

/-- What follows a value, as long as its operators bind tighter than `looseness`. -/
def operators (lookup : Lookup) (live : Bool) (looseness : Nat) (a : Int) : (fuel : Nat) → Eval Int
  | 0 => fail "expecting primary"
  | fuel + 1 => do
    match ← peek with
    | some (.binary op) =>
      if op.looseness < looseness then
        let _ ← next
        let b ← primary lookup live fuel
        let b ← operators lookup live op.looseness b fuel
        let a ← if live then apply op a b else pure b
        operators lookup live looseness a fuel
      else return a
    | _ => return a

/-- Values joined by `&&`. -/
def conjunction (lookup : Lookup) (live : Bool) : (fuel : Nat) → Eval Int
  | 0 => fail "expecting primary"
  | fuel + 1 => do
    let a ← primary lookup live fuel
    let a ← operators lookup live 8 a fuel
    match ← peek with
    | some .both =>
      let _ ← next
      let b ← conjunction lookup (live && a ≠ 0) fuel
      return truth (a ≠ 0 && b ≠ 0)
    | _ => return a

/-- Values joined by `||`. -/
def disjunction (lookup : Lookup) (live : Bool) : (fuel : Nat) → Eval Int
  | 0 => fail "expecting primary"
  | fuel + 1 => do
    let a ← conjunction lookup live fuel
    match ← peek with
    | some .either =>
      let _ ← next
      let b ← disjunction lookup (live && a = 0) fuel
      return truth (a ≠ 0 || b ≠ 0)
    | _ => return a

/-- A choice between two values. -/
def conditional (lookup : Lookup) (live : Bool) : (fuel : Nat) → Eval Int
  | 0 => fail "expecting primary"
  | fuel + 1 => do
    let a ← disjunction lookup live fuel
    match ← peek with
    | some .question =>
      let _ ← next
      let b ← assignment lookup (live && a ≠ 0) fuel
      match ← next with
      | some .colon =>
        let c ← conditional lookup (live && a = 0) fuel
        return if a ≠ 0 then b else c
      | _ => fail "expecting ':'"
    | _ => return a

/-- A value that may be assigned to a variable. -/
def assignment (lookup : Lookup) (live : Bool) : (fuel : Nat) → Eval Int
  | 0 => fail "expecting primary"
  | fuel + 1 => do
    match (← get).tokens with
    | .variable name :: .assign op :: _ =>
      let _ ← next
      let _ ← next
      let n ← assignment lookup live fuel
      if !live then return n
      let n ← match op with
        | none => pure n
        | some op => do apply op (← valueOf lookup name) n
      modify fun s => { s with assigned := (name, n) :: s.assigned }
      return n
    | _ => conditional lookup live fuel

end

/-- The value of an expression, and what was assigned, in order. -/
def evaluate (lookup : Lookup) (text : Octets) : Except Mistake (Int × List (Octets × Int)) := do
  let ts := tokens (text.length + 1) text
  let (n, s) ← (assignment lookup true (4 * ts.length + 8)).run { tokens := ts }
  if s.tokens.isEmpty then return (n, s.assigned.reverse) else throw (.expression "expecting EOF")

end Tandem.Host.Shell.Arithmetic
