import Tandem.Host.Shell.State
import Tandem.Number.Format

/-!
# Printing by the shell itself

The shell prints without the help of a program: its arguments with their escapes replaced, or by a
format that is used again as long as arguments are left.
-/

namespace Tandem.Host.Shell.Printing

open Number

/-- The characters behind a backslash and a letter. -/
def named : List (Char × Nat) :=
  [('\\', 92), ('a', 7), ('b', 8), ('e', 27), ('f', 12), ('n', 10), ('r', 13), ('t', 9), ('v', 11)]

/-- The escape behind a backslash, and what is left. What is no escape leaves the backslash alone.
-/
def escape (cs : Octets) : Char × Octets :=
  match cs with
  | [] => ('\\', [])
  | c :: rest =>
    if isDigitOf 8 c then
      let digits := (cs.take 3).takeWhile (isDigitOf 8)
      (Char.ofNat (ofDigits 8 digits % 256), cs.drop digits.length)
    else match named.lookup c with
      | some n => (Char.ofNat n, rest)
      | none => ('\\', cs)

/-- Replaces escapes in an argument, where octal numbers may start with one more zero; answers with
whether the printing ends there for good. -/
def unescape : (fuel : Nat) → Octets → Octets × Bool
  | 0, _ => ([], false)
  | _, [] => ([], false)
  | fuel + 1, '\\' :: rest =>
    match rest with
    | 'c' :: _ => ([], true)
    | _ =>
      let rest := match rest with
        | '0' :: d :: more => if isDigitOf 8 d then d :: more else rest
        | _ => rest
      let (c, rest) := escape rest
      let (cs, ended) := unescape fuel rest
      (c :: cs, ended)
  | fuel + 1, c :: rest =>
    let (cs, ended) := unescape fuel rest
    (c :: cs, ended)

/-- An argument with its escapes replaced. -/
def unescaped (cs : Octets) : Octets × Bool :=
  unescape (cs.length + 1) cs

/-- Prints arguments with a space between them and a line end behind them. -/
def words (newline : Bool) : List Octets → Octets
  | [] => if newline then ['\n'] else []
  | arg :: rest =>
    let (cs, ended) := unescaped arg
    if ended then cs
    else if rest.isEmpty then (if newline then cs ++ ['\n'] else cs)
    else cs ++ ' ' :: words newline rest

/-- Prints its arguments. -/
def echo (args : List Octets) : Sh Nat := do
  match args with
  | ['-', 'n'] :: args => Sh.put (words false args)
  | args => Sh.put (words true args)
  return 0

/-! ### Formats -/

/-- Where the printing stands: the arguments that are left, and whether something was complained
about. -/
structure Progress where
  args : List Octets
  failed : Bool := false

/-- Complains about an argument. -/
def object (p : Progress) (arg : Octets) (what : String) : Sh Progress := do
  Sh.warn (arg ++ Octets.ofString ": " ++ Octets.ofString what)
  return { p with failed := true }

/-- Complains about what a number leaves over. -/
def verify (p : Progress) (arg rest : Octets) (started tooBig : Bool) : Sh Progress :=
  if !rest.isEmpty then
    object p arg (if started then "not completely converted" else "expected numeric value")
  else if tooBig then object p arg Errno.outOfRange.text
  else return p

/-- The next argument as a text. -/
def textArg (p : Progress) : Octets × Progress :=
  (p.args.headD [], { p with args := p.args.tail })

/-- The code of a quoted character. -/
def quoted? : Octets → Option Nat
  | '"' :: rest | '\'' :: rest => some ((rest.headD '\x00').toNat)
  | _ => none

/-- The next argument as a whole number between two bounds. -/
def integerArg (isSigned : Bool) (p : Progress) : Sh (Int × Progress) := do
  match p.args with
  | [] => return (0, p)
  | arg :: args =>
    let p := { p with args }
    match quoted? arg with
    | some n => return (n, p)
    | none =>
      let (n, rest, started) := match integer? arg with
        | some (n, rest) => (n, rest, true)
        | none => (0, arg, false)
      let (value, tooBig) : Int × Bool :=
        if isSigned then
          (max leastSigned (min greatestSigned n), n < leastSigned || greatestSigned < n)
        else
          let high : Int := greatestUnsigned
          if high < n.natAbs then (high, true) else (if n < 0 then high + 1 + n else n, false)
      return (value, ← verify p arg rest started tooBig)

/-- The next argument as a real number. -/
def realArg (p : Progress) : Sh (Numeral × Progress) := do
  match p.args with
  | [] => return ({}, p)
  | arg :: args =>
    let p := { p with args }
    match quoted? arg with
    | some n => return ({ magnitude := .finite n 1 }, p)
    | none =>
      let (x, rest, started) := match real? arg with
        | some (x, rest) => (x, rest, true)
        | none => ({}, arg, false)
      let k := Format.Kept.double
      return (x, ← verify p arg rest started
        (started && (k.overflows x.magnitude || k.underflows x.magnitude)))

/-- A width or a precision: digits, or a star for an argument. -/
def size (cs : Octets) (p : Progress) : Sh (Option Int × Octets × Progress) := do
  match cs with
  | '*' :: rest =>
    let (n, p) ← integerArg true p
    return (some n, rest, p)
  | _ =>
    let digits := cs.takeWhile CharClass.isDigit
    let n : Option Int := if digits.isEmpty then none else some (ofDigits 10 digits : Nat)
    return (n, cs.drop digits.length, p)

/-- Carries out the conversion behind a percent sign. Answers with what is left of the format and
whether all printing is over. -/
def conversion (cs : Octets) (p : Progress) : Sh (Octets × Progress × Bool) := do
  let flags := cs.takeWhile fun c => c == '#' || c == '-' || c == '+' || c == ' ' || c == '0'
  let spec := flags.foldl Format.Spec.add {}
  let (width, rest, p) ← size (cs.drop flags.length) p
  let spec := match width with
    | some w => spec.withWidth w
    | none => spec
  let (spec, rest, p) ← match rest with
    | '.' :: more => do
      let (precision, rest, p) ← size more p
      pure (spec.withPrecision (precision.getD 0), rest, p)
    | _ => pure (spec, rest, p)
  match rest with
  | [] => Sh.fail (Octets.ofString "missing format character")
  | kind :: rest =>
    if kind == 'b' then
      let (arg, p) := textArg p
      let (text, ended) := unescaped arg
      Sh.put (Format.text spec text)
      return (rest, p, ended)
    else if kind == 'c' then
      let (arg, p) := textArg p
      Sh.put (Format.character spec (arg.headD '\x00'))
      return (rest, p, false)
    else if kind == 's' then
      let (arg, p) := textArg p
      Sh.put (Format.text spec arg)
      return (rest, p, false)
    else if kind == 'd' || kind == 'i' then
      let (n, p) ← integerArg true p
      Sh.put (Format.signed spec n)
      return (rest, p, false)
    else if "ouxX".toList.contains kind then
      let (n, p) ← integerArg false p
      Sh.put (Format.unsigned spec kind n.toNat)
      return (rest, p, false)
    else if "aAeEfFgG".toList.contains kind then
      let (x, p) ← realArg p
      Sh.put (Format.real .double spec kind x)
      return (rest, p, false)
    else
      let used := cs.take (cs.length - rest.length)
      Sh.failOn ('%' :: used) "invalid directive"

/-- Prints by a format once; answers with whether all printing is over. -/
def once (p : Progress) : (fuel : Nat) → Octets → Sh (Progress × Bool)
  | 0, _ => return (p, false)
  | _, [] => return (p, false)
  | fuel + 1, c :: cs => do
    match c, cs with
    | '\\', _ =>
      let (c, rest) := escape cs
      Sh.put [c]
      once p fuel rest
    | '%', '%' :: rest =>
      Sh.put ['%']
      once p fuel rest
    | '%', _ =>
      let (rest, p, ended) ← conversion cs p
      if ended then return (p, true) else once p fuel rest
    | _, _ =>
      Sh.put [c]
      once p fuel cs

/-- Prints by a format as long as arguments are left and it uses some. -/
def repeated (format : Octets) (p : Progress) : (fuel : Nat) → Sh Progress
  | 0 => return p
  | fuel + 1 => do
    let (after, ended) ← once p (format.length + 1) format
    if ended || after.args.isEmpty || after.args.length == p.args.length then return after
    else repeated format after fuel

/-- Prints by a format. -/
def printf (args : List Octets) : Sh Nat := do
  match args with
  | [] => Sh.fail (Octets.ofString "usage: printf format [arg ...]")
  | format :: args =>
    let p ← repeated format { args } (args.length + 1)
    return if p.failed then 1 else 0

end Tandem.Host.Shell.Printing
