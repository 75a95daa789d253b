import Tandem.Host.Tool.Options
import Tandem.Number.Format

/-!
# Printing by a format

`printf` prints its arguments by a format, which is used again as long as arguments are left. An
argument that is no number counts as far as it is one, and is complained about.
-/

namespace Tandem.Host.Tool.Printf

open Number

/-- How `printf` is called. -/
def usage : Usage := {}

/-- Where the printing stands: the arguments that are left, the output, latest first, and whether
something was complained about. -/
structure Progress where
  args : List Octets
  out : Octets := []
  failed : Bool := false
  /-- All printing is over. -/
  ended : Bool := false

/-- Adds to the output. -/
def Progress.put (p : Progress) (cs : Octets) : Progress :=
  { p with out := cs.reverse ++ p.out }

/-- Complains about an argument. -/
def object (p : Progress) (arg : Octets) (what : String) : Act Progress := do
  usage.warn (Quote.spelled arg ++ Octets.ofString ": " ++ Octets.ofString what)
  return { p with failed := true }

/-- Complains about what a number leaves over. -/
def verify (p : Progress) (arg rest : Octets) (started tooBig : Bool) : Act Progress :=
  if tooBig then object p arg Errno.outOfRange.text
  else if rest.isEmpty then return p
  else if started then object p arg "value not completely converted"
  else object p arg "expected a numeric value"

/-- The code of a quoted character, if the argument is one. -/
def quoted? : Octets → Option (Nat × Octets)
  | '"' :: c :: rest | '\'' :: c :: rest => some (c.toNat, rest)
  | _ => none

/-- Complains about what follows a quoted character. -/
def verifyQuoted (rest : Octets) : Act Unit :=
  if rest.isEmpty then return
  else usage.warn (Octets.ofString "warning: " ++ rest ++
    Octets.ofString ": character(s) following character constant have been ignored")

/-- An argument as a whole number between two bounds. -/
def integerArg (low high : Int) (wrap : Bool) (p : Progress) : Act (Int × Progress) := do
  match p.args with
  | [] => return (0, p)
  | arg :: args =>
    let p := { p with args }
    match quoted? arg with
    | some (n, rest) =>
      verifyQuoted rest
      return (n, p)
    | none =>
      let (n, rest, started) := match integer? arg with
        | some (n, rest) => (n, rest, true)
        | none => (0, arg, false)
      let (value, tooBig) : Int × Bool :=
        if wrap then
          if high < n.natAbs then (high, true) else (if n < 0 then high + 1 + n else n, false)
        else (max low (min high n), n < low || high < n)
      return (value, ← verify p arg rest started tooBig)

/-- An argument as a whole number with a sign. -/
def signedArg : Progress → Act (Int × Progress) :=
  integerArg leastSigned greatestSigned false

/-- An argument as a whole number without a sign, negative ones counted from the top. -/
def unsignedArg (p : Progress) : Act (Nat × Progress) := do
  let (n, p) ← integerArg 0 greatestUnsigned true p
  return (n.toNat, p)

/-- An argument as a real number. -/
def realArg (p : Progress) : Act (Numeral × Progress) := do
  match p.args with
  | [] => return ({}, p)
  | arg :: args =>
    let p := { p with args }
    match quoted? arg with
    | some (n, rest) =>
      verifyQuoted rest
      return ({ magnitude := .finite n 1 }, p)
    | none =>
      let (x, rest, started) := match real? arg with
        | some (x, rest) => (x, rest, true)
        | none => ({}, arg, false)
      let k := Format.Kept.extended
      return (x, ← verify p arg rest started
        (started && (k.overflows x.magnitude || k.underflows x.magnitude)))

/-- An argument as a text. -/
def textArg (p : Progress) : Octets × Progress :=
  (p.args.headD [], { p with args := p.args.tail })

/-- The characters behind a backslash and a letter. -/
def named : List (Char × Nat) :=
  [('"', 34), ('\\', 92), ('a', 7), ('b', 8), ('e', 27), ('f', 12), ('n', 10), ('r', 13), ('t', 9),
    ('v', 11)]

/-- What stands for a character by its number: itself in ASCII, and its number elsewhere. -/
def byNumber (n : Nat) : Octets :=
  if n < 128 then [Char.ofNat n]
  else
    let digits := (Nat.toDigits 16 n).map Char.toUpper
    let width := if n < 65536 then 4 else 8
    ['\\', if n < 65536 then 'u' else 'U'] ++ List.replicate (width - digits.length) '0' ++ digits

/-- The escape behind a backslash: what it prints, whether it ends all printing, and what is left.
`zero` says that octal numbers may start with one more zero. -/
def escape (zero : Bool) (cs : Octets) : Octets × Bool × Octets :=
  match cs with
  | [] => (['\\'], false, [])
  | c :: rest =>
    match named.lookup c with
    | some n => ([Char.ofNat n], false, rest)
    | none =>
      let octal (cs : Octets) : Octets × Bool × Octets :=
        let digits := (cs.take 3).takeWhile (isDigitOf 8)
        ([Char.ofNat (ofDigits 8 digits % 256)], false, cs.drop digits.length)
      if c = 'c' then ([], true, [])
      else if c = 'x' && rest.head?.any (isDigitOf 16) then
        let digits := (rest.take 2).takeWhile (isDigitOf 16)
        ([Char.ofNat (ofDigits 16 digits)], false, rest.drop digits.length)
      else if (c = 'u' || c = 'U') && rest.head?.any (isDigitOf 16) then
        let digits := rest.take (if c = 'u' then 4 else 8)
        (byNumber (ofDigits 16 digits), false, rest.drop digits.length)
      else if isDigitOf 8 c then octal (if zero && c = '0' then rest else cs)
      else (['\\', c], false, rest)

/-- A text with its escapes replaced, and whether one of them ends all printing. -/
def unescape : (fuel : Nat) → Octets → Octets × Bool
  | 0, cs => (cs, false)
  | _, [] => ([], false)
  | fuel + 1, '\\' :: cs =>
    let (piece, ended, rest) := escape true cs
    if ended then (piece, true)
    else
      let (more, ended) := unescape fuel rest
      (piece ++ more, ended)
  | fuel + 1, c :: cs =>
    let (more, ended) := unescape fuel cs
    (c :: more, ended)

/-- The conversions that the flags still allow. -/
def allowed (flags : Octets) (precision : Bool) : Octets :=
  let drop (on : Bool) (letters : String) (cs : Octets) : Octets :=
    if on then cs.filter (!letters.toList.contains ·) else cs
  "aAcdeEfFgGiosuxX".toList |> drop (flags.contains '0') "cs" |> drop (flags.contains '#') "cdisu"
    |> drop (flags.contains '\'') "aAceEosxX" |> drop precision "c"

/-- A width or a precision: digits, or a star that takes an argument. -/
def amount (p : Progress) (cs : Octets) : Act (Option Int × Progress × Octets) := do
  match cs with
  | '*' :: rest =>
    let (n, p) ← signedArg p
    return (some n, p, rest)
  | _ =>
    let digits := cs.takeWhile CharClass.isDigit
    return (if digits.isEmpty then none else some (ofDigits 10 digits), p, cs.drop digits.length)

/-- Prints one argument by the letter of a conversion. -/
def convert (s : Format.Spec) (kind : Char) (p : Progress) : Act Progress := do
  match kind with
  | 'd' | 'i' =>
    let (n, p) ← signedArg p
    return p.put (Format.signed s n)
  | 'o' | 'u' | 'x' | 'X' =>
    let (n, p) ← unsignedArg p
    return p.put (Format.unsigned s kind n)
  | 'c' =>
    let (arg, p) := textArg p
    return p.put (Format.character s (arg.headD (Char.ofNat 0)))
  | 's' =>
    let (arg, p) := textArg p
    return p.put (Format.text s arg)
  | _ =>
    let (x, p) ← realArg p
    return p.put (Format.real .extended s kind x)

/-- Reads one conversion, given without its percent sign, and prints its argument. -/
def conversion (cs : Octets) (p : Progress) : Act (Progress × Octets) := do
  match cs with
  | '%' :: rest => return (p.put ['%'], rest)
  | 'b' :: rest =>
    let (arg, p) := textArg p
    let (text, ended) := unescape arg.length arg
    return ({ p.put text with ended }, rest)
  | 'q' :: rest =>
    let (arg, p) := textArg p
    return (p.put (Quote.ifNeeded arg), rest)
  | _ =>
    let flags := cs.takeWhile fun c => "-+ #0'I".toList.contains c
    let s : Format.Spec := flags.foldl Format.Spec.add {}
    let (width, p, rest) ← amount p (cs.drop flags.length)
    let s := match width with
      | some w => s.withWidth w
      | none => s
    let (s, dotted, p, rest) ← match rest with
      | '.' :: rest => do
        let (precision, p, rest) ← amount p rest
        pure (s.withPrecision (precision.getD 0), true, p, rest)
      | _ => pure (s, false, p, rest)
    let rest := rest.dropWhile fun c => "hlLjtz".toList.contains c
    let refuse (shown : Octets) : Act (Progress × Octets) := do
      usage.warn ('%' :: shown ++ Octets.ofString ": invalid conversion specification")
      return ({ p with failed := true, ended := true }, [])
    match rest with
    | kind :: rest =>
      if (allowed flags dotted).contains kind then return (← convert s kind p, rest)
      else refuse (cs.take (cs.length - rest.length))
    | [] => refuse cs

/-- Goes through a format once. -/
def pass : (fuel : Nat) → Octets → Progress → Act Progress
  | 0, _, p => return p
  | _, [], p => return p
  | fuel + 1, '\\' :: cs, p => do
    let (piece, ended, rest) := escape false cs
    if ended then return { p.put piece with ended }
    pass fuel rest (p.put piece)
  | fuel + 1, '%' :: cs, p => do
    let (p, rest) ← conversion cs p
    if p.ended then return p
    pass fuel rest p
  | fuel + 1, c :: cs, p => pass fuel cs (p.put [c])

/-- Goes through a format as long as arguments are left and it takes some. -/
def passes (format : Octets) : (rounds : Nat) → Progress → Act Progress
  | 0, p => return p
  | rounds + 1, p => do
    let q ← pass (format.length + 1) format p
    if q.ended || q.args.isEmpty then return q
    else if q.args.length = p.args.length then
      usage.warn (Octets.ofString "warning: ignoring excess arguments, starting with " ++
        Quote.spelled (q.args.headD []))
      return q
    else passes format rounds q

/-- Prints by a format; what was printed before a mistake in the format is printed all the same. -/
def run (args : List Octets) : Act Nat := do
  let args := match args with
    | ['-', '-'] :: rest => rest
    | _ => args
  match args with
  | [] => usage.misuse (Octets.ofString "missing operand")
  | format :: args =>
    let p ← passes format (args.length + 1) { args }
    usage.flush (Act.bytes p.out.reverse)
    return if p.failed then 1 else 0

end Tandem.Host.Tool.Printf
