import Tandem.Text.Octet

/-!
# Names in messages

The tools show the names of files so that they could be typed at a shell: in quotes if anything in
them is special there, and with characters that cannot be printed spelled out. Other arguments are
shown in quotes with their special characters spelled out behind a backslash.
-/

namespace Tandem.Host.Quote

/-- A printable character of ASCII. -/
def isPrintable (c : Char) : Bool :=
  ' ' ≤ c && c ≤ '~'

/-- A character that is special to a shell wherever it stands. -/
def isSpecial (c : Char) : Bool :=
  " !\"$&()*;<=>[^|?\\'".toList.contains c || c == Char.ofNat 0x60

/-- The name has to be quoted. -/
def needsQuotes (name : Octets) : Bool :=
  match name with
  | [] => true
  | ['{'] | ['}'] => true
  | c :: _ => c == '#' || c == '~' || name.any fun d => isSpecial d || !isPrintable d

/-- A character by its escape. -/
def escaped (c : Char) : Octets :=
  let letters : List (Nat × Char) :=
    [(7, 'a'), (8, 'b'), (9, 't'), (10, 'n'), (11, 'v'), (12, 'f'), (13, 'r')]
  match letters.lookup c.toNat with
  | some letter => ['\\', letter]
  | none =>
    let digits := Nat.toDigits 8 c.toNat
    '\\' :: (List.replicate (3 - digits.length) '0' ++ digits)

/-- The inside of the quotes; `escaping` says that the characters before were spelled out. -/
def inside (escaping : Bool) : Octets → Octets
  | [] => if escaping then ['\''] else []
  | c :: cs =>
    if isPrintable c then
      (if escaping then ['\'', '\''] else []) ++ (if c = '\'' then "'\\''".toList else [c]) ++
        inside false cs
    else (if escaping then [] else "'$'".toList) ++ escaped c ++ inside true cs

/-- The name in quotes. A single quote in it makes them double if nothing else is in the way. -/
def always (name : Octets) : Octets :=
  let inDoubles (c : Char) : Bool :=
    isPrintable c && c != '"' && c != '$' && c != '\\' && c != '!' && c != Char.ofNat 0x60
  if name.contains '\'' && name.all inDoubles then '"' :: name ++ ['"']
  else
    let text := inside false name
    let spelled := match name.getLast? with
      | some c => !isPrintable c
      | none => false
    '\'' :: text ++ (if spelled then [] else ['\''])

/-- The argument in quotes, with what cannot be printed, backslashes and quotes spelled out. -/
def spelled (arg : Octets) : Octets :=
  let shown (c : Char) : Octets :=
    if c == '\\' || c == '\'' then ['\\', c] else if isPrintable c then [c] else escaped c
  '\'' :: arg.flatMap shown ++ ['\'']

/-- The name, in quotes if it needs them. -/
def ifNeeded (name : Octets) : Octets :=
  if needsQuotes name then always name else name

end Tandem.Host.Quote
