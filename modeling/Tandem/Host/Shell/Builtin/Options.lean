import Tandem.Host.Shell.State

/-!
# Arguments of the shell's own commands

Options are letters behind a dash, joined or not, some of them with a value. They end at the first
argument that is none, or at `--`. Numbers are decimal and not negative.
-/

namespace Tandem.Host.Shell.Builtin

/-- An option that was given, and its value. -/
abbrev Given := Char × Octets

/-- Reads letters behind a dash. `known` lists the letters, those with a value followed by a colon.
-/
def letters (known : Octets) (args : List Octets) : Octets → Sh (List Given × List Octets)
  | [] => return ([], args)
  | c :: rest => do
    let tail := known.dropWhile (· != c)
    if c = ':' || tail.isEmpty then Sh.fail (Octets.ofString "Illegal option -" ++ [c])
    if tail.tail.head? == some ':' then
      if !rest.isEmpty then return ([(c, rest)], args)
      match args with
      | value :: args => return ([(c, value)], args)
      | [] => Sh.fail (Octets.ofString "No arg for -" ++ [c] ++ Octets.ofString " option")
    else
      let (more, args) ← letters known args rest
      return ((c, []) :: more, args)

/-- Reads options, so many arguments at most. -/
def optionsWithin (known : Octets) (args : List Octets) : Nat → Sh (List Given × List Octets)
  | 0 => return ([], args)
  | n + 1 => do
    match args with
    | ['-', '-'] :: rest => return ([], rest)
    | ('-' :: c :: cs) :: rest =>
      let (front, rest) ← letters known rest (c :: cs)
      let (more, rest) ← optionsWithin known rest n
      return (front ++ more, rest)
    | _ => return ([], args)

/-- The options and the arguments after them. -/
def options (known : String) (args : List Octets) : Sh (List Given × List Octets) :=
  optionsWithin known.toList args (args.length + 1)

/-- Complains about an argument that is no number. -/
def badNumber {α : Type} (arg : Octets) : Sh α :=
  Sh.fail (Octets.ofString "Illegal number: " ++ arg)

/-- The greatest number that an argument can be. -/
def greatest : Nat := 0x7FFFFFFF

/-- An argument as a number. -/
def number (arg : Octets) : Sh Nat := do
  match Octets.number? arg with
  | some n => if n ≤ greatest then return n else badNumber arg
  | none => badNumber arg

/-- Text between quotes, such that a shell reads it back. -/
def quoted (cs : Octets) : Octets :=
  if cs.isEmpty then ['\'', '\'']
  else (cs.splitBy fun a b => (a == '\'') == (b == '\'')).flatMap fun run =>
    if run.contains '\'' then ['"'] ++ run ++ ['"'] else ['\''] ++ run ++ ['\'']

/-- Texts in ascending order. -/
def sorted {α : Type} (key : α → Octets) (xs : List α) : List α :=
  xs.mergeSort fun a b => !decide (key b < key a)

end Tandem.Host.Shell.Builtin
