import Tandem.Host.Proc
import Tandem.Host.Tool.Quote
import Tandem.Text.CharClass

/-!
# Options of the tools

The tools read their arguments alike. Options may stand anywhere before `--`; short ones are letters
that can be joined, long ones are words that can be shortened as long as they stay unique. An option
may take a value, attached to it or as the next argument.
-/

namespace Tandem.Host

/-- Whether an option takes a value. -/
inductive Arity where
  | none
  | required
  | optional
  deriving DecidableEq, Repr

/-- A tool as its user sees it: the code it exits with when it is called wrongly, and its options.
A long option is another name for a letter, or for a word of its own. -/
structure Usage where
  trouble : Nat := 1
  short : List (Char × Arity) := []
  long : List (String × Arity × String) := []
  /-- The line that says where to look further starts with the name of the tool, too. -/
  helpNamed : Bool := false

/-- An option that was given, by its letter or word, with its value. -/
structure Choice where
  key : String
  value : Octets := []
  deriving DecidableEq, Repr

namespace Usage

/-- Says something about the tool's own business. -/
def warn (_ : Usage) (text : Octets) : Act Unit := do
  Act.complain ((← read).called ++ [':', ' '] ++ text ++ ['\n'])

/-- Says what went wrong with a file. -/
def warnOf (u : Usage) (name : Octets) (e : Errno) : Act Unit :=
  u.warn (Quote.ifNeeded name ++ Octets.ofString ": " ++ Octets.ofString e.text)

/-- Ends the tool with a complaint. -/
def fail {α : Type} (u : Usage) (text : Octets) : Act α := do
  u.warn text
  Act.halt (.exit u.trouble)

/-- Ends the tool, saying where to look further. -/
def endWithHelp {α : Type} (u : Usage) : Act α := do
  let called := (← read).called
  let text := Octets.ofString "Try '" ++ called ++
    Octets.ofString " --help' for more information."
  if u.helpNamed then u.warn text else Act.complain (text ++ ['\n'])
  Act.halt (.exit u.trouble)

/-- Ends the tool with a complaint about how it was called. -/
def misuse {α : Type} (u : Usage) (text : Octets) : Act α := do
  u.warn text
  u.endWithHelp

/-- The words that a text may stand for: the one that it is, or all that start with it. -/
def spelledBy {α : Type} (words : List (String × α)) (text : Octets) : List (String × α) :=
  match words.filter fun entry => entry.1.toList = text with
  | [] => words.filter fun entry => text.isPrefixOf entry.1.toList
  | exact => exact

/-- What the value of an option stands for, which is one of some words or the start of one. Words
for the same follow one another, and are listed together. -/
def wordOf {α : Type} [BEq α] (u : Usage) (option : String) (words : List (String × α))
    (value : Octets) : Act α := do
  let text := Octets.ofString
  let quoted (cs : Octets) : Octets := ['\''] ++ cs ++ ['\'']
  match spelledBy words value with
  | (name, a) :: more =>
    if more.all (·.2 == a) || name.toList = value then return a else pure ()
  | [] => pure ()
  let kind := if (spelledBy words value).isEmpty then "invalid" else "ambiguous"
  u.warn (text (kind ++ " argument ") ++ quoted value ++ text " for " ++
    quoted (text ("--" ++ option)))
  let listed := (words.splitBy (·.2 == ·.2)).flatMap fun group =>
    text "\n  - " ++ List.intercalate (text ", ") (group.map fun entry => quoted entry.1.toList)
  Act.complain (text "Valid arguments are:" ++ listed ++ ['\n'])
  { u with trouble := 1 }.endWithHelp

/-- The long options that a word may stand for: the one with that very name, or all that start with
it. -/
def candidates (u : Usage) (word : Octets) : List (String × Arity × String) :=
  spelledBy u.long word

/-- All candidates mean the same option. -/
def agree : List (String × Arity × String) → Bool
  | [] => false
  | first :: rest => rest.all (·.2 == first.2)

/-- Reads a long option, given without its dashes, and the arguments after it. -/
def readLong (u : Usage) (arg : Octets) (rest : List Octets) : Act (Choice × List Octets) := do
  let word := arg.takeWhile (· != '=')
  let attached := match arg.drop word.length with
    | [] => none
    | _ :: value => some value
  let shown := Octets.ofString "option '--" ++ word ++ ['\'']
  match u.candidates word with
  | [] => u.misuse (Octets.ofString "unrecognized option '--" ++ arg ++ ['\''])
  | all@((name, arity, key) :: _) =>
    if !agree all then
      u.misuse (shown ++ Octets.ofString " is ambiguous; possibilities:" ++
        all.flatMap fun entry => Octets.ofString " '--" ++ entry.1.toList ++ ['\''])
    else
      let full := Octets.ofString "option '--" ++ Octets.ofString name ++ ['\'']
      match arity, attached, rest with
      | .none, some _, _ => u.misuse (full ++ Octets.ofString " doesn't allow an argument")
      | .none, none, rest => return ({ key }, rest)
      | .optional, value, rest => return ({ key, value := value.getD [] }, rest)
      | .required, some value, rest => return ({ key, value }, rest)
      | .required, none, value :: rest => return ({ key, value }, rest)
      | .required, none, [] => u.misuse (full ++ Octets.ofString " requires an argument")

/-- Reads a group of short options, and the arguments after it. -/
def readShort (u : Usage) (rest : List Octets) : Octets → Act (List Choice × List Octets)
  | [] => return ([], rest)
  | c :: cs => do
    let key := String.ofList [c]
    match u.short.lookup c, cs, rest with
    | none, _, _ =>
      u.misuse (Octets.ofString "invalid option -- '" ++ [c] ++ ['\''])
    | some .none, cs, rest =>
      let (choices, rest) ← u.readShort rest cs
      return ({ key } :: choices, rest)
    | some .required, [], value :: rest => return ([{ key, value }], rest)
    | some .required, [], [] =>
      u.misuse (Octets.ofString "option requires an argument -- '" ++ [c] ++ ['\''])
    | some _, value, rest => return ([{ key, value }], rest)

/-- Reads arguments, of which at most `n` are looked at: the options, in order, and the rest. -/
def readArgs (u : Usage) : (n : Nat) → List Octets → Act (List Choice × List Octets)
  | 0, args => return ([], args)
  | _, [] => return ([], [])
  | n + 1, arg :: rest => do
    match arg with
    | ['-', '-'] => return ([], rest)
    | '-' :: '-' :: word =>
      let (choice, rest) ← u.readLong word rest
      let (choices, operands) ← u.readArgs n rest
      return (choice :: choices, operands)
    | '-' :: c :: cs =>
      let (first, rest) ← u.readShort rest (c :: cs)
      let (choices, operands) ← u.readArgs n rest
      return (first ++ choices, operands)
    | operand =>
      let (choices, operands) ← u.readArgs n rest
      return (choices, operand :: operands)

/-- The options that were given, in order, and the other arguments. -/
def parse (u : Usage) (args : List Octets) : Act (List Choice × List Octets) :=
  u.readArgs args.length args

/-- Writes output; what fails is left to the tool. -/
def flushOr (_ : Usage) (output : ByteArray) (failed : Errno → Act Unit) : Act Unit := do
  if !output.isEmpty then
    match ← Act.writeStream 1 output with
    | .ok () => return
    | .error e => failed e

/-- Writes output; a failure ends the tool. -/
def flush (u : Usage) (output : ByteArray) : Act Unit :=
  u.flushOr output fun e => u.fail (Octets.ofString "write error: " ++ Octets.ofString e.text)

/-- The standard input is among the files to be read, and closed. -/
def lacksInput (_ : Usage) (names : List Octets) : Act Bool := do
  return names.contains Act.standard && (← Act.stream? 0).isNone

/-- How much output is held back before it is written. -/
def held : Nat := 4096

/-- Adds to output that is held back, and writes it once there is enough of it. -/
def hold (u : Usage) (output more : ByteArray) : Act ByteArray := do
  let output := output ++ more
  if held ≤ output.size then
    u.flush output
    return .empty
  else return output

end Usage

/-- One of the options was given. -/
def Choice.given (choices : List Choice) (key : String) : Bool :=
  choices.any (·.key == key)

end Tandem.Host
