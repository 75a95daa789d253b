import Tandem.Text.Octet

/-!
# Scripts

What a shell script is made of once it is read: words with their expansions, redirections, and
commands joined by operators and control structures.
-/

namespace Tandem.Host.Shell

/-- What is done with the value of a parameter. An operation with `orEmpty` treats an empty value
like none. -/
inductive Operation where
  | plain
  | length
  /-- The word stands in for a missing value. -/
  | instead (orEmpty : Bool)
  /-- The word stands in for a missing value and is kept as its value. -/
  | assign (orEmpty : Bool)
  /-- A missing value is an error, of which the word tells. -/
  | demand (orEmpty : Bool)
  /-- The word stands in for a value that is there. -/
  | other (orEmpty : Bool)
  /-- The word is a pattern that is cut off at the front. -/
  | trimFront (longest : Bool)
  /-- The word is a pattern that is cut off at the end. -/
  | trimEnd (longest : Bool)
  /-- Nothing that could be done. -/
  | bad
  deriving DecidableEq, Repr

/-- What a redirection does with a stream. -/
inductive Direction where
  | read
  | write
  /-- Writes although files are protected. -/
  | clobber
  | append
  | update
  /-- Makes the stream another name of the one that the word numbers, or closes it. -/
  | copy
  /-- Reads from a text in the script, known by a number. -/
  | here (document : Nat)
  deriving DecidableEq, Repr

mutual

/-- A part of a word. What a quoted part expands to is never cut into fields. -/
inductive Part where
  /-- Characters as they stand. -/
  | text (cs : Octets) (quoted : Bool)
  /-- The value of a variable or a parameter. -/
  | value (name : Octets) (operation : Operation) (word : List Part) (quoted : Bool)
  /-- What a script prints. -/
  | output (script : Script) (quoted : Bool)
  /-- The value of an arithmetic expression. -/
  | arithmetic (word : List Part) (quoted : Bool)

/-- A redirection of the stream with a number. -/
inductive Redirect where
  | mk (stream : Nat) (direction : Direction) (target : List Part)

/-- A script. Commands know the number of their line. -/
inductive Script where
  | nothing
  /-- A command with the assignments in front of it. -/
  | simple (line : Nat) (assignments : List (Octets × List Part)) (words : List (List Part))
    (redirects : List Redirect)
  /-- The output of each is the input of the next. -/
  | pipe (commands : List Script)
  /-- One after the other. -/
  | seq (first second : Script)
  /-- The second only if the first succeeds. -/
  | both (first second : Script)
  /-- The second only if the first fails. -/
  | either (first second : Script)
  /-- Success and failure traded. -/
  | negated (body : Script)
  /-- A script that nobody waits for. -/
  | background (body : Script)
  | redirected (line : Nat) (body : Script) (redirects : List Redirect)
  /-- A script in a shell of its own. -/
  | nested (line : Nat) (body : Script) (redirects : List Redirect)
  | branch (test yes no : Script)
  /-- Repeats the body as long as the test succeeds, or as long as it fails. -/
  | loop (untilTrue : Bool) (test body : Script)
  /-- Repeats the body for each field of the words. -/
  | each (line : Nat) (name : Octets) (words : List (List Part)) (body : Script)
  /-- The body behind the first pattern that the word matches. -/
  | choose (line : Nat) (subject : List Part) (arms : List (List (List Part) × Script))
  /-- Gives a name to a script. -/
  | define (name : Octets) (body : Script)

end

/-- A word before expansion. -/
abbrev Word := List Part

/-- The characters of a word that has no quotes and no expansions. -/
def Word.plain? : Word → Option Octets
  | [.text cs false] => some cs
  | _ => none

/-- A letter or an underscore. -/
def isNameStart (c : Char) : Bool :=
  c.isAlpha || c == '_'

/-- A character of a variable's name. -/
def isNameChar (c : Char) : Bool :=
  c.isAlphanum || c == '_'

/-- The characters are the name of a variable. -/
def isName : Octets → Bool
  | [] => false
  | c :: cs => isNameStart c && cs.all isNameChar

/-- The name in front of an equals sign and what follows it, if the text is an assignment. -/
def assignment? (cs : Octets) : Option (Octets × Octets) :=
  let name := cs.takeWhile (· != '=')
  match cs.drop name.length with
  | _ :: value => if isName name then some (name, value) else none
  | [] => none

/-- The name and the value of a word that is an assignment. -/
def Word.assignment? : Word → Option (Octets × Word)
  | .text cs false :: rest => (Shell.assignment? cs).map fun (name, value) =>
      (name, if value.isEmpty then rest else .text value false :: rest)
  | _ => none

end Tandem.Host.Shell
