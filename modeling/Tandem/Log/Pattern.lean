import Tandem.Text.CharSet

/-!
# Patterns for the values of fields

A pattern is a regular expression. It is held against the beginning of a text, and of all the ways
in which it fits there the *first* one counts: the one that is met first when alternatives are tried
from left to right and repetitions as often as they can be, or as seldom if they are marked so. A
value is accepted if that one fit ends where the value ends (`Pattern.accepts`).

All ways are followed side by side. What is left of the pattern along one way is a *thread*, and the
threads stand in order of preference. A thread that is done makes all threads behind it void, and
two threads with the same rest are one. A round of a repetition that fits without reading anything
is not made twice, which decides what a repetition of something that may be empty prefers.
-/

namespace Tandem

namespace Pattern

/-- A condition on a place between two characters. -/
inductive Spot where
  /-- The start of the text. -/
  | start
  /-- The end of the text. -/
  | finish
  /-- The start of a line, where lines may end in a carriage return as well or may not. -/
  | lineStart (returns : Bool)
  /-- The end of a line. -/
  | lineEnd (returns : Bool)
  /-- A word starts or ends, or neither. -/
  | edge (negated : Bool)
  | wordStart
  | wordEnd
  deriving DecidableEq, Repr

/-- A place in a text: the characters before and after it. -/
structure Place where
  before : Option Char
  after : Option Char
  deriving DecidableEq, Repr

/-- The characters of words. -/
def wordChars : CharSet :=
  ⟨[(0x30, 0x39), (0x41, 0x5A), (0x5F, 0x5F), (0x61, 0x7A)]⟩

/-- The condition holds at a place. Between a carriage return and a line feed no line ends. -/
def Spot.holds (p : Place) : Spot → Bool
  | .start => p.before.isNone
  | .finish => p.after.isNone
  | .lineStart false => p.before.all (· == '\n')
  | .lineStart true =>
    p.before.all fun c => c == '\n' || (c == '\r' && p.after != some '\n')
  | .lineEnd false => p.after.all (· == '\n')
  | .lineEnd true =>
    p.after.all fun c => c == '\r' || (c == '\n' && p.before != some '\r')
  | .edge negated => (p.before.any wordChars.contains != p.after.any wordChars.contains) != negated
  | .wordStart => !p.before.any wordChars.contains && p.after.any wordChars.contains
  | .wordEnd => p.before.any wordChars.contains && !p.after.any wordChars.contains

end Pattern

/-- A regular expression. -/
inductive Pattern where
  | empty
  /-- One character of a set. -/
  | one (set : CharSet)
  | spot (spot : Pattern.Spot)
  | seq (first second : Pattern)
  /-- Of two alternatives the first is preferred. -/
  | alt (first second : Pattern)
  /-- Once or more often, preferably often or preferably seldom. -/
  | many (body : Pattern) (greedy : Bool)
  /-- What is left of `many` after a round. -/
  | again (body : Pattern) (greedy : Bool)
  deriving DecidableEq, Repr

namespace Pattern

/-- The pattern or nothing, the one or the other preferred. -/
def optional (body : Pattern) (greedy : Bool) : Pattern :=
  if greedy then .alt body .empty else .alt .empty body

/-- Any number of times. -/
def star (body : Pattern) (greedy : Bool) : Pattern :=
  optional (.many body greedy) greedy

/-- One pattern after the other. -/
def sequence : List Pattern → Pattern
  | [] => .empty
  | [p] => p
  | p :: ps => .seq p (sequence ps)

/-- One of some patterns. If each is a set, so is the whole. -/
def anyOf (ps : List Pattern) : Pattern :=
  let set? : Pattern → Option CharSet
    | .one s => some s
    | _ => none
  match ps.mapM set? with
  | some sets => .one (sets.foldl CharSet.union .empty)
  | none => choice ps
where
  /-- Alternatives in order. -/
  choice : List Pattern → Pattern
    | [] => .empty
    | [p] => p
    | p :: ps => .alt p (choice ps)

/-- The number of pieces of the pattern. -/
def size : Pattern → Nat
  | .empty | .one _ | .spot _ => 1
  | .seq p q | .alt p q => p.size + q.size + 1
  | .many p _ | .again p _ => p.size + 1

/-- What is left of a pattern along one way: pieces that have to fit one after the other. -/
abbrev Thread := List Pattern

namespace Thread

/-- What a thread becomes at a place without reading anything, in order of preference; nothing if
it is done or waits for a character. -/
def becomes? (p : Place) : Thread → Option (List Thread)
  | [] | .one _ :: _ => none
  | .empty :: k => some [k]
  | .spot s :: k => some (if s.holds p then [k] else [])
  | .seq first second :: k => some [first :: second :: k]
  | .alt first second :: k => some [first :: k, second :: k]
  | .many body greedy :: k => some [body :: .again body greedy :: k]
  | .again body greedy :: k =>
    let further := body :: .again body greedy :: k
    some (if greedy then [further, k] else [k, further])

/-- The thread waits for a character that may come. -/
def isWaiting : Thread → Bool
  | .one s :: _ => !s.isEmpty
  | _ => false

/-- The thread waits for a character that is in no set. It makes the threads behind it void. -/
def isStuck : Thread → Bool
  | .one s :: _ => s.isEmpty
  | _ => false

/-- What a thread becomes by reading a character. -/
def read? (c : Char) : Thread → Option Thread
  | .one s :: k => if s.contains c then some k else none
  | _ => none

end Thread

/-- The threads that are done or waiting, once all of `todo` have become what they can at a place.
A thread that was `seen` is not followed again. -/
def settle (p : Place) (fuel : Nat) (todo seen found : List Thread) : List Thread :=
  match fuel, todo with
  | 0, _ | _, [] => found.reverse
  | fuel + 1, t :: todo =>
    if seen.contains t then settle p fuel todo seen found
    else match t.becomes? p with
      | some further => settle p fuel (further ++ todo) (t :: seen) found
      | none => settle p fuel todo (t :: seen) (t :: found)

/-- The first fit of some threads ends where the text ends. -/
def fitsAll (fuel : Nat) (before : Option Char) (threads : List Thread) : List Char → Bool
  | [] => ((settle ⟨before, none⟩ fuel threads [] []).takeWhile (!·.isStuck)).contains []
  | c :: rest =>
    let standing := (settle ⟨before, some c⟩ fuel threads [] []).takeWhile Thread.isWaiting
    fitsAll fuel (some c) (standing.filterMap (Thread.read? c)) rest

/-- Twice the size of a pattern bounds the number of its threads, each of which becomes at most two
others. -/
def steps (pattern : Pattern) : Nat :=
  6 * pattern.size + 6

/-- The first fit of the pattern ends where the value ends. -/
def accepts (pattern : Pattern) (value : String) : Bool :=
  fitsAll pattern.steps none [[pattern]] value.toList

end Pattern

end Tandem
