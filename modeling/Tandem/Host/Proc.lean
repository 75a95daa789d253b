import Tandem.Host.System
import Tandem.Text.Octet

/-!
# A process at work

What a process is given by the one that starts it: its streams, the directory it works in, its
environment and its number. An `Act` is something it does to the system. It may come to its end at
any point, by its own will or by a signal.
-/

namespace Tandem.Host

/-- What a process is given. -/
structure Context where
  /-- The openings behind the numbers of its streams. -/
  streams : List (Nat × Nat)
  /-- The directory it works in. -/
  place : Place
  env : List (Octets × Octets) := []
  /-- The name under which it was called. -/
  called : Octets := []
  pid : Nat := 1
  parent : Nat := 1
  /-- Signals that do nothing to it. -/
  ignored : List Nat := []

/-- How a process comes to its end. -/
inductive Halt where
  | exit (code : Nat)
  | signal (number : Nat)
  deriving DecidableEq, Repr

/-- Something that a process does. -/
abbrev Act := ReaderT Context (ExceptT Halt (StateM System))

namespace Act

/-- Does what the process does, up to its end. Without an end of its own it exits with the code that
it answers with. -/
def run (act : Act Nat) (context : Context) (s : System) : Halt × System :=
  match ((ReaderT.run act context).run).run s with
  | (.ok code, s) => (.exit code, s)
  | (.error halt, s) => (halt, s)

/-- Ends the process. -/
def halt {α : Type} (h : Halt) : Act α :=
  throw h

/-- Uses the system. -/
def onSystem {α : Type} (f : System → α × System) : Act α :=
  modifyGet f

/-- The opening behind the number of a stream. -/
def stream? (number : Nat) : Act (Option Nat) := do
  return (← read).streams.lookup number

/-- How much is read at once. -/
def chunk : Nat := 131072

/-- How often something without a natural end is repeated before it is given up. -/
def patience : Nat := 1000000

/-- Reads from an opening. -/
def readSome (opening : Nat) (most : Nat) : Act (Except Errno ByteArray) :=
  onSystem (·.read opening most)

/-- Uses the bytes of an opening, part by part, to its end; answers with the error if one ends it
early. -/
def drain (opening : Nat) (use : ByteArray → Act Unit) : Nat → Act (Option Errno)
  | 0 => return none
  | n + 1 => do
    match ← readSome opening chunk with
    | .error e => return some e
    | .ok part =>
      if part.isEmpty then return none
      use part
      drain opening use n

/-- All bytes of an opening, and the error if one ended it early. -/
def gather (opening : Nat) (sofar : ByteArray) : Nat → Act (ByteArray × Option Errno)
  | 0 => return (sofar, none)
  | n + 1 => do
    match ← readSome opening chunk with
    | .error e => return (sofar, some e)
    | .ok part => if part.isEmpty then return (sofar, none) else gather opening (sofar ++ part) n

/-- At most so many bytes of an opening, and the error if one ended it early. -/
def gatherUpTo (opening most : Nat) (sofar : ByteArray) : Nat → Act (ByteArray × Option Errno)
  | 0 => return (sofar, none)
  | n + 1 => do
    if most ≤ sofar.size then return (sofar, none)
    match ← readSome opening (min chunk (most - sofar.size)) with
    | .error e => return (sofar, some e)
    | .ok part =>
      if part.isEmpty then return (sofar, none) else gatherUpTo opening most (sofar ++ part) n

/-- Writes to an opening. A signal ends the process unless it is ignored. -/
def writeTo (opening : Nat) (bs : ByteArray) : Act (Except Errno Unit) := do
  match ← onSystem (·.write opening bs) with
  | .done => return .ok ()
  | .refused e => return .error e
  | .stopped n =>
    if (← read).ignored.contains n then return .error .brokenPipe else halt (.signal n)

/-- Writes to a numbered stream. -/
def writeStream (number : Nat) (bs : ByteArray) : Act (Except Errno Unit) := do
  match ← stream? number with
  | some opening => writeTo opening bs
  | none => return .error .badStream

/-- Characters as bytes. -/
def bytes (cs : Octets) : ByteArray :=
  ⟨(Octets.toBytes cs).toArray⟩

/-- Writes to the standard error output, whatever becomes of it. -/
def complain (text : Octets) : Act Unit := do
  let _ ← writeStream 2 (bytes text)

/-- Opens a file. -/
def openPath (mode : Mode) (name : Octets) : Act (Except Errno Nat) := do
  let context ← read
  onSystem fun s =>
    match s.openFile context.place context.streams mode ⟨Octets.toBytes name⟩ with
    | .ok (id, s) => (.ok id, s)
    | .error fault => (.error (System.errnoOf fault), s)

/-- The name that stands for the standard input. -/
def standard : Octets := ['-']

/-- Opens a file for reading; `-` is the standard input. -/
def openInput (name : Octets) : Act (Except Errno Nat) := do
  if name = standard then
    match ← stream? 0 with
    | some opening => return .ok opening
    | none => return .error .badStream
  else openPath .read name

/-- What an opening gives access to. -/
def targetOf (opening : Nat) : Act Target := do
  return ((← get).opening opening).target

/-- Reading from the opening never comes to an end. -/
def isEndless (opening : Nat) : Act Bool := do
  let target ← targetOf opening
  return target == .device .zero || target == .device .full

end Act

end Tandem.Host
