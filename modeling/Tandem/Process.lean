import Tandem.Log.Note
import Tandem.Report

/-!
# Running a program between two files

A program reads one file and writes another. What is asked of the operating system is a `Platform`,
whose answers may be anything; `Platform.run` turns them into one number. Zero means that the input
was opened, the output was created by this very run, and the program started and exited with zero.
Failures before the program starts have numbers of their own, and a program that a signal ended
counts as 128 and the number of the signal.
-/

namespace Tandem

/-- The word in which the operating system says how a process ended. -/
structure WaitStatus where
  raw : UInt32
  deriving DecidableEq, Repr

namespace WaitStatus

/-- The status of a process that exited with a code, of which the low eight bits count. -/
def exited (code : Nat) : WaitStatus :=
  ⟨(code % 256).toUInt32 <<< 8⟩

/-- The status of a process that a signal ended. -/
def signalled (signal : Nat) : WaitStatus :=
  ⟨(signal % 127).toUInt32⟩

/-- The low bits, zero for a process that exited. -/
def low (s : WaitStatus) : Nat :=
  (s.raw &&& 0x7F).toNat

/-- The exit code, if the process exited. -/
def exitCode? (s : WaitStatus) : Option Nat :=
  if s.low = 0 then some ((s.raw >>> 8) &&& 0xFF).toNat else none

/-- The signal, if one ended the process. -/
def signal? (s : WaitStatus) : Option Nat :=
  if s.low = 0 || s.low = 0x7F then none else some s.low

end WaitStatus

namespace RunStatus

/-- The input could not be opened, or the output not created. -/
def redirectFailure : RunStatus := ⟨1⟩

/-- The program exists and could not be started. -/
def notExecutable : RunStatus := ⟨126⟩

/-- The program does not exist. -/
def notFound : RunStatus := ⟨127⟩

/-- The number for a process that was started. -/
def ofWait (s : WaitStatus) : RunStatus :=
  match s.exitCode?, s.signal? with
  | some code, _ => ⟨code⟩
  | none, some signal => ⟨128 + signal⟩
  | none, none => notExecutable

/-- The number for a process that was not started. -/
def ofStartFault (fault : Fault) : RunStatus :=
  if fault.isMissing then notFound else notExecutable

end RunStatus

/-- What running a program asks of its surroundings, over states `σ` and open files `η`. -/
structure Platform (σ η : Type) where
  /-- Tells whether a path is a directory. -/
  isDir : Path → StateM σ (Except Fault Bool)
  /-- Opens a file for reading. -/
  openInput : Path → StateM σ (Except Fault η)
  /-- Creates a file, or empties the one that is there. -/
  create : Path → StateM σ (Except Fault η)
  /-- Starts a program between two open files and waits for its end. -/
  start : Command → (input output : η) → StateM σ (Except Fault WaitStatus)
  /-- Takes a note. -/
  note : Note → StateM σ Unit

namespace Platform

variable {σ η : Type}

/-- Opens an input file. A directory can be opened as well, and is refused here. -/
def openFile (p : Platform σ η) (path : Path) : StateM σ (Except Fault η) := do
  match ← p.isDir path with
  | .error fault => return .error fault
  | .ok true => return .error .inputIsDir
  | .ok false => p.openInput path

/-- Runs a command with one file as its input and another as its output. -/
def run (p : Platform σ η) (command : Command) (stdin stdout : Path) : StateM σ RunStatus := do
  match ← p.openFile stdin with
  | .error fault =>
    p.note (.inputNotOpened stdin fault)
    return .redirectFailure
  | .ok input =>
    match ← p.create stdout with
    | .error fault =>
      p.note (.outputNotCreated stdout fault)
      return .redirectFailure
    | .ok output =>
      match ← p.start command input output with
      | .ok status => return .ofWait status
      | .error fault =>
        let status := RunStatus.ofStartFault fault
        p.note (.notStarted command fault status.code)
        return status

end Platform

end Tandem
