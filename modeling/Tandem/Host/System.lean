import Tandem.Host.Signal
import Tandem.Host.Store

/-!
# Open files and pipes

A system is a file store with everything that is open on it. Opening a file yields an *opening*,
which has a position of its own: whoever shares the opening shares the position, and whoever opens
the file again starts anew. Reading and writing happen at the position, so a file that was cut short
under a writer gets a gap of zero bytes, and an opening for appending always writes at the end.

A pipe holds what was written to it and not yet read. Its writer is at work before its reader, so a
pipe may be given a capacity: a writer that exceeds it is stopped by a signal. If the reader then
comes to the end of what such a writer had written, the pipe remembers it, so that the two can be
started over with more room.
-/

namespace Tandem.Host

/-- What an opening gives access to. -/
inductive Target where
  | file (id : Nat)
  | dir (place : Place)
  | device (d : Device)
  | pipe (id : Nat)
  | program
  /-- What the operator gets to see besides the console. -/
  | diagnostics
  deriving DecidableEq, Repr

/-- An opening of a file, a device or a pipe. -/
structure Opening where
  target : Target
  readable : Bool := true
  writable : Bool := false
  /-- Every write goes to the end. -/
  appending : Bool := false
  position : Nat := 0
  deriving DecidableEq, Repr

/-- An opening that is only written to. -/
def Opening.forWriting (target : Target) : Opening :=
  { target, readable := false, writable := true }

/-- What was written to a pipe, and how much of it was read. -/
structure Pipe where
  data : ByteArray := .empty
  taken : Nat := 0
  capacity : Option Nat := none
  /-- What stops a writer that exceeds the capacity. -/
  signal : Nat := Signal.pipe
  /-- A writer was stopped. -/
  cut : Bool := false
  /-- A reader came to the end of what the stopped writer had written. -/
  starved : Bool := false

/-- Adds bytes to what was written to a pipe. -/
def Pipe.append (p : Pipe) (bs : ByteArray) : Pipe :=
  { p with data := p.data ++ bs }

/-- A store with its openings and pipes, by their numbers, what was said to the operator, latest
first, and the signals that wait for a process. -/
structure System where
  store : Store := {}
  openings : Array Opening := #[]
  pipes : Array Pipe := #[]
  said : List Bytes := []
  nextPid : Nat := 100
  waiting : List (Nat × Nat) := []

instance : Inhabited System := ⟨{}⟩

/-- What became of a write. -/
inductive Written where
  | done
  | refused (e : Errno)
  /-- The writer is stopped by a signal. -/
  | stopped (signal : Nat)
  deriving DecidableEq, Repr

/-- How a file is opened. -/
inductive Mode where
  | read
  /-- For writing from the start; what the file held is gone. -/
  | write
  /-- Like `write`, for a file that does not exist yet. -/
  | fresh
  | append
  | update
  deriving DecidableEq, Repr

/-- The bytes with others written over them from a position on. A gap is filled with zeros. -/
def overwrite (data : ByteArray) (position : Nat) (bs : ByteArray) : ByteArray :=
  if position = data.size then data ++ bs
  else if data.size < position then
    data ++ ⟨(List.replicate (position - data.size) 0).toArray⟩ ++ bs
  else data.extract 0 position ++ bs ++ data.extract (position + bs.size) data.size

namespace System

/-- The opening with a number. -/
def opening (s : System) (id : Nat) : Opening :=
  s.openings.getD id { target := .program, readable := false }

/-- Takes up an opening; answers with its number. -/
def push (s : System) (o : Opening) : Nat × System :=
  (s.openings.size, { s with openings := s.openings.push o })

/-- Moves the position of an opening. -/
def moveTo (s : System) (id position : Nat) : System :=
  { s with openings := s.openings.modify id ({ · with position }) }

/-- Makes a pipe that holds some bytes; answers with its number. -/
def newPipe (s : System) (pipe : Pipe) : Nat × System :=
  (s.pipes.size, { s with pipes := s.pipes.push pipe })

/-- The pipe with a number. -/
def pipe (s : System) (id : Nat) : Pipe :=
  s.pipes.getD id {}

/-- Reads at most `most` bytes; none are the end. -/
def read (s : System) (id most : Nat) : Except Errno ByteArray × System :=
  let o := s.opening id
  if !o.readable then (.error .badStream, s)
  else match o.target with
    | .file file =>
      let part := (s.store.data file).extract o.position (o.position + most)
      (.ok part, s.moveTo id (o.position + part.size))
    | .dir _ => (.error .isDir, s)
    | .device .zero | .device .full => (.ok ⟨(List.replicate most 0).toArray⟩, s)
    | .pipe n =>
      let p := s.pipe n
      let part := p.data.extract p.taken (p.taken + most)
      let starved := p.starved || (p.cut && part.isEmpty)
      (.ok part, { s with
        pipes := s.pipes.modify n ({ · with taken := p.taken + part.size, starved }) })
    | _ => (.ok .empty, s)

/-- Writes all of `bs`. -/
def write (s : System) (id : Nat) (bs : ByteArray) : Written × System :=
  let o := s.opening id
  if !o.writable then (.refused .badStream, s)
  else match o.target with
    | .file file =>
      let position := if o.appending then (s.store.data file).size else o.position
      let s := { s with store := s.store.modify file (overwrite · position bs) }
      (.done, s.moveTo id (position + bs.size))
    | .dir _ => (.refused .isDir, s)
    | .device .full => (if bs.isEmpty then .done else .refused .noSpace, s)
    | .pipe n =>
      let p := s.pipe n
      let room := p.capacity.map (· - p.data.size)
      match room with
      | some room =>
        if room < bs.size then
          (.stopped p.signal, { s with
            pipes := s.pipes.modify n fun p =>
              { p with data := p.data ++ bs.extract 0 room, cut := true } })
        else (.done, { s with pipes := s.pipes.modify n (·.append bs) })
      | none => (.done, { s with pipes := s.pipes.modify n (·.append bs) })
    | .diagnostics => (.done, if bs.isEmpty then s else { s with said := bs.toList :: s.said })
    | _ => (.done, s)

/-- The rights that come with a mode. -/
def Mode.opening (mode : Mode) (target : Target) : Opening :=
  { target
    readable := mode = .read || mode = .update
    writable := mode != .read
    appending := mode = .append }

/-- Opens what stands at a place, for a process with the given streams. -/
def openNode (s : System) (streams : List (Nat × Nat)) (mode : Mode) (place : Place) (node : Node) :
    Except Errno (Nat × System) :=
  match node with
  | .file id _ =>
    let s := if mode = .write then { s with store := s.store.modify id fun _ => .empty } else s
    .ok (s.push (Mode.opening mode (.file id)))
  | .dir => if mode = .read then .ok (s.push (Mode.opening mode (.dir place))) else .error .isDir
  | .device (.stream n) =>
    match streams.lookup n with
    | none => .error .noEntry
    | some shared =>
      let target := (s.opening shared).target
      let s := match target, mode with
        | .file id, .write => { s with store := s.store.modify id fun _ => .empty }
        | _, _ => s
      .ok (s.push (Mode.opening mode target))
  | .device d => .ok (s.push (Mode.opening mode (.device d)))
  | .tool _ => if mode = .read then .ok (s.push (Mode.opening mode .program)) else .error .textBusy
  | .link _ => .error .tooManyLinks

/-- The error of the operating system behind a fault. -/
def errnoOf : Fault → Errno
  | .os e => e
  | _ => .invalid

/-- Opens the file that a path leads to from a directory; answers with the number of the opening. -/
def openFile (s : System) (base : Place) (streams : List (Nat × Nat)) (mode : Mode) (p : Path) :
    Except Fault (Nat × System) :=
  match mode with
  | .read => do
    let (place, node) ← s.store.lookup base p
    (s.openNode streams mode place node).mapError .os
  | _ => do
    let existed := (s.store.lookup base p).toOption.isSome
    let (place, node, store) ← s.store.create base p
    match mode, node with
    | .fresh, .file .. =>
      if existed then .error (.os .exist)
      else ({ s with store }.openNode streams mode place node).mapError .os
    | _, _ => ({ s with store }.openNode streams mode place node).mapError .os

/-- Sends a signal to a process that is not at work right now. -/
def send (s : System) (pid signal : Nat) : System :=
  { s with waiting := s.waiting ++ [(pid, signal)] }

/-- The signals that wait for a process, which is about to get them. -/
def collect (s : System) (pid : Nat) : List Nat × System :=
  ((s.waiting.filter (·.1 == pid)).map (·.2),
    { s with waiting := s.waiting.filter (·.1 != pid) })

end System

end Tandem.Host
