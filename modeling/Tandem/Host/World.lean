import Tandem.Differ
import Tandem.Host.Launch
import Tandem.Run

/-!
# Runs on a host

A world is a system with a console, an environment and a record of diagnostics: the notes of a run
and what its programs write to their standard error output, in the order in which they come.
`World.services` gives a run everything it asks for.
-/

namespace Tandem.Host

/-- Something for the operator, apart from the report. -/
inductive Diagnostic where
  | note (n : Note)
  | text (bs : Bytes)
  deriving DecidableEq, Repr

/-- The variables that programs get to see. -/
abbrev Environment := List (String × Bytes)

/-- A system, the directory where everything happens, a console, and the diagnostics so far, latest
first. -/
structure World where
  system : System
  place : Place := Store.workPlace
  environment : Environment := []
  console : Console := {}
  diagnostics : List Diagnostic := []

namespace World

/-- A world with a store and nothing open. -/
def ofStore (store : Store) : World :=
  { system := { store } }

/-- The file store. -/
def store (w : World) : Store :=
  w.system.store

/-- The world with another file store. -/
def withStore (w : World) (store : Store) : World :=
  { w with system := { w.system with store } }

/-- The variables of every environment. -/
def usualEnvironment : Environment :=
  [("PATH", Store.usualPath), ("HOME", Utf8.encode "/root")]

/-- All variables of the environment. -/
def fullEnvironment (w : World) : Environment :=
  w.environment ++ usualEnvironment.filter fun (name, _) => (w.environment.lookup name).isNone

/-- The search path for programs. -/
def searchPath (w : World) : Bytes :=
  (w.fullEnvironment.lookup "PATH").getD []

/-- Takes a note. -/
def note (n : Note) (w : World) : World :=
  { w with diagnostics := .note n :: w.diagnostics }

/-- Adds what programs said to the diagnostics, and closes all that they had open. -/
def tidy (w : World) : World :=
  { w with
    diagnostics := w.system.said.map .text ++ w.diagnostics
    system := { store := w.system.store, nextPid := w.system.nextPid } }

/-- A command with further arguments, ready to be started. -/
structure Ready where
  image : Image
  args : List Octets

/-- Finds the program of a command and lines up its arguments. -/
def prepare (w : World) (command : Command) (more : List Path) : Except Fault Ready :=
  let args := command.args.map Utf8.encode ++ more.map Path.bytes
  if command.program.bytes.contains 0 || args.any (·.contains 0) then .error .nulInCommand
  else
    match w.store.findProgram w.place w.searchPath command.program with
    | .ok image => .ok ⟨image, args.map Octets.ofBytes⟩
    | .error e => .error (.os e)

/-- The word for how a process ended. -/
def waitStatus : Halt → WaitStatus
  | .exit code => .exited code
  | .signal n => .signalled n

/-- Runs a program between two openings and waits for its end. -/
def execute (ready : Ready) (input output : Nat) (w : World) : WaitStatus × World :=
  let (errors, system) := w.system.push (.forWriting .diagnostics)
  let pid := system.nextPid
  let context : Context :=
    { streams := [(0, input), (1, output), (2, errors)]
      place := w.place
      env := w.fullEnvironment.map fun (name, value) =>
        (Octets.ofBytes (Utf8.encode name), Octets.ofBytes value)
      pid }
  let system := { system with nextPid := pid + 1 }
  let (halt, system) := (Launch.program ready.image ready.args).run context system
  (waitStatus halt, { w with system })

/-- Starts a command between two open files and waits for its end. -/
def start (command : Command) (input output : Nat) (w : World) : Except Fault WaitStatus × World :=
  match w.prepare command [] with
  | .error fault => (.error fault, w)
  | .ok ready =>
    let (status, w) := execute ready input output w
    (.ok status, w.tidy)

/-- Opens a file. -/
def openFile (mode : Mode) (p : Path) (w : World) : Except Fault Nat × World :=
  match w.system.openFile w.place [] mode p with
  | .ok (opening, system) => (.ok opening, { w with system })
  | .error fault => (.error fault, w)

/-- The host as a platform for programs. -/
def platform : Platform World Nat where
  isDir p := fun w => (w.store.isDir w.place p, w)
  openInput p := fun w => w.openFile .read p
  create p := fun w => w.openFile .write p
  start command input output := fun w => w.start command input output
  note n := fun w => ((), w.note n)

/-- How many more bytes the console takes, if there is a limit. -/
def room (w : World) : Option Nat :=
  w.console.limit.map (· - w.console.accepted.length)

/-- Runs a diff program on two files, with nothing on its standard input. As soon as it has written
more than the console takes, it is killed. -/
def runTool (command : Command) (expected actual : Path) (w : World) :
    Except Fault Differ.ToolRun × World :=
  match w.prepare command [expected, actual] with
  | .error fault => (.error fault, w)
  | .ok ready =>
    let (pipe, system) := w.system.newPipe
      { capacity := w.room.map (· + 1), signal := Signal.kill }
    let (output, system) := system.push (.forWriting (.pipe pipe))
    let (input, system) := system.push { target := .device .null }
    let (status, w) := execute ready input output { w with system }
    (.ok ⟨(w.system.pipe pipe).data.toList, status⟩, w.tidy)

/-- Compares two files in the chosen way. -/
def compare (choice : DiffChoice) (expected actual : Path) (w : World) :
    Except RunError Verdict × World :=
  match choice with
  | .builtin =>
    let (console, result) := Differ.builtin (w.store.read w.place) expected actual w.console
    (result, { w with console })
  | .external command =>
    let (tool, w) := w.runTool command expected actual
    let (console, result) := Differ.external command tool w.console
    (result, { w with console })

/-- Reports an event to the console. -/
def report (e : Event) (w : World) : Except Fault Unit × World :=
  let (console, result) := w.console.report e
  (result, { w with console })

/-- Makes a directory and those above it. -/
def ensureDir (p : Path) (w : World) : Except Fault Unit × World :=
  let (store, result) := w.store.ensureDir w.place p
  (result, w.withStore store)

/-- What a run on this host gets. -/
def services (choice : DiffChoice) : Services World where
  list p := fun w => (w.store.list w.place p, w)
  makeDir p := fun w => w.ensureDir p
  launch := platform.run
  compare expected actual := fun w => w.compare choice expected actual
  report e := fun w => w.report e
  note n := fun w => ((), w.note n)

/-- A whole run on this host. -/
def run (config : Config) (w : World) : Except RunError (List CaseResult) × World :=
  ((services config.diff).run config).run w

end World

end Tandem.Host
