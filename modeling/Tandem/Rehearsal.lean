import Tandem.Host.World

/-!
# Rehearsed runs

A run whose programs, or whose comparison, follow a script instead of being started, and whose
reports can be made to fail. Everything the run asks for is recorded, so that it can be looked at
afterwards.
-/

namespace Tandem

open Host

/-- How a rehearsed program behaves. A rule applies to a program and to the name of an input; what
it does not name it does not care about. -/
structure Rule where
  program : Option String := none
  file : Option String := none
  code : Int := 0
  /-- What the program writes; without it, a copy of its input. -/
  output : Option Bytes := none
  /-- The program writes its output file at all. -/
  writes : Bool := true
  deriving DecidableEq, Repr

/-- What a rehearsed comparison answers. -/
inductive Answer where
  | verdict (v : Verdict)
  | failure
  deriving DecidableEq, Repr

/-- A rehearsed comparison: what it writes, and what it answers. -/
structure Judge where
  output : Bytes
  answer : Answer
  deriving DecidableEq, Repr

/-- The kinds of events. -/
inductive EventKind where
  | runStart
  | failed
  | banner
  | diffed
  deriving DecidableEq, Repr

/-- The kind of an event. -/
def Event.kind : Event → EventKind
  | .runStart _ => .runStart
  | .failed .. => .failed
  | .banner _ => .banner
  | .diffed .. => .diffed

/-- What is rehearsed; what is not is left to the host. -/
structure Rehearsal where
  rules : Option (List Rule) := none
  judge : Option Judge := none
  failOn : Option EventKind := none
  deriving DecidableEq, Repr

/-- A world with a record of what was asked for, latest first. -/
structure Recording where
  world : World
  events : List Event := []
  calls : List (Command × Path × Path) := []
  compared : List (Path × Path) := []

namespace Recording

/-- The recording with what happened to its world. -/
def within {α : Type} (f : World → α × World) (r : Recording) : α × Recording :=
  let (a, world) := f r.world
  (a, { r with world })

end Recording

namespace Rule

/-- The rule applies to a command and an input. -/
def covers (rule : Rule) (command : Command) (stdin : Path) : Bool :=
  rule.program.all (· == command.program.display) &&
    rule.file.all (· == Utf8.lossy (stdin.fileName?.getD []))

/-- Does what the rule says, to the store and as a status. -/
def act (rule : Rule) (place : Place) (stdin stdout : Path) (s : Store) : RunStatus × Store :=
  match rule.output.elim (s.read place stdin) .ok with
  | .error _ => (⟨1⟩, s)
  | .ok data =>
    if rule.writes then
      match s.write place stdout data false with
      | (s, .ok ()) => (⟨rule.code⟩, s)
      | (s, .error _) => (⟨1⟩, s)
    else (⟨rule.code⟩, s)

end Rule

namespace Rehearsal

/-- Runs a program by the first rule that covers it. -/
def launch (rules : List Rule) (command : Command) (stdin stdout : Path) (r : Recording) :
    RunStatus × Recording :=
  let rule := (rules.find? (·.covers command stdin)).getD {}
  let (status, store) := rule.act r.world.place stdin stdout r.world.store
  (status, { r with
    world := r.world.withStore store, calls := (command, stdin, stdout) :: r.calls })

/-- Compares two files as the judge says. -/
def judged (judge : Judge) (expected actual : Path) (r : Recording) :
    Except RunError Verdict × Recording :=
  let (console, written) := r.world.console.write judge.output
  let result := match written, judge.answer with
    | .error fault, _ => .error (.io (Path.ofString "<fake>") fault)
    | .ok (), .verdict v => .ok v
    | .ok (), .failure => .error (.diffTool "fake" "scripted" none)
  (result, { r with
    world := { r.world with console }
    compared := (expected, actual) :: r.compared })

/-- Records an event and passes it on, unless it is to fail. -/
def report (rehearsal : Rehearsal) (e : Event) (r : Recording) : Except Fault Unit × Recording :=
  let r := { r with events := e :: r.events }
  if rehearsal.failOn == some e.kind then (.error (.other "reporter failed"), r)
  else r.within (·.report e)

/-- What a rehearsed run gets. -/
def services (rehearsal : Rehearsal) (choice : DiffChoice) : Services Recording where
  list p := Recording.within ((World.services choice).list p)
  makeDir p := Recording.within ((World.services choice).makeDir p)
  launch command stdin stdout := match rehearsal.rules with
    | some rules => Rehearsal.launch rules command stdin stdout
    | none => Recording.within ((World.services choice).launch command stdin stdout)
  compare expected actual := match rehearsal.judge with
    | some judge => judged judge expected actual
    | none => Recording.within ((World.services choice).compare expected actual)
  report := rehearsal.report
  note n := Recording.within ((World.services choice).note n)

/-- A whole rehearsed run. -/
def run (rehearsal : Rehearsal) (config : Config) (w : World) :
    Except RunError (List CaseResult) × Recording :=
  ((rehearsal.services config.diff).run config).run { world := w }

end Rehearsal

end Tandem
