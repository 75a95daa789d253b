import Tandem.Host.Proc
import Tandem.Host.Shell.Script

/-!
# The state of a shell

A shell is a process that remembers: variables, parameters, functions, settings and traps. What it
does may be cut short by a *jump*: out of loops, out of a function, or out of the shell.

A shell that does something in a process of its own goes on afterwards with its old state and the
system that the other one left, see `Sh.fork`.
-/

namespace Tandem.Host.Shell

/-- A variable, which may be marked without having a value. -/
structure Variable where
  value : Option Octets := none
  exported : Bool := false
  readOnly : Bool := false
  deriving DecidableEq, Repr

/-- The settings of a shell. -/
structure Settings where
  allExport : Bool := false
  exitOnError : Bool := false
  noGlob : Bool := false
  noExec : Bool := false
  noUnset : Bool := false
  trace : Bool := false
  verbose : Bool := false
  noClobber : Bool := false
  ignoreEnd : Bool := false
  notify : Bool := false
  readsInput : Bool := false
  /-- The script is an argument. -/
  takesScript : Bool := false
  deriving DecidableEq, Repr

/-- Where the reading of options by a script stands: the next argument and the next letter in it. -/
structure OptionPosition where
  index : Nat := 1
  offset : Option Nat := none
  deriving DecidableEq, Repr

/-- What a shell remembers. -/
structure State where
  system : System
  streams : List (Nat × Nat)
  /-- The directory it works in, and the path by which it got there. -/
  place : Place
  directory : Octets := []
  pid : Nat := 1
  parent : Nat := 1
  /-- The shell that this one was split off from. -/
  main : Nat := 1
  /-- Signals that did nothing from the start. -/
  ignored : List Nat := []
  name : Octets := Octets.ofString "sh"
  args : List Octets := []
  vars : List (Octets × Variable) := []
  functions : List (Octets × Script) := []
  aliases : List (Octets × Octets) := []
  status : Nat := 0
  /-- The status of the last script whose output was taken. -/
  captured : Nat := 0
  /-- The status before a trap was sprung. -/
  untrapped : Option Nat := none
  line : Nat := 1
  /-- The line that the reading of the script has come to. -/
  reached : Nat := 1
  settings : Settings := {}
  /-- What to do at signals; nothing at all for an empty text. The end is signal 0. -/
  traps : List (Nat × Octets) := []
  pending : List Nat := []
  /-- What variables were before they became local, for each command that is under way. -/
  locals : List (List (Octets × Option Variable)) := []
  loops : Nat := 0
  /-- The functions that are under way. -/
  calls : Nat := 0
  documents : List (Nat × Word) := []
  nextDocument : Nat := 0
  lastBackground : Option Nat := none
  /-- Processes that nobody waited for yet. -/
  finished : List (Nat × Halt) := []
  optionPosition : OptionPosition := {}
  mask : Nat := 0o022
  /-- Commands that were looked for and found on the search path. -/
  hashed : List Octets := []
  /-- The command that complaints are about. -/
  command : Option Octets := none
  /-- What a command has written and not yet handed over, latest first. -/
  output : List Octets := []

/-- What cuts the work of a shell short. -/
inductive Jump where
  /-- Leaves so many loops, the last of which may go on. -/
  | loop (levels : Nat) (again : Bool)
  /-- Leaves a function or a file of commands. -/
  | return
  /-- Leaves the shell. -/
  | exit
  /-- Something went wrong, and it was said. -/
  | fault
  /-- The process is no more. -/
  | gone (h : Halt)
  deriving DecidableEq, Repr

/-- Something that a shell does. -/
abbrev Sh := ExceptT Jump (StateM State)

namespace State

/-- The value of a variable. -/
def value? (s : State) (name : Octets) : Option Octets :=
  (s.vars.lookup name).bind (·.value)

/-- The value of a variable with a name in ASCII. -/
def value (s : State) (name : String) : Octets :=
  (s.value? name.toList).getD []

/-- Puts a variable in the place of the one with its name. -/
def put (s : State) (name : Octets) (v : Variable) : State :=
  { s with vars := (name, v) :: s.vars.filter (·.1 != name) }

/-- Forgets a variable. -/
def drop (s : State) (name : Octets) : State :=
  { s with vars := s.vars.filter (·.1 != name) }

/-- The variables that programs get to see. -/
def environment (s : State) : List (Octets × Octets) :=
  s.vars.filterMap fun (name, v) =>
    if v.exported then v.value.map (name, ·) else none

/-- What a program gets that the shell starts. -/
def context (s : State) : Context :=
  { streams := s.streams
    place := s.place
    env := s.environment
    called := s.name
    pid := s.pid
    parent := s.parent
    ignored := s.ignored ++ (s.traps.filter (·.2.isEmpty)).map (·.1) }

/-- The settings by their letters and names. -/
def letters : List (Char × String × (Settings → Bool) × (Settings → Bool → Settings)) :=
  [('e', "errexit", (·.exitOnError), fun s b => { s with exitOnError := b }),
    ('f', "noglob", (·.noGlob), fun s b => { s with noGlob := b }),
    ('I', "ignoreeof", (·.ignoreEnd), fun s b => { s with ignoreEnd := b }),
    ('i', "interactive", fun _ => false, fun s _ => s),
    ('m', "monitor", fun _ => false, fun s _ => s),
    ('n', "noexec", (·.noExec), fun s b => { s with noExec := b }),
    ('s', "stdin", (·.readsInput), fun s b => { s with readsInput := b }),
    ('x', "xtrace", (·.trace), fun s b => { s with trace := b }),
    ('v', "verbose", (·.verbose), fun s b => { s with verbose := b }),
    ('V', "vi", fun _ => false, fun s _ => s),
    ('E', "emacs", fun _ => false, fun s _ => s),
    ('C', "noclobber", (·.noClobber), fun s b => { s with noClobber := b }),
    ('a', "allexport", (·.allExport), fun s b => { s with allExport := b }),
    ('b', "notify", (·.notify), fun s b => { s with notify := b }),
    ('u', "nounset", (·.noUnset), fun s b => { s with noUnset := b }),
    ('\x00', "nolog", fun _ => false, fun s _ => s),
    ('\x00', "debug", fun _ => false, fun s _ => s)]

end State

namespace Sh

/-- Cuts the work short. -/
def jump {α : Type} (j : Jump) : Sh α :=
  throw j

/-- Does something as a process. -/
def act {α : Type} (a : Act α) : Sh α := fun s =>
  let system := s.system
  let context := s.context
  let s := { s with system := {} }
  match ((ReaderT.run a context).run).run system with
  | (.ok x, system) => (.ok x, { s with system })
  | (.error h, system) => (.error (.gone h), { s with system })

/-- Says something on the standard error output. -/
def say (text : Octets) : Sh Unit :=
  act (Act.complain text)

/-- Complains: with the name of the shell, the line, and the command that is at work. -/
def warn (text : Octets) : Sh Unit := do
  let s ← get
  let colon := Octets.ofString ": "
  let about := match s.command with
    | some c => c ++ colon
    | none => []
  say (s.name ++ colon ++ Octets.ofNat s.line ++ colon ++ about ++ text ++ ['\n'])

/-- Sets the status. -/
def setStatus (n : Nat) : Sh Unit :=
  modify ({ · with status := n })

/-- Gives up with a complaint. -/
def fail {α : Type} (text : Octets) : Sh α := do
  warn text
  setStatus 2
  jump .fault

/-- Gives up with a complaint about something. -/
def failOn {α : Type} (what : Octets) (text : String) : Sh α :=
  fail (what ++ Octets.ofString ": " ++ Octets.ofString text)

/-- Does something and then something else, whatever cuts the first short. -/
def ensuring {α : Type} (body : Sh α) (after : Sh Unit) : Sh α := fun s =>
  match body s with
  | (.ok a, s) => match after s with
    | (.ok (), s) => (.ok a, s)
    | (.error j, s) => (.error j, s)
  | (.error j, s) => ((.error j), (after s).2)

/-- Does something; answers with what cut it short. -/
def attempt {α : Type} (body : Sh α) : Sh (Except Jump α) := fun s =>
  match body s with
  | (r, s) => (.ok r, s)

/-! ### Variables -/

/-- Variables whose change the shell takes notice of. -/
def noticed (name value : Octets) : Sh Unit := do
  if String.ofList name == "OPTIND" then
    modify ({ · with optionPosition := { index := (Octets.number? value).getD 1, offset := none } })

/-- Gives a variable a value. -/
def assign (name value : Octets) : Sh Unit := do
  let s ← get
  let v := (s.vars.lookup name).getD {}
  if v.readOnly then failOn name "is read only"
  set (s.put name { v with
    value := some value, exported := v.exported || s.settings.allExport })
  noticed name value

/-- Gives a variable a value that programs get to see. -/
def assignExported (name value : Octets) : Sh Unit := do
  assign name value
  modify fun s => s.put name { ((s.vars.lookup name).getD {}) with exported := true }

/-- Takes the value of a variable away. -/
def unassign (name : Octets) : Sh Unit := do
  let s ← get
  if (s.vars.lookup name).any (·.readOnly) then failOn name "is read only"
  set (s.drop name)

/-- Remembers what a variable is, to be brought back when the present command is over. -/
def keepLocal (name : Octets) : Sh Unit :=
  modify fun s => match s.locals with
    | frame :: frames => { s with locals := ((name, s.vars.lookup name) :: frame) :: frames }
    | [] => s

/-- Brings back what variables were. -/
def restore (frame : List (Octets × Option Variable)) (s : State) : State :=
  frame.foldl (fun s (name, old) => match old with
    | some v => s.put name v
    | none => s.drop name) s

/-- Does something with variables of its own. -/
def withLocals {α : Type} (body : Sh α) : Sh α := do
  modify fun s => { s with locals := [] :: s.locals }
  ensuring body (modify fun s => match s.locals with
    | frame :: frames => restore frame { s with locals := frames }
    | [] => s)

/-! ### Output and streams -/

/-- Adds to what the present command writes. -/
def put (text : Octets) : Sh Unit :=
  modify fun s => { s with output := text :: s.output }

/-- Hands over what the present command has written; answers with whether that worked. -/
def flush : Sh Bool := do
  let text := (← get).output.reverse.flatten
  modify ({ · with output := [] })
  if text.isEmpty then return true
  return (← act (Act.writeStream 1 (Act.bytes text))) matches .ok _

/-- Does something with streams that may be changed, and has the old ones again afterwards. -/
def withStreams {α : Type} (body : Sh α) : Sh α := do
  let streams := (← get).streams
  ensuring body (modify ({ · with streams }))

/-- Makes a stream lead to an opening. -/
def setStream (number : Nat) (opening : Option Nat) : Sh Unit :=
  modify fun s =>
    let others := s.streams.filter (·.1 != number)
    { s with streams := match opening with
      | some o => (number, o) :: others
      | none => others }

/-! ### Signals and processes -/

/-- Gets a signal. -/
def receive (n : Nat) : Sh Unit := do
  let s ← get
  match (if n == Signal.kill then none else s.traps.lookup n) with
  | some action => if !action.isEmpty then set { s with pending := s.pending ++ [n] }
  | none =>
    if Signal.isHarmless n || (s.ignored.contains n && n != Signal.kill) then return
    else jump (.gone (.signal n))

/-- Gets the signals that were sent while another process was at work. -/
def receiveAll : Sh Unit := do
  let s ← get
  let (signals, system) := s.system.collect s.pid
  set { s with system }
  signals.forM receive

/-- Does something in a process of its own, which starts out like this one. The traps of this one
are not its traps. -/
def fork (body : Sh Halt) : Sh Halt := fun s =>
  let system := s.system
  let parent := { s with system := {} }
  let pid := system.nextPid
  let child := { parent with
    system := { system with nextPid := pid + 1 }
    pid := pid
    parent := parent.pid
    traps := parent.traps.filter (·.2.isEmpty)
    pending := []
    finished := []
    output := [] }
  let (result, child) := body child
  let halt := match result with
    | .ok h => h
    | .error (.gone h) => h
    | .error _ => .exit (child.status % 256)
  (do receiveAll; return halt : Sh Halt) { parent with system := child.system }

/-- The status that tells how a process came to its end. -/
def statusOf : Halt → Nat
  | .exit code => code % 256
  | .signal n => 128 + n

/-- Says of a process that a signal ended it, unless that is nothing remarkable. -/
def remark (h : Halt) : Sh Unit := do
  match h with
  | .signal n =>
    if n != Signal.interrupt && n != Signal.pipe then
      say (Octets.ofString (Signal.text n) ++ ['\n'])
  | .exit _ => return

end Sh

end Tandem.Host.Shell
