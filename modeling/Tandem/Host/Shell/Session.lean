import Tandem.Host.Shell.Eval

/-!
# The shell as a program

The shell takes its script from an argument, from a file or from its standard input, and takes over
the variables of its environment.
-/

namespace Tandem.Host.Shell.Session

open Builtin

/-- Variables that every shell has. -/
def usualVariables (context : Context) : List (Octets × Octets) :=
  [(ascii "IFS", Expand.usualSeparators), (ascii "OPTIND", ['1']),
    (ascii "PPID", Octets.ofNat context.parent), (ascii "PS1", ascii "# "),
    (ascii "PS2", ascii "> "), (ascii "PS4", ascii "+ ")]

/-- The path by which a process came to its directory: what its environment says, if that is right.
-/
def directoryOf (context : Context) (system : System) : Octets :=
  let real := pathOf context.place
  match context.env.lookup (ascii "PWD") with
  | some ('/' :: rest) =>
    match system.store.lookup context.place ⟨Octets.toBytes ('/' :: rest)⟩ with
    | .ok (place, .dir) => if place = context.place then '/' :: rest else real
    | _ => real
  | _ => real

/-- A shell at its start. -/
def initial (context : Context) (system : System) : State :=
  let directory := directoryOf context system
  let inherited := context.env.filter fun (name, _) => isName name
  let s : State :=
    { system
      streams := context.streams
      place := context.place
      directory
      pid := context.pid
      parent := context.parent
      main := context.pid
      ignored := context.ignored
      name := context.called
      line := 0 }
  let s := inherited.foldr (fun (name, value) s =>
    s.put name { value := some value, exported := true }) s
  let path := ascii "PATH"
  let s := if (s.value? path).isSome then s
    else s.put path { value := some (Octets.ofBytes Store.usualPath) }
  let s := (usualVariables context).foldl (fun s (name, value) =>
    s.put name { value := some value }) s
  s.put (ascii "PWD") { value := some directory, exported := true }

/-- Reads the options of the shell; answers with the arguments after them. -/
def readOptions (args : List Octets) : Sh (List Octets) := do
  let own (c : Char) : Sh Bool := do
    if c == 'c' then modify fun s => { s with settings := { s.settings with takesScript := true } }
    return c == 'c' || c == 'l'
  return (← readSettings own args).1

/-- Takes arguments for the name of the script and its parameters. -/
def takeParameters : List Octets → Sh Unit
  | [] => return
  | name :: args => modify ({ · with name, args })

/-- Runs the script on the standard input. -/
def runInput (self : Engine) : Sh Unit := do
  if let some opening := (← get).streams.lookup 0 then
    Sh.setStatus (← self.inputStatus opening)

/-- Finds the script and runs it. -/
def work (self : Engine) (args : List Octets) : Sh Unit := do
  let args ← readOptions args
  let settings := (← get).settings
  if settings.takesScript then
    match args with
    | [] => Sh.fail (ascii "-c requires an argument")
    | script :: rest =>
      takeParameters rest
      Sh.setStatus (← self.textStatus { last := !settings.readsInput } script)
      if settings.readsInput then runInput self
  else match args with
    | [] =>
      modify fun s => { s with settings := { s.settings with readsInput := true } }
      runInput self
    | file :: rest =>
      if settings.readsInput then
        modify ({ · with args })
        runInput self
      else match ← Sh.act (Act.openPath .read file) with
        | .ok opening =>
          takeParameters (file :: rest)
          Sh.setStatus (← self.inputStatus opening)
        | .error e =>
          Sh.fail (ascii "cannot open " ++ file ++ ascii ": " ++ Redirection.reason false e)

/-- Runs the shell as a process. -/
def run (self : Engine) (args : List Octets) : Act Nat := do
  let context ← read
  let system ← get
  set ({} : System)
  let (result, s) := self.conclude (work self args) (initial context system)
  set s.system
  match result with
  | .ok halt | .error (.gone halt) => Act.halt halt
  | .error _ => return s.status % 256

end Tandem.Host.Shell.Session
