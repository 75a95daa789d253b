import Tandem.Host.Shell.Builtin.Directory
import Tandem.Host.Shell.Builtin.Process
import Tandem.Host.Shell.Engine
import Tandem.Host.Shell.Facts
import Tandem.Host.Shell.Printing

/-!
# Simple commands

A simple command is run in steps: its words are expanded, its streams are redirected, its
assignments are carried out, and then the function, the shell's own command or the program of its
name is run.
-/

namespace Tandem.Host.Shell

open Builtin

namespace Command

/-! ### The shell's own commands -/

/-- Texts with a space between them. -/
def spaced (args : List Octets) : Octets :=
  (List.intersperse [' '] args).flatten

/-- The file of commands that a name without a slash stands for. -/
def commandFile (name : Octets) : Sh Octets := do
  if name.contains '/' then return name
  let s ← get
  let isThere (path : Octets) : Bool := (isPlainFile s path) matches .ok true
  match (pathsOf (searchPath s false) name).find? isThere with
  | some path => return path
  | none => Sh.failOn name "not found"

/-- Runs a file of commands in this very shell. -/
def source (self : Engine) (args : List Octets) : Sh Nat := do
  let (_, args) ← options "" args
  match args with
  | [] => return 0
  | name :: _ =>
    let path ← commandFile name
    match ← Sh.act (Act.openPath .read path) with
    | .error e =>
      Sh.fail (ascii "cannot open " ++ path ++ ascii ": " ++ Redirection.reason false e)
    | .ok opening =>
      modify ({ · with command := some path })
      match ← Sh.attempt (self.inputStatus opening) with
      | .ok status => return status
      | .error .return => return (← get).status
      | .error j => Sh.jump j

/-- Runs a program in the place of the shell; without one, its redirections stay. -/
def replace (self : Engine) (args : List Octets) : Sh Nat := do
  match args with
  | [] => return 0
  | name :: rest =>
    let s ← get
    let paths := if name.contains '/' then [name] else pathsOf (searchPath s false) name
    self.become name rest paths

/-- Tells about a command. -/
def tellAbout (args : List Octets) : Sh Nat := do
  let (chosen, args) ← options "pvV" args
  let usual := chosen.any (·.1 == 'p')
  match args, chosen.reverse.find? fun (c, _) => c != 'p' with
  | name :: _, some (c, _) => describe (c == 'V') usual name
  | _, _ => return 0

/-- There are no jobs to be moved. -/
def noJob (_ : List Octets) : Sh Nat :=
  Sh.fail (ascii "No current job")

/-- What the shell's own commands do. -/
def own (self : Engine) (flags : Flags) (name : Octets) (args : List Octets) : Sh Nat :=
  match String.ofList name with
  | "." => source self args
  | "eval" => self.textStatus { tested := flags.tested } (spaced args)
  | "exec" => replace self args
  | "command" => tellAbout args
  | "true" | ":" => return 0
  | "false" => return 1
  | "[" => Condition.test true args
  | "test" => Condition.test false args
  | "echo" => Printing.echo args
  | "printf" => do
    let (_, args) ← options "" args
    Printing.printf args
  | "alias" => setAliases args
  | "unalias" => dropAliases args
  | "type" => describeEach args
  | "hash" => hash args
  | "break" => leaveLoops false args
  | "continue" => leaveLoops true args
  | "return" => leaveFunction args
  | "exit" => leave args
  | "cd" | "chdir" => changeDirectory args
  | "pwd" => printDirectory args
  | "export" => exportEach args
  | "readonly" => protect args
  | "local" => makeLocal args
  | "unset" => forget args
  | "set" => setAll args
  | "shift" => shift args
  | "getopts" => getOption args
  | "read" => readInto args
  | "kill" => kill args
  | "trap" => trap args
  | "wait" => wait args
  | "umask" => fileMask args
  | "times" => times args
  | "ulimit" => limits args
  | "fg" | "bg" => noJob args
  | _ => return 0

/-- Runs one of the shell's own commands. What it writes is handed over at its end. A complaint ends
the shell only if the command is special. -/
def runOwn (self : Engine) (flags : Flags) (isSpecial : Bool) (name : Octets) (args : List Octets) :
    Sh Unit := do
  let before := (← get).command
  modify ({ · with command := some name })
  let result ← Sh.attempt (own self flags name args)
  let worked ← Sh.flush
  if !worked then
    modify ({ · with command := some name })
    Sh.warn (name ++ ascii ": I/O error")
  modify ({ · with command := before })
  match result with
  | .ok status => Sh.setStatus (if worked then status else status ||| 1)
  | .error .fault => if isSpecial then Sh.jump .fault
  | .error j => Sh.jump j

/-- How many functions may be under way at once. -/
def mostCalls : Nat := 1000

/-- Calls a function, which has parameters of its own. -/
def call (self : Engine) (flags : Flags) (body : Script) (args : List Octets) : Sh Unit := do
  let s ← get
  if mostCalls ≤ s.calls then
    Sh.fail (ascii "Maximum function recursion depth (" ++ Octets.ofNat mostCalls ++
      ascii ") reached")
  set { s with args, loops := 0, calls := s.calls + 1, optionPosition := {} }
  Sh.ensuring (do
    match ← Sh.attempt (self.eval { tested := flags.tested } body) with
    | .ok () | .error .return => return
    | .error j => Sh.jump j)
    (modify ({ · with
      args := s.args, loops := s.loops, calls := s.calls, optionPosition := s.optionPosition }))

/-! ### Words and assignments -/

/-- The arguments of a command that is called by way of `command`: whether the usual search path is
asked for, and the arguments; `none` if it only tells about a command. -/
def behindCommand : List Octets → Option (Bool × List Octets)
  | [] => none
  | arg :: rest =>
    match arg with
    | ['-', '-'] => if rest.isEmpty then none else some (false, rest)
    | '-' :: c :: cs =>
      if (c :: cs).all (· == 'p') then (behindCommand rest).map fun (_, args) => (true, args)
      else none
    | _ => some (false, arg :: rest)

/-- A command and how it was called. -/
structure Call where
  args : List Octets
  /-- By way of `command`, so that functions do not count. -/
  direct : Bool := false
  usualPath : Bool := false

/-- The command behind words, with `command` taken off. -/
def callOf (args : List Octets) : (fuel : Nat) → Call
  | 0 => { args }
  | fuel + 1 =>
    match args with
    | name :: rest =>
      if String.ofList name == "command" then
        match behindCommand rest with
        | some (usualPath, args) =>
          let inner := callOf args fuel
          { inner with direct := true, usualPath := usualPath || inner.usualPath }
        | none => { args }
      else { args }
    | [] => { args }

/-- The arguments of the command may be assignments. -/
def takesAssignments (args : List Octets) : Bool :=
  ((callOf args args.length).args.head?).any (isOneOf assigning)

/-- Expands words one after the other. -/
def expandAll (capture : Capture) (sofar : List Octets) : List Word → Sh (List Octets)
  | [] => return sofar
  | w :: ws => do
    match (if takesAssignments sofar then w.assignment? else none) with
    | some (name, value) =>
      let value ← Expand.assigned capture value
      expandAll capture (sofar ++ [name ++ '=' :: value]) ws
    | none => expandAll capture (sofar ++ (← Expand.fields capture w)) ws

/-- Carries out assignments; answers with them as they are shown. -/
def assignAll (capture : Capture) (localOnes exported : Bool) :
    List (Octets × Word) → Sh (List Octets)
  | [] => return []
  | (name, word) :: rest => do
    let value ← Expand.assigned capture word
    if localOnes then Sh.keepLocal name
    if localOnes || exported then Sh.assignExported name value else Sh.assign name value
    return (name ++ '=' :: value) :: (← assignAll capture localOnes exported rest)

/-- What stands in front of a command that is shown. -/
def traceMark (capture : Capture) : Sh Octets := do
  let text := (← get).value "PS4"
  let inner := Reader.inner Reader.deepest
  match (Words.read inner .document {} (text.length + 1)).run { rest := text } with
  | .ok (d, _) => Expand.document capture d.word
  | .error _ => return text

/-- Shows a command before it is run, if that is wanted. -/
def trace (capture : Capture) (stream : Option Nat) (shown : List Octets) : Sh Unit := do
  if (← get).settings.trace then
    if let some opening := stream then
      let start ← traceMark capture
      let _ ← Sh.act (Act.writeTo opening (Act.bytes (start ++ spaced shown ++ ['\n'])))

/-! ### Running -/

/-- Finds what a name stands for and runs it. -/
def dispatch (self : Engine) (flags : Flags) (c : Call) (isSpecial : Bool) : Sh Unit := do
  match c.args with
  | [] => return
  | name :: args =>
    let s ← get
    match find s (!c.direct) c.usualPath name with
    | .own => runOwn self flags isSpecial name args
    | .function body => call self flags body args
    | .program paths =>
      if !name.contains '/' then remember name
      if flags.last && !Engine.hasTraps s then self.become name args paths
      else self.runProgram name args paths
    | .missing e =>
      Sh.warn (name ++ ascii ": " ++ ascii (notFound e))
      Sh.setStatus 127

/-- Runs a simple command. -/
def run (self : Engine) (flags : Flags) (line : Nat) (assignments : List (Octets × Word))
    (words : List Word) (redirects : List Redirect) : Sh Unit := do
  modify ({ · with line, captured := 0 })
  let args ← expandAll self.capture [] words
  let c := callOf args args.length
  let stderr := (← get).streams.lookup 2
  let name := c.args.headD []
  let isOwn := match find (← get) (!c.direct) c.usualPath name with
    | .own => true
    | _ => false
  let isSpecial := isOwn && !c.direct && isOneOf special name
  let isExec := isOwn && String.ofList name == "exec"
  let localOnes := !c.args.isEmpty && !isSpecial
  let body : Sh Unit := do
    if ← Redirection.apply self.capture redirects then
      let shown ← assignAll self.capture localOnes (isExec && 1 < c.args.length) assignments
      if !(shown.isEmpty && args.isEmpty) then trace self.capture stderr (shown ++ args)
      if c.args.isEmpty then Sh.setStatus (← get).captured
      else dispatch self flags c isSpecial
    else if isSpecial then Sh.jump .fault
  let body := if localOnes then Sh.withLocals body else body
  if isExec || redirects.isEmpty then body else Sh.withStreams body

end Command

end Tandem.Host.Shell
