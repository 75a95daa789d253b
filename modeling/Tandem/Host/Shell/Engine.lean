import Tandem.Host.Shell.Builtin.Lookup
import Tandem.Host.Shell.Reader
import Tandem.Host.Shell.Redirection

/-!
# Running texts

A shell reads and runs: a text in one piece, or what comes from a file or a stream, line by line and
as it comes. What runs a script that is read, and what starts a program, is given as an *engine*.
-/

namespace Tandem.Host.Shell

/-- What is known about the place of a script. -/
structure Flags where
  /-- Nothing comes after it, so that a program may take the place of the shell. -/
  last : Bool := false
  /-- Somebody looks at its status, so that a failure does not end the shell. -/
  tested : Bool := false
  deriving DecidableEq, Repr

/-- What runs scripts and programs. -/
structure Engine where
  eval : Flags → Script → Sh Unit
  start : Image → List Octets → Act Nat

namespace Engine

/-- Takes over what the reader has found besides commands. -/
def takeOver (source : Source) : Sh Unit :=
  modify fun s => { s with
    documents := source.documents ++ s.documents
    nextDocument := source.nextDocument
    reached := source.line }

/-- Reads a line in view of the other names that commands have right now. -/
def readLine (source : Source) : Sh (Except SyntaxError (Reader.Line × Source)) := do
  let s ← get
  return Reader.line.run { source with
    aliases := s.aliases, documents := [], nextDocument := s.nextDocument }

/-- Gives up because of a mistake in a script. -/
def refuse {α : Type} (e : SyntaxError) : Sh α := do
  modify ({ · with line := e.line })
  Sh.fail e.text

/-- Runs the lines of a text; answers with whether there was anything to run. -/
def lines (self : Engine) (flags : Flags) (source : Source) : Nat → Sh Bool
  | 0 => return false
  | n + 1 => do
    match ← readLine source with
    | .error e => refuse e
    | .ok (.finished, _) => return false
    | .ok (.commands script last, source) =>
      takeOver source
      match script with
      | none => lines self flags source n
      | some script =>
        self.eval { flags with last := flags.last && last } script
        let _ ← lines self flags source n
        return true

/-- Runs a text; answers with whether there was anything to run. -/
def text (self : Engine) (flags : Flags) (cs : Octets) : Sh Bool :=
  lines self flags { rest := cs } (cs.length + 1)

/-- Runs a text, of which nothing leaves the status at zero. -/
def textStatus (self : Engine) (flags : Flags) (cs : Octets) : Sh Nat := do
  if ← text self flags cs then return (← get).status else return 0

/-! ### Input that comes bit by bit -/

/-- How much of a script is read at once. -/
def block : Nat := 8192

/-- The next block of a script. A zero byte is not part of it. -/
def nextBlock (opening : Nat) : Sh Octets := do
  match ← Sh.act (Act.readSome opening block) with
  | .ok part => return (Octets.ofBytes part.toList).filter (· != '\x00')
  | .error _ => return []

/-- Says what was read, if that is wanted. -/
def echoInput (before after : Source) : Sh Unit := do
  if (← get).settings.verbose then
    Sh.say (before.rest.take (before.rest.length - after.rest.length))

/-- Runs a script from an opening. More of it is read only where the reader has to see it; answers
with whether there was anything to run. -/
def input (self : Engine) (opening : Nat) (source : Source) : Nat → Sh Bool
  | 0 => return false
  | n + 1 => do
    let result ← readLine source
    let needsMore := match result with
      | .ok (_, after) => after.sawEnd
      | .error _ => true
    let more ← if needsMore then nextBlock opening else pure []
    if !more.isEmpty then input self opening { source with rest := source.rest ++ more } n
    else match result with
      | .error e => refuse e
      | .ok (.finished, _) => return false
      | .ok (.commands script _, after) =>
        takeOver after
        echoInput source after
        let after := { after with sawEnd := false }
        match script with
        | none => input self opening after n
        | some script =>
          self.eval {} script
          let _ ← input self opening after n
          return true

/-- Runs a script from an opening. -/
def inputStatus (self : Engine) (opening : Nat) : Sh Nat := do
  if ← input self opening { rest := [] } Act.patience then return (← get).status else return 0

/-! ### Traps and ends -/

/-- Does what was arranged for the signals that came. The status stays what it was. -/
def springTraps (self : Engine) : Nat → Sh Unit
  | 0 => return
  | n + 1 => do
    let s ← get
    match s.pending.mergeSort (· ≤ ·) with
    | [] => return
    | signal :: rest =>
      set { s with pending := rest }
      match s.traps.lookup signal with
      | none => pure ()
      | some action =>
        modify fun t => { t with untrapped := s.untrapped.or (some s.status) }
        let _ ← Sh.ensuring (text self {} action) (modify ({ · with untrapped := s.untrapped }))
        Sh.setStatus s.status
      springTraps self n

/-- A signal is waited for. -/
def hasTraps (s : State) : Bool :=
  s.traps.any (!·.2.isEmpty)

/-- Does something and then what was arranged for the end of the shell; answers with how it ends. -/
def conclude (self : Engine) (body : Sh Unit) : Sh Halt := do
  match ← Sh.attempt body with
  | .error (.gone h) => return h
  | _ =>
    let s ← get
    let ending := Halt.exit (s.status % 256)
    match s.traps.lookup 0 with
    | none => return ending
    | some action =>
      set { s with traps := s.traps.filter (·.1 != 0), untrapped := some s.status, loops := 0 }
      match ← Sh.attempt (text self {} action) with
      | .error (.gone h) => return h
      | .error .exit | .error .fault => return .exit ((← get).status % 256)
      | _ => return ending

/-- The output of a script, which runs in a process of its own. -/
def capture (self : Engine) : Capture := fun script => do
  match script with
  | .nothing => return []
  | _ =>
    let (pipe, writer) ← Sh.act (Act.onSystem fun s =>
      let (pipe, s) := s.newPipe {}
      let (writer, s) := s.push (.forWriting (.pipe pipe))
      ((pipe, writer), s))
    let halt ← Sh.fork do
      Sh.setStream 1 (some writer)
      conclude self (self.eval { last := true } script)
    Sh.remark halt
    modify ({ · with captured := Sh.statusOf halt })
    return Octets.ofBytes ((← get).system.pipe pipe).data.toList

/-! ### Programs -/

/-- The program that is found first at paths. A file that names no interpreter is a script. -/
def imageOf (s : State) (name : Octets) (e : Errno) : List Octets → Except Errno Image
  | [] => .error e
  | path :: rest =>
    match s.system.store.imageAt s.place ⟨Octets.toBytes path⟩ Store.mostImages with
    | .ok image =>
      .ok { image with called := if image.args.isEmpty then Octets.toBytes name else image.called }
    | .error found =>
      if found == .noExec then
        .ok { tool := .sh, called := Utf8.encode "/bin/sh", args := [Octets.toBytes path] }
      else imageOf s name (if found == .noEntry || found == .notDir then e else found) rest

/-- The status of a program that could not be started. -/
def failureStatus (e : Errno) : Nat :=
  if e == .noEntry || e == .notDir || e == .tooManyLinks || e == .tooLong then 127 else 126

/-- Puts a program in the place of the shell. -/
def become {α : Type} (self : Engine) (name : Octets) (args : List Octets) (paths : List Octets) :
    Sh α := do
  match imageOf (← get) name .noEntry paths with
  | .ok image =>
    let code ← Sh.act (self.start image args)
    Sh.jump (.gone (.exit code))
  | .error e =>
    Sh.warn (name ++ Octets.ofString ": " ++ Octets.ofString (Builtin.notFound e))
    Sh.setStatus (failureStatus e)
    Sh.jump .exit

/-- Runs a program and waits for its end. -/
def runProgram (self : Engine) (name : Octets) (args : List Octets) (paths : List Octets) :
    Sh Unit := do
  let halt ← Sh.fork (become self name args paths)
  Sh.remark halt
  Sh.setStatus (Sh.statusOf halt)

end Engine

end Tandem.Host.Shell
