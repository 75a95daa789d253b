import Tandem.Host.Shell.Command

/-!
# Running scripts

What each kind of script does. The processes of a pipeline are run one after the other, from left to
right; a pipe has room for only so much, and a writer that exceeds it is stopped, as if its reader
had left. If it turns out that the reader has not, everything is done again with more room.
-/

namespace Tandem.Host.Shell

namespace Eval

/-- Attends to signals, and leaves the shell if a failure is to end it. -/
def settle (self : Engine) (checks : Bool) : Sh Unit := do
  self.springTraps (Signal.greatest + 1)
  let s ← get
  if checks && s.settings.exitOnError && s.status != 0 then Sh.jump .exit

/-! ### Pipelines -/

/-- How much room a pipe has, at first and in further attempts. -/
def capacities : List Nat := [65536, 1048576, 16777216, 268435456]

/-- Runs the commands of a pipeline, given where the first reads from; answers with the pipes
between them and with how they ended. -/
def connect (self : Engine) (flags : Flags) (capacity : Nat) (input : Option Nat) :
    List Script → Sh (List Nat × List Halt)
  | [] => return ([], [])
  | c :: rest => do
    let link ← if rest.isEmpty then pure none else
      Sh.act (Act.onSystem fun s =>
        let (pipe, s) := s.newPipe { capacity := some capacity }
        let (writer, s) := s.push (.forWriting (.pipe pipe))
        let (reader, s) := s.push { target := .pipe pipe }
        (some (pipe, writer, reader), s))
    let halt ← Sh.fork do
      if let some opening := input then Sh.setStream 0 (some opening)
      if let some (_, writer, _) := link then Sh.setStream 1 (some writer)
      self.conclude (self.eval { flags with last := true } c)
    match link with
    | none => return ([], [halt])
    | some (pipe, _, reader) =>
      let (pipes, halts) ← connect self flags capacity (some reader) rest
      return (pipe :: pipes, halt :: halts)

/-- Runs a pipeline, with as much room in its pipes as it needs. -/
def pipeline (self : Engine) (flags : Flags) (commands : List Script) : List Nat → Sh Unit
  | [] => return
  | capacity :: more => do
    let before ← get
    let (pipes, halts) ← connect self flags capacity none commands
    let s ← get
    if !more.isEmpty && pipes.any fun pipe => (s.system.pipe pipe).starved then
      set before
      pipeline self flags commands more
    else
      halts.forM Sh.remark
      Sh.setStatus ((halts.getLast?.map Sh.statusOf).getD 0)

/-! ### Loops -/

/-- Does a part of a loop. What leaves the loop ends here, or only the round if the answer is that
the loop goes on. -/
def round {α : Type} (body : Sh α) : Sh (Except Bool α) := do
  match ← Sh.attempt body with
  | .ok a => return .ok a
  | .error (.loop levels again) =>
    if 1 < levels then Sh.jump (.loop (levels - 1) again) else return .error again
  | .error j => Sh.jump j

/-- Repeats a body as long as a test says so. The status is that of the last round. -/
def rounds (test : Sh Bool) (body : Sh Unit) (status : Nat) : Nat → Sh Unit
  | 0 => Sh.setStatus status
  | n + 1 => do
    match ← round test with
    | .error true => rounds test body status n
    | .error false | .ok false => Sh.setStatus status
    | .ok true =>
      let result ← round body
      let status := (← get).status
      match result with
      | .error false => Sh.setStatus status
      | _ => rounds test body status n

/-- Does something as a loop. -/
def asLoop (body : Sh Unit) : Sh Unit := do
  let depth := (← get).loops
  modify ({ · with loops := depth + 1 })
  Sh.ensuring body (modify ({ · with loops := depth }))

/-- Repeats a body for values of a variable. -/
def eachValue (name : Octets) (body : Sh Unit) : List Octets → Sh Unit
  | [] => return
  | value :: rest => do
    Sh.assign name value
    match ← round body with
    | .error false => return
    | _ => eachValue name body rest

/-! ### Scripts -/

/-- A pattern of a choice matches. -/
def anyFits (capture : Capture) (subject : Octets) : List Word → Sh Bool
  | [] => return false
  | w :: ws => do
    if Pattern.fits (← Expand.pattern capture w) subject then return true
    else anyFits capture subject ws

/-- The body of a choice. -/
def armOf (capture : Capture) (subject : Octets) : List (List Word × Script) → Sh (Option Script)
  | [] => return none
  | (patterns, body) :: rest => do
    if ← anyFits capture subject patterns then return some body else armOf capture subject rest

/-- Nothing is to be done. -/
def isNothing : Script → Bool
  | .nothing => true
  | _ => false

/-- Runs a script that nobody waits for. It has no input of its own. -/
def inBackground (self : Engine) (body : Script) : Sh Unit := do
  let pid := (← get).system.nextPid
  let halt ← Sh.fork do
    let input ← Sh.act (Act.onSystem (·.push { target := .device .null }))
    Sh.setStream 0 (some input)
    self.conclude (self.eval { last := true } body)
  modify fun s => { s with lastBackground := some pid, finished := (pid, halt) :: s.finished }
  Sh.setStatus 0

/-- Runs a script in a shell of its own, unless nothing comes after it. -/
def inSubshell (self : Engine) (flags : Flags) (body : Script) (redirects : List Redirect) :
    Sh Unit := do
  let work (flags : Flags) : Sh Unit := do
    if ← Redirection.apply self.capture redirects then self.eval flags body else Sh.jump .fault
  if flags.last && !Engine.hasTraps (← get) then work flags
  else
    let halt ← Sh.fork (self.conclude (work { flags with last := true }))
    Sh.remark halt
    Sh.setStatus (Sh.statusOf halt)

/-- Runs a script, of which the parts are run by the engine. -/
def step (self : Engine) (flags : Flags) (script : Script) : Sh Unit := do
  if (← get).settings.noExec then return
  let checks := !flags.tested
  let inner : Flags := { tested := flags.tested }
  let test : Flags := { tested := true }
  let succeeded : Sh Bool := return (← get).status == 0
  match script with
  | .nothing => return
  | .simple line assignments words redirects =>
    Command.run self flags line assignments words redirects
    settle self checks
  | .pipe commands =>
    pipeline self flags commands capacities
    settle self checks
  | .seq first second =>
    self.eval inner first
    self.eval flags second
  | .both first second =>
    self.eval test first
    if ← succeeded then self.eval flags second
  | .either first second =>
    self.eval test first
    if !(← succeeded) then self.eval flags second
  | .negated body =>
    self.eval test body
    Sh.setStatus (if ← succeeded then 1 else 0)
    settle self false
  | .background body =>
    inBackground self body
    settle self checks
  | .redirected line body redirects =>
    modify ({ · with line })
    Sh.withStreams do
      if ← Redirection.apply self.capture redirects then self.eval inner body
    settle self false
  | .nested line body redirects =>
    modify ({ · with line })
    inSubshell self flags body redirects
    settle self checks
  | .branch condition yes no =>
    self.eval test condition
    if ← succeeded then self.eval flags yes
    else if isNothing no then Sh.setStatus 0
    else self.eval flags no
  | .loop untilTrue condition body =>
    let goesOn : Sh Bool := do
      self.eval test condition
      return (← succeeded) != untilTrue
    asLoop (rounds goesOn (self.eval inner body) 0 Act.patience)
    settle self false
  | .each line name words body =>
    modify ({ · with line })
    let values ← words.flatMapM (Expand.fields self.capture)
    Sh.setStatus 0
    asLoop (eachValue name (self.eval inner body) values)
    settle self false
  | .choose line subject arms =>
    modify ({ · with line })
    let subject ← Expand.text self.capture subject
    match ← armOf self.capture subject arms with
    | some body => if isNothing body then Sh.setStatus 0 else self.eval flags body
    | none => Sh.setStatus 0
  | .define name body =>
    modify fun s => { s with
      functions := (name, body) :: s.functions.filter (·.1 != name), status := 0 }

/-- How deep scripts may call one another before the shell breaks down. -/
def deepest : Nat := 30000

/-- Runs scripts that are nested at most so deep. Beyond that the shell breaks down. -/
def engine (start : Image → List Octets → Act Nat) : Nat → Engine
  | 0 => { eval := fun _ _ => Sh.jump (.gone (.signal Signal.segmentation)), start }
  | n + 1 => { eval := fun flags script => step (engine start n) flags script, start }

end Eval

end Tandem.Host.Shell
