import Tandem.Host.Shell.Builtin.Variables

/-!
# Commands about processes

Leaving loops, functions and the shell, sending signals and setting traps for them, and waiting for
processes.
-/

namespace Tandem.Host.Shell.Builtin

/-- Leaves loops, or goes on with the next round. Outside of all loops it does nothing. -/
def leaveLoops (again : Bool) (args : List Octets) : Sh Nat := do
  let levels ← match args with
    | arg :: _ => do
      let n ← number arg
      if n = 0 then badNumber arg else pure n
    | [] => pure 1
  let depth := (← get).loops
  Sh.setStatus 0
  if depth = 0 then return 0 else Sh.jump (.loop (min levels depth) again)

/-- Leaves a function or a file of commands. -/
def leaveFunction (args : List Octets) : Sh Nat := do
  if let arg :: _ := args then Sh.setStatus (← number arg)
  Sh.jump .return

/-- Leaves the shell. -/
def leave (args : List Octets) : Sh Nat := do
  match args with
  | arg :: _ =>
    let n ← number arg
    Sh.setStatus n
  | [] =>
    if let some n := (← get).untrapped then Sh.setStatus n
  Sh.jump .exit

/-! ### Signals -/

/-- The signal of a number or a name. -/
def signal? (arg : Octets) : Option Nat :=
  match Octets.number? arg with
  | some n => if n ≤ Signal.greatest then some n else none
  | none => Signal.ofName? arg

/-- How signals are sent. -/
def killUsage {α : Type} : Sh α :=
  Sh.fail (ascii "Usage: kill [-s sigspec | -signum | -sigspec] [pid | job]... or\n" ++
    ascii "kill -l [exitstatus]")

/-- The names of all signals. -/
def signalNames : Octets :=
  ascii "0\n" ++ (List.range Signal.greatest).flatMap fun n => ascii (Signal.name (n + 1)) ++ ['\n']

/-- The name of the signal behind a number or a status. -/
def signalName (arg : Octets) : Sh Octets := do
  let n ← number arg
  let n := if 128 < n then n - 128 else n
  if n = 0 || Signal.greatest < n then
    Sh.fail (ascii "invalid signal number or exit status: " ++ arg)
  return ascii (Signal.name n) ++ ['\n']

/-- Sends a signal to a process; answers with whether there is one. -/
def sendTo (signal : Nat) (arg : Octets) : Sh Bool := do
  let pid ← match arg with
    | '%' :: _ => Sh.fail (ascii "No such job: " ++ arg)
    | '-' :: digits => number digits
    | _ => number arg
  let s ← get
  if pid = s.pid || pid = 0 then
    Sh.receive signal
    return true
  else if pid = s.main || pid = s.parent then
    set { s with system := s.system.send pid signal }
    return true
  else if s.finished.any (·.1 == pid) then return true
  else
    Sh.warn (ascii Errno.noProcess.text ++ ['\n'])
    return false

/-- Sends signals, or names them. -/
def kill (args : List Octets) : Sh Nat := do
  let (signal, list, targets) ← match args with
    | [] => killUsage
    | ('-' :: name) :: rest =>
      match signal? name with
      | some n => pure (some n, false, rest)
      | none => do
        let (chosen, rest) ← options "ls:" args
        let named ← chosen.filterMapM fun (c, value) => do
          if c != 's' then return none
          match signal? value with
          | some n => return some n
          | none => Sh.fail (ascii "invalid signal number or name: " ++ value)
        pure (named.getLast?, chosen.any (·.1 == 'l'), rest)
    | args => pure (none, false, args)
  if list then
    if signal.isSome then killUsage
    match targets with
    | [] => Sh.put signalNames
    | arg :: _ => Sh.put (← signalName arg)
    return 0
  else
    if targets.isEmpty then killUsage
    let sent ← targets.mapM (sendTo (signal.getD Signal.terminate))
    return if sent.all id then 0 else 1

/-- The signal that a trap can be set for; the end of the shell is one. -/
def trapSignal? (arg : Octets) : Option Nat :=
  if String.ofList (arg.map Char.toUpper) == "EXIT" then some 0 else signal? arg

/-- The traps that are set. -/
def trapTable (s : State) : Octets :=
  (List.range (Signal.greatest + 1)).flatMap fun n => match s.traps.lookup n with
    | some action => ascii "trap -- " ++ quoted action ++ [' '] ++
        ascii (if n = 0 then "EXIT" else Signal.name n) ++ ['\n']
    | none => []

/-- Sets one trap after the other. -/
def setTraps (action : Option Octets) : List Octets → Sh Nat
  | [] => return 0
  | arg :: rest => do
    match trapSignal? arg with
    | none =>
      Sh.say (ascii "trap: " ++ arg ++ ascii ": bad trap\n")
      return 1
    | some n =>
      modify fun s =>
        let others := s.traps.filter (·.1 != n)
        { s with traps := match action with
          | some text => (n, text) :: others
          | none => others }
      setTraps action rest

/-- Sets traps, takes them back or shows them. -/
def trap (args : List Octets) : Sh Nat := do
  let (_, args) ← options "" args
  match args with
  | [] =>
    Sh.put (trapTable (← get))
    return 0
  | [arg] => setTraps none [arg]
  | action :: rest =>
    if (Octets.number? action).any (· ≤ Signal.greatest) then setTraps none args
    else setTraps (if action = ['-'] then none else some action) rest

/-! ### Waiting and limits -/

/-- Waits for processes; the status is that of the last one. -/
def wait (args : List Octets) : Sh Nat := do
  let (_, args) ← options "" args
  let s ← get
  let statuses ← args.mapM fun arg => do
    let pid ← match arg with
      | '%' :: _ => Sh.fail (ascii "No such job: " ++ arg)
      | _ => number arg
    match s.finished.lookup pid with
    | some h =>
      Sh.remark h
      return Sh.statusOf h
    | none => return 127
  return statuses.getLast?.getD 0

/-- The rights in three bits. -/
def rights (bits : Nat) : Octets :=
  (if bits / 4 % 2 = 0 then ['r'] else []) ++ (if bits / 2 % 2 = 0 then ['w'] else []) ++
    (if bits % 2 = 0 then ['x'] else [])

/-- Shows or sets the rights that new files do not get. -/
def fileMask (args : List Octets) : Sh Nat := do
  let (chosen, args) ← options "S" args
  let mask := (← get).mask
  match args with
  | [] =>
    if chosen.isEmpty then
      let digits := Nat.toDigits 8 mask
      Sh.put (List.replicate (4 - digits.length) '0' ++ digits ++ ['\n'])
    else
      Sh.put (ascii "u=" ++ rights (mask / 64) ++ ascii ",g=" ++ rights (mask / 8) ++
        ascii ",o=" ++ rights mask ++ ['\n'])
  | arg :: _ =>
    if arg.head?.any Char.isDigit then
      if !arg.all (fun c => '0' ≤ c && c ≤ '7') then badNumber arg
      modify ({ · with mask := arg.foldl (fun n c => 8 * n + (c.toNat - '0'.toNat)) 0 % 512 })
    else if !arg.all fun c => "ugoarwxXst+-=,".toList.contains c then
      Sh.fail (ascii "Illegal mode: " ++ arg)
  return 0

/-- Shows how much time was used, which is none that counts. -/
def times (_ : List Octets) : Sh Nat := do
  let none := ascii "0m0.000000s 0m0.000000s\n"
  Sh.put (none ++ none)
  return 0

/-- Shows a limit; there are none. -/
def limits (args : List Octets) : Sh Nat := do
  let (_, args) ← options "HSatfdsmcnpvwrl" args
  if args.isEmpty then Sh.put (ascii "unlimited\n")
  return 0

end Tandem.Host.Shell.Builtin
