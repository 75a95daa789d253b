import Tandem.Host.Executable
import Tandem.Host.Shell.Builtin.Variables
import Tandem.Host.Shell.Source

/-!
# Finding commands

A command is a function, one of the shell's own commands, or a program on the search path. This
tells which, and knows about other names for commands.
-/

namespace Tandem.Host.Shell.Builtin

/-- The shell's own commands; those that end the shell when they are misused, and those whose
arguments may be assignments. -/
def special : List String :=
  [".", ":", "break", "continue", "eval", "exec", "exit", "export", "local", "readonly", "return",
    "set", "shift", "times", "trap", "unset"]

/-- The other commands of the shell itself. -/
def plain : List String :=
  ["[", "alias", "bg", "cd", "chdir", "command", "echo", "false", "fg", "getopts", "hash", "jobs",
    "kill", "printf", "pwd", "read", "test", "true", "type", "ulimit", "umask", "unalias", "wait"]

/-- Commands whose arguments may be assignments. -/
def assigning : List String :=
  ["alias", "export", "local", "readonly"]

/-- The name belongs to a list. -/
def isOneOf (names : List String) (name : Octets) : Bool :=
  names.contains (String.ofList name)

/-- What a command turned out to be. -/
inductive Found where
  | function (body : Script)
  | own
  /-- A program, by the paths at which it may be found, the most likely first. -/
  | program (paths : List Octets)
  | missing (e : Errno)

/-- The paths of a name in the directories of a search path. -/
def pathsOf (path name : Octets) : List Octets :=
  (Store.searchDirs (Octets.toBytes path)).map fun dir =>
    Octets.ofBytes (dir.join ⟨Octets.toBytes name⟩).bytes

/-- A plain file stands at a path. -/
def isPlainFile (s : State) (path : Octets) : Except Errno Bool :=
  match s.system.store.lookup s.place ⟨Octets.toBytes path⟩ with
  | .ok (_, .file ..) | .ok (_, .tool _) => .ok true
  | .ok _ => .ok false
  | .error fault => .error (System.errnoOf fault)

/-- Something that is marked to be run stands at a path. -/
def isRunnable (s : State) (path : Octets) : Except Errno Bool :=
  match s.system.store.lookup s.place ⟨Octets.toBytes path⟩ with
  | .ok (_, .file _ executable) => .ok executable
  | .ok (_, .tool _) => .ok true
  | .ok _ => .ok false
  | .error fault => .error (System.errnoOf fault)

/-- Looks for a program at paths; the error is that of the last path at which something was wrong.
-/
def searchPaths (s : State) (e : Errno) : List Octets → Found
  | [] => .missing e
  | path :: rest =>
    match isRunnable s path with
    | .ok true => .program (path :: rest)
    | .ok false => searchPaths s .denied rest
    | .error found =>
      searchPaths s (if found == .noEntry || found == .notDir then e else found) rest

/-- The search path, which a command may replace by the usual one. -/
def searchPath (s : State) (usual : Bool) : Octets :=
  if usual then Octets.ofBytes Store.usualPath else s.value "PATH"

/-- Looks for a command. -/
def find (s : State) (functions usualPath : Bool) (name : Octets) : Found :=
  if name.contains '/' then .program [name]
  else match (if functions then s.functions.lookup name else none) with
    | some body => .function body
    | none =>
      if isOneOf special name || isOneOf plain name then .own
      else searchPaths s .noEntry (pathsOf (searchPath s usualPath) name)

/-- Remembers that a command was found on the search path. -/
def remember (name : Octets) : Sh Unit :=
  modify fun s => if s.hashed.contains name then s else { s with hashed := s.hashed ++ [name] }

/-- Why a program is not found. -/
def notFound (e : Errno) : String :=
  if e == .noEntry || e == .notDir then "not found" else e.text

/-- Tells what a name stands for, in a sentence or in short; answers with the status. -/
def describe (verbose usualPath : Bool) (name : Octets) : Sh Nat := do
  let s ← get
  let sentence (text : String) : Octets := name ++ ascii text ++ ['\n']
  if Keyword.named.any fun entry => entry.1.toList == name then
    Sh.put (if verbose then sentence " is a shell keyword" else name ++ ['\n'])
    return 0
  match s.aliases.lookup name with
  | some text =>
    Sh.put (if verbose then name ++ ascii " is an alias for " ++ text ++ ['\n']
      else ascii "alias " ++ name ++ ['='] ++ quoted text ++ ['\n'])
    return 0
  | none =>
  match find s true usualPath name with
  | .function _ =>
    Sh.put (if verbose then sentence " is a shell function" else name ++ ['\n'])
    return 0
  | .own =>
    Sh.put (if !verbose then name ++ ['\n']
      else if isOneOf special name then sentence " is a special shell builtin"
      else sentence " is a shell builtin")
    return 0
  | .program (path :: _) =>
    if name.contains '/' && !((isPlainFile s path) matches .ok _) then
      if verbose then Sh.put (sentence ": not found")
      return 127
    let tracked := s.hashed.contains name
    if !name.contains '/' then remember name
    Sh.put (if !verbose then path ++ ['\n']
      else name ++ ascii (if tracked then " is a tracked alias for " else " is ") ++ path ++ ['\n'])
    return 0
  | _ =>
    if verbose then Sh.put (sentence ": not found")
    return 127

/-- Tells what names stand for. -/
def describeEach (args : List Octets) : Sh Nat := do
  let statuses ← args.mapM (describe true false)
  return statuses.foldl (· ||| ·) 0

/-- Shows or forgets the commands that were found. -/
def hash (args : List Octets) : Sh Nat := do
  let (chosen, args) ← options "rv" args
  if chosen.any (·.1 == 'r') then modify ({ · with hashed := [] })
  else if args.isEmpty then
    let s ← get
    s.hashed.forM fun name => match find s false false name with
      | .program (path :: _) => Sh.put (path ++ ['\n'])
      | _ => return
  let statuses ← args.mapM fun name => do
    match find (← get) false false name with
    | .missing e =>
      Sh.warn (name ++ ascii ": " ++ ascii (notFound e))
      return 1
    | .program _ =>
      remember name
      return 0
    | _ => return 0
  return statuses.foldl (· ||| ·) 0

/-! ### Other names -/

/-- Another name as it was given. -/
def shownAlias (entry : Octets × Octets) : Octets :=
  entry.1 ++ ['='] ++ quoted entry.2 ++ ['\n']

/-- Gives other names to commands, or shows them. -/
def setAliases (args : List Octets) : Sh Nat := do
  if args.isEmpty then
    Sh.put ((sorted (·.1) (← get).aliases).flatMap shownAlias)
    return 0
  let statuses ← args.mapM fun arg => do
    match namePart arg with
    | (name, some text) =>
      modify fun s => { s with aliases := (name, text) :: s.aliases.filter (·.1 != name) }
      return 0
    | (name, none) => match (← get).aliases.lookup name with
      | some text =>
        Sh.put (shownAlias (name, text))
        return 0
      | none =>
        Sh.say (ascii "alias: " ++ name ++ ascii " not found\n")
        return 1
  return statuses.foldl (· ||| ·) 0

/-- Takes other names away. -/
def dropAliases (args : List Octets) : Sh Nat := do
  let (chosen, args) ← options "a" args
  if !chosen.isEmpty then
    modify ({ · with aliases := [] })
    return 0
  let statuses ← args.mapM fun name => do
    let s ← get
    if (s.aliases.lookup name).isSome then
      set { s with aliases := s.aliases.filter (·.1 != name) }
      return 0
    else
      Sh.say (ascii "unalias: " ++ name ++ ascii " not found\n")
      return 1
  return statuses.foldl (· ||| ·) 0

end Tandem.Host.Shell.Builtin
