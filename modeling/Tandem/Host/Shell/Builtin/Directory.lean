import Tandem.Host.Executable
import Tandem.Host.Shell.Builtin.Variables

/-!
# Commands about the working directory

The shell knows the path by which it came to its directory. A path that goes up from there goes back
on that very path, whatever links it went through.
-/

namespace Tandem.Host.Shell.Builtin

/-- A place as a path. -/
def pathOf (place : Place) : Octets :=
  if place.isEmpty then ['/'] else place.flatMap fun name => '/' :: Octets.ofBytes name

/-- The names between slashes. -/
def namesIn (cs : Octets) : List Octets :=
  (cs.splitBy fun a b => (a == '/') == (b == '/')).filter fun piece => piece.head? != some '/'

/-- The path that one comes to from a directory, by going back over names at `..`. -/
def logicalPath (directory dest : Octets) : Octets :=
  let isAbsolute := dest.head? == some '/'
  let twoSlashes (cs : Octets) : Bool := match cs with
    | '/' :: '/' :: '/' :: _ => false
    | '/' :: '/' :: _ => true
    | _ => false
  let root := if twoSlashes (if isAbsolute then dest else directory) then ['/', '/'] else ['/']
  let start := if isAbsolute then [] else namesIn directory
  let names := (namesIn dest).foldl (fun (names : List Octets) name =>
    if name = ['.', '.'] then names.dropLast
    else if name = ['.'] then names
    else names ++ [name]) start
  root ++ (List.intersperse ['/'] names).flatten

/-- The directory that a path leads to. -/
def directoryAt (s : State) (path : Octets) : Option Place :=
  match s.system.store.lookup s.place ⟨Octets.toBytes path⟩ with
  | .ok (place, .dir) => some place
  | _ => none

/-- Moves the shell to a directory; answers with whether it is there. -/
def moveTo (physical : Bool) (dest : Octets) : Sh Bool := do
  let s ← get
  let logical := logicalPath s.directory dest
  match directoryAt s (if physical then dest else logical) with
  | none => return false
  | some place =>
    let old := s.directory
    let new := if physical then pathOf place else logical
    set { s with place, directory := new }
    Sh.assignExported (ascii "OLDPWD") old
    Sh.assignExported (ascii "PWD") new
    return true

/-- A directory that no search path is needed for. -/
def standsAlone (dest : Octets) : Bool :=
  match dest with
  | '/' :: _ => true
  | ['.'] | ['.', '.'] | '.' :: '/' :: _ | '.' :: '.' :: '/' :: _ => true
  | _ => false

/-- Changes the working directory. -/
def changeDirectory (args : List Octets) : Sh Nat := do
  let (chosen, args) ← options "LP" args
  let physical := (chosen.getLast?.map (·.1)) == some 'P'
  let s ← get
  let (dest, back) := match args with
    | ['-'] :: _ => (s.value "OLDPWD", true)
    | dest :: _ => (dest, false)
    | [] => (s.value "HOME", false)
  let shown := dest
  let (dest, found) :=
    if standsAlone dest then (dest, false)
    else
      let dest := if dest.isEmpty then ['.'] else dest
      let dirs := Store.searchDirs (Octets.toBytes (s.value "CDPATH"))
      let tries := dirs.map fun dir =>
        (Octets.ofBytes (dir.join ⟨Octets.toBytes dest⟩).bytes, !dir.bytes.isEmpty)
      (tries.find? fun (path, _) => (directoryAt s path).isSome).getD (dest, false)
  if ← moveTo physical dest then
    if back || found then Sh.put ((← get).directory ++ ['\n'])
    return 0
  else Sh.fail (ascii "can't cd to " ++ shown)

/-- Prints the working directory. -/
def printDirectory (args : List Octets) : Sh Nat := do
  let (chosen, _) ← options "LP" args
  let s ← get
  let real := chosen.getLast?.any (·.1 == 'P')
  Sh.put ((if real then pathOf s.place else s.directory) ++ ['\n'])
  return 0

end Tandem.Host.Shell.Builtin
