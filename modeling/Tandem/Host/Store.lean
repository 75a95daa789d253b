import Tandem.Fault
import Tandem.TestCase

/-!
# The file store

A store says what stands at each place: a file, a directory, a symbolic link, a device or one of
the programs that every host has. A place is the list of names that leads to it from the root.
Paths are resolved the way an operating system does it: name by name, through `.` and `..`, and
through symbolic links, of which only so many may be met on one way.

What a file holds is kept apart from the place where it stands, under a number, so that a file can
still be read and written by those who opened it before its place was taken away.
-/

namespace Tandem.Host

/-- The way from the root to a place. -/
abbrev Place := List Name

/-- Programs that stand on the search path of every host. -/
inductive Tool where
  | sh
  | cat
  | cmp
  | echo
  | falseTool
  | head
  | printf
  | rm
  | sort
  | tr
  | trueTool
  | wc
  deriving DecidableEq, Repr

/-- The tools by the names they are called by. -/
def Tool.named : List (String × Tool) :=
  [("sh", .sh), ("cat", .cat), ("cmp", .cmp), ("echo", .echo), ("false", .falseTool),
    ("head", .head), ("printf", .printf), ("rm", .rm), ("sort", .sort), ("tr", .tr),
    ("true", .trueTool), ("wc", .wc)]

/-- Devices that every host has. -/
inductive Device where
  /-- Takes everything and gives nothing. -/
  | null
  /-- Takes everything and gives zero bytes for ever. -/
  | zero
  /-- Gives zero bytes for ever and has no room for anything. -/
  | full
  /-- Another name of the stream with a number, whoever opens it. -/
  | stream (number : Nat)
  deriving DecidableEq, Repr

/-- The devices by their names. -/
def Device.named : List (String × Device) :=
  [("null", .null), ("zero", .zero), ("full", .full), ("stdin", .stream 0), ("stdout", .stream 1),
    ("stderr", .stream 2)]

/-- What stands at a place. -/
inductive Node where
  | file (id : Nat) (executable : Bool)
  | dir
  | link (target : Path)
  | device (d : Device)
  | tool (t : Tool)
  deriving DecidableEq, Repr

/-- Everything that stands somewhere, and what the files hold, by their numbers. The root is a
directory without being listed. -/
structure Store where
  nodes : List (Place × Node) := []
  files : Array ByteArray := #[]

namespace Store

/-- What stands at a place. -/
def get? (s : Store) (place : Place) : Option Node :=
  if place.isEmpty then some .dir else s.nodes.lookup place

/-- What the file with a number holds. -/
def data (s : Store) (id : Nat) : ByteArray :=
  s.files.getD id .empty

/-- Changes what the file with a number holds. -/
def modify (s : Store) (id : Nat) (f : ByteArray → ByteArray) : Store :=
  { s with files := s.files.modify id f }

/-- Replaces what stands at a place, keeping the order of what is listed, or lists it last. -/
def putIn (place : Place) (node : Node) : List (Place × Node) → List (Place × Node)
  | [] => [(place, node)]
  | (p, n) :: rest => if p = place then (p, node) :: rest else (p, n) :: putIn place node rest

/-- Puts a node at a place. -/
def put (s : Store) (place : Place) (node : Node) : Store :=
  { s with nodes := putIn place node s.nodes }

/-- Puts a new file at a place; answers with its number. -/
def putFile (s : Store) (place : Place) (data : ByteArray) (executable : Bool) : Nat × Store :=
  let id := s.files.size
  (id, { s with files := s.files.push data }.put place (.file id executable))

/-- Removes what stands at a place and everything below it. -/
def erase (s : Store) (place : Place) : Store :=
  { s with nodes := s.nodes.filter fun entry => !place.isPrefixOf entry.1 }

/-- The names in a directory. -/
def names (s : Store) (place : Place) : List Name :=
  s.nodes.filterMap fun entry =>
    if entry.1.dropLast = place then entry.1.getLast? else none

/-! ### Resolving paths -/

/-- Where a path leads. -/
inductive Found where
  /-- To something. -/
  | node (place : Place) (node : Node)
  /-- To a name that is free, in a directory that exists. A slash after the name asks for a
  directory. -/
  | vacant (dir : Place) (name : Name) (slash : Bool)
  deriving DecidableEq, Repr

/-- The longest name that a directory can hold. -/
def longestName : Nat := 255

/-- The longest path that can be resolved. -/
def longestPath : Nat := 4095

/-- How many symbolic links may be met on one way. -/
def mostLinks : Nat := 40

/-- The empty name, which stands for a slash at the end of a path. -/
def slashName : Name := []

/-- The names along a path; a slash at the end asks for the directory itself. -/
def steps (p : Path) : List Name :=
  let names := (Path.pieces p.bytes).filter (!·.isEmpty)
  if p.endsInSlash then names ++ [slashName] else names

/-- What a path is resolved for. -/
inductive Purpose where
  /-- For what stands there, through a link at the very end. -/
  | follow
  /-- For what stands there, be it a link. -/
  | keep
  /-- For a file that may have to be created. A slash after its name is refused at once. -/
  | create
  deriving DecidableEq, Repr

/-- Follows names from a directory on. -/
def walk (s : Store) (purpose : Purpose) (links : Nat) (place : Place) :
    List Name → Except Errno Found
  | [] => if (s.get? place).isSome then .ok (.node place .dir) else .error .noEntry
  | name :: rest =>
    if name = Path.here || name = slashName then walk s purpose links place rest
    else if name = Path.above then walk s purpose links place.dropLast rest
    else if purpose = .create && rest = [slashName] then .error .isDir
    else if longestName < name.length then .error .tooLong
    else
      let next := place ++ [name]
      match s.get? next with
      | none =>
        if (rest.isEmpty || rest = [slashName]) && (s.get? place).isSome then
          .ok (.vacant place name !rest.isEmpty)
        else .error .noEntry
      | some .dir => walk s purpose links next rest
      | some (.link target) =>
        if rest.isEmpty && purpose = .keep then .ok (.node next (.link target))
        else match links with
          | 0 => .error .tooManyLinks
          | links + 1 =>
            walk s purpose links (if target.isAbsolute then [] else place) (steps target ++ rest)
      | some node => if rest.isEmpty then .ok (.node next node) else .error .notDir
termination_by names => (links, names.length)

/-- Where a path leads, by following names from the root or from a directory. -/
def locate (s : Store) (base : Place) (purpose : Purpose) (p : Path) : Except Fault Found :=
  if p.bytes.contains 0 then .error .nulInPath
  else if p.bytes.isEmpty then .error (.os .noEntry)
  else if longestPath < p.bytes.length then .error (.os .tooLong)
  else (s.walk purpose mostLinks (if p.isAbsolute then [] else base) (steps p)).mapError .os

/-- What a path leads to through all links. -/
def lookup (s : Store) (base : Place) (p : Path) : Except Fault (Place × Node) :=
  match s.locate base .follow p with
  | .ok (.node place node) => .ok (place, node)
  | .ok (.vacant ..) => .error (.os .noEntry)
  | .error fault => .error fault

/-- The path without the slashes at its end, unless there is nothing else. -/
def unslashed (p : Path) : Path :=
  let bytes := (p.bytes.reverse.dropWhile (· == Path.slash)).reverse
  if bytes.isEmpty then p else ⟨bytes⟩

/-! ### Operations -/

/-- Tells whether a path leads to a directory. -/
def isDir (s : Store) (base : Place) (p : Path) : Except Fault Bool :=
  (s.lookup base p).map fun (_, node) => node == .dir

/-- What is read from a node. A device that never ends reads as empty. -/
def contents (s : Store) : Node → Except Fault Bytes
  | .file id _ => .ok (s.data id).toList
  | .dir => .error (.os .isDir)
  | _ => .ok []

/-- The contents of the file that a path leads to. -/
def read (s : Store) (base : Place) (p : Path) : Except Fault Bytes :=
  (s.lookup base p).bind fun (_, node) => s.contents node

/-- The names in the directory that a path leads to. -/
def list (s : Store) (base : Place) (p : Path) : Listing :=
  match s.lookup base p with
  | .ok (place, .dir) => .ok ((s.names place).map .ok)
  | .ok _ => .error (.os .notDir)
  | .error fault => .error fault

/-- The place of the file that a path leads to. A file that is not there is created. -/
def create (s : Store) (base : Place) (p : Path) : Except Fault (Place × Node × Store) :=
  match s.locate base .create p with
  | .ok (.node _ .dir) | .ok (.vacant _ _ true) => .error (.os .isDir)
  | .ok (.node place node) => .ok (place, node, s)
  | .ok (.vacant dir name false) =>
    let place := dir ++ [name]
    let (id, s) := s.putFile place .empty false
    .ok (place, .file id false, s)
  | .error fault => .error fault

/-- Writes a whole file, executable or not. -/
def write (s : Store) (base : Place) (p : Path) (data : Bytes) (executable : Bool) :
    Store × Except Fault Unit :=
  match s.create base p with
  | .ok (place, .file id _, s) =>
    ((s.modify id fun _ => ⟨data.toArray⟩).put place (.file id executable), .ok ())
  | .ok (_, .device .full, s) =>
    (s, if data.isEmpty then .ok () else .error (.os .noSpace))
  | .ok (_, _, s) => (s, .ok ())
  | .error fault => (s, .error fault)

/-- Makes one directory. -/
def makeDir (s : Store) (base : Place) (p : Path) : Except Fault Store :=
  match s.locate base .keep (unslashed p) with
  | .ok (.node ..) => .error (.os .exist)
  | .ok (.vacant dir name _) => .ok (s.put (dir ++ [name]) .dir)
  | .error fault => .error fault

/-- A path leads to a directory. -/
def hasDir (s : Store) (base : Place) (p : Path) : Bool :=
  match s.isDir base p with
  | .ok b => b
  | .error _ => false

/-- Makes one directory, content with one that is already there. -/
def makeOrKeepDir (s : Store) (base : Place) (p : Path) : Store × Except Fault Unit :=
  match s.makeDir base p with
  | .ok s => (s, .ok ())
  | .error fault => (s, if s.hasDir base p then .ok () else .error fault)

/-- Makes the first directory of a list whose later members are the directories above it. The
directories above are made only if they are missed. -/
def makeDirs (s : Store) (base : Place) : List Path → Store × Except Fault Unit
  | [] => (s, .error (.other "failed to create whole tree"))
  | p :: above =>
    if p.bytes.isEmpty then (s, .ok ())
    else match s.makeOrKeepDir base p with
      | (s, .error fault) =>
        if fault.isMissing then
          match s.makeDirs base above with
          | (s, .ok ()) => s.makeOrKeepDir base p
          | failed => failed
        else (s, .error fault)
      | done => done

/-- The directories above a path, the nearest first. -/
def above (p : Path) : List Path :=
  let cs := p.components
  let fewest := if p.isAbsolute then 1 else 0
  ((List.range cs.length).reverse.filter (fewest ≤ ·)).map fun n => Path.ofComponents (cs.take n)

/-- Makes a directory and those above it that are missing; a directory that is there is fine. -/
def ensureDir (s : Store) (base : Place) (p : Path) : Store × Except Fault Unit :=
  s.makeDirs base (p :: above p)

/-- Makes a symbolic link. A slash at the end of its path is refused where nothing stands yet. -/
def link (s : Store) (base : Place) (p target : Path) : Store × Except Fault Unit :=
  if target.bytes.contains 0 || p.bytes.contains 0 then (s, .error .nulInPath)
  else if target.bytes.isEmpty then (s, .error (.os .noEntry))
  else if longestPath < target.bytes.length then (s, .error (.os .tooLong))
  else match s.locate base .keep (unslashed p) with
    | .ok (.node ..) => (s, .error (.os .exist))
    | .ok (.vacant dir name _) =>
      if p.endsInSlash then (s, .error (.os .noEntry))
      else (s.put (dir ++ [name]) (.link target), .ok ())
    | .error fault => (s, .error fault)

/-- Removes everything below a place. -/
def clear (s : Store) (place : Place) : Store :=
  { s with nodes := s.nodes.filter fun entry => entry.1 = place || !place.isPrefixOf entry.1 }

/-- Why an empty directory cannot be removed by a path that leads to it, if it cannot: the path has
to end in its name, and a link in its place is no directory. -/
def keeps? (s : Store) (base : Place) (p : Path) : Option Errno :=
  match ((steps p).filter (· != slashName)).getLast? with
  | none => some .busy
  | some name =>
    if name = Path.here then some .invalid
    else if name = Path.above then some .notEmpty
    else match s.locate base .keep (unslashed p) with
      | .ok (.node _ (.link _)) => some .notDir
      | _ => none

/-- Removes the name at the end of a path, which must not be that of a directory. A slash after the
name asks for one, so nothing that has the name will do then. -/
def unlink (s : Store) (base : Place) (p : Path) : Store × Except Fault Unit :=
  match s.locate base .keep (unslashed p) with
  | .ok (.node place _) =>
    if p.endsInSlash then (s, .error (.os .notDir)) else (s.erase place, .ok ())
  | .ok (.vacant ..) => (s, .error (.os .noEntry))
  | .error fault => (s, .error fault)

/-- Removes what a path leads to, and a directory with everything in it. A link at the end of the
path is removed itself. A directory that has to stay is empty afterwards, and one that the path does
not lead to any more without its contents counts as removed. -/
def remove (s : Store) (base : Place) (p : Path) : Store × Except Fault Unit :=
  match s.locate base .keep p with
  | .ok (.node place .dir) =>
    let s := s.clear place
    match s.lookup base p, s.keeps? base p with
    | .error _, _ => (s, .ok ())
    | .ok _, some e => (s, .error (.os e))
    | .ok _, none => (s.erase place, .ok ())
  | _ => s.unlink base p

/-- A place as a path from another one, directories with a slash and links with `@` at the end. -/
def shown (place : Place) (node : Node) : Bytes :=
  (List.intersperse [Path.slash] place).flatten ++ match node with
    | .dir => [Path.slash]
    | .link _ => [0x40]
    | _ => []

/-- Everything below a place, in ascending order. -/
def tree (s : Store) (base : Place) : List Bytes :=
  let below := s.nodes.filterMap fun (place, node) =>
    if base.isPrefixOf place && place != base then
      some (shown (place.drop base.length) node)
    else none
  below.mergeSort Name.le

/-- The directory that a session starts in. -/
def workPlace : Place := [Utf8.encode "tmp", Utf8.encode "work"]

/-- The store of a host with nothing but its tools and devices, and an empty directory. -/
def fresh : Store :=
  let name (s : String) : Name := Utf8.encode s
  let bin := [name "usr", name "bin"]
  let tools := Tool.named.map fun (n, t) => (bin ++ [name n], Node.tool t)
  let devices := Device.named.map fun (n, d) => ([name "dev", name n], Node.device d)
  { nodes := [([name "usr"], .dir), (bin, .dir), ([name "bin"], .link (Path.ofString "usr/bin")),
      ([name "dev"], .dir), ([name "root"], .dir), ([name "tmp"], .dir), (workPlace, .dir)] ++
      tools ++ devices }

end Store

end Tandem.Host
