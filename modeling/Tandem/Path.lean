import Tandem.Text.Utf8

/-!
# Paths

A path is a byte string. Two notions live side by side. *Text*: joining works on the bytes and
keeps what it is given, repeated slashes included. *Components*: two paths are the same if they
have the same components, and the components forget repeated slashes, trailing slashes and every
`.` that does not stand first in a relative path.
-/

namespace Tandem

/-- A path, byte for byte as it was given. -/
structure Path where
  bytes : Bytes
  deriving DecidableEq, Repr, Inhabited

/-- A name inside a directory. -/
abbrev Name := Bytes

namespace Path

/-- The byte `/`. -/
def slash : UInt8 := 0x2F

/-- The name `.`, the directory itself. -/
def here : Name := [0x2E]

/-- The name `..`, the directory above. -/
def above : Name := [0x2E, 0x2E]

/-- The path spelled by a text. -/
def ofString (s : String) : Path :=
  ⟨Utf8.encode s⟩

/-- How a path is shown to a person. -/
def display (p : Path) : String :=
  Utf8.lossy p.bytes

/-- The path starts at the root. -/
def isAbsolute (p : Path) : Bool :=
  p.bytes.head? == some slash

/-- The path ends in a slash. -/
def endsInSlash (p : Path) : Bool :=
  p.bytes.getLast? == some slash

/-- `q` read from the directory `p`: an absolute `q` stands for itself, and otherwise one slash
divides the two unless `p` is empty or already ends in one. -/
def join (p q : Path) : Path :=
  if q.isAbsolute then q
  else if p.bytes.isEmpty || p.endsInSlash then ⟨p.bytes ++ q.bytes⟩
  else ⟨p.bytes ++ slash :: q.bytes⟩

/-! ### Components -/

/-- One step of a path. -/
inductive Component where
  | root
  | here
  | above
  | entry (name : Name)
  deriving DecidableEq, Repr

/-- The bytes between slashes. -/
def pieces : Bytes → List Bytes
  | [] => [[]]
  | b :: bs =>
    if b = slash then [] :: pieces bs
    else match pieces bs with
      | piece :: more => (b :: piece) :: more
      | [] => [[b]]

/-- The component that a piece stands for when it is not the first of a relative path. -/
def Component.ofPiece? (piece : Bytes) : Option Component :=
  if piece = [] || piece = Path.here then none
  else if piece = Path.above then some .above
  else some (.entry piece)

/-- The components of a path. -/
def components (p : Path) : List Component :=
  let ps := pieces p.bytes
  let later := ps.filterMap Component.ofPiece?
  if p.isAbsolute then .root :: later
  else if ps.head? = some Path.here then .here :: later
  else later

/-- The two paths have the same components. -/
def same (p q : Path) : Bool :=
  p.components == q.components

/-- The name of a component inside its directory. -/
def Component.name : Component → Name
  | .root => []
  | .here => Path.here
  | .above => Path.above
  | .entry n => n

/-- The last component, if it is a plain name. -/
def fileName? (p : Path) : Option Name :=
  match p.components.getLast? with
  | some (.entry n) => some n
  | _ => none

/-- The path spelled by a list of components. -/
def ofComponents (cs : List Component) : Path :=
  cs.foldl (fun p c => if c = .root then ⟨[slash]⟩ else p.join ⟨c.name⟩) ⟨[]⟩

end Path

end Tandem
