import Tandem.Fault

/-!
# Test cases

Every entry of the test directory is a case, subdirectories included; a case whose input cannot be
read fails when its turn comes. Cases are taken in the order of their names as byte strings, so
the order in which a directory happens to be listed does not matter.
-/

namespace Tandem

/-- One input, known by its name in the test directory. -/
structure TestCase where
  name : Name
  path : Path
  deriving DecidableEq, Repr

namespace TestCase

/-- The case of a name in a directory. -/
def ofName (dir : Path) (name : Name) : TestCase :=
  ⟨name, dir.join ⟨name⟩⟩

/-- The name as it is shown. -/
def display (c : TestCase) : String :=
  Utf8.lossy c.name

/-- The name of the file that holds an output of the case. -/
def outputName (c : TestCase) : Name :=
  c.name ++ Utf8.encode ".out"

/-- The file for an output of the case in a directory. -/
def outputIn (c : TestCase) (dir : Path) : Path :=
  dir.join ⟨c.outputName⟩

/-- The two cases have the same name, byte for byte, and the same path. -/
def same (c d : TestCase) : Bool :=
  c.name == d.name && c.path.same d.path

end TestCase

/-- What listing a directory yields: a fault, or the entries one by one, each of which may fail. -/
abbrev Listing := Except Fault (List (Except Fault Name))

/-- `a` comes before `b`, or they are equal, in the order of unsigned bytes. -/
def Name.le : Name → Name → Bool
  | [], _ => true
  | _ :: _, [] => false
  | a :: as, b :: bs => a < b || (a == b && Name.le as bs)

/-- The names of a listing, or the first fault in it. -/
def Listing.names (listing : Listing) : Except Fault (List Name) :=
  listing.bind fun entries => entries.mapM id

/-- The cases of a test directory in ascending order, from its listing. -/
def TestCase.discover (dir : Path) (listing : Listing) : Except RunError (List TestCase) :=
  match listing.names with
  | .ok names => .ok ((names.mergeSort Name.le).map (TestCase.ofName dir))
  | .error fault => .error (.discovery dir fault)

end Tandem
