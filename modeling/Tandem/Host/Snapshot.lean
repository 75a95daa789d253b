import Tandem.Host.Executable

/-!
# Snapshots of a disk

A store can stand for a part of a real disk: what is found there is put into the store, and after a
run the disk is brought up to date by the *chores* that tell the two stores apart.
-/

namespace Tandem.Host

/-- Something to be done to a disk. -/
inductive Chore where
  | makeDir (place : Place)
  | write (place : Place) (data : Bytes)
  | removeFile (place : Place)
  | removeDir (place : Place)
  deriving DecidableEq, Repr

namespace Store

/-- Puts a directory at a place and at every place on the way to it. -/
def withDirs (s : Store) (place : Place) : Store :=
  (List.range (place.length + 1)).tail.foldl (fun s n => s.put (place.take n) .dir) s

/-- Takes in a file as it is found on a disk: it can be run if it names its interpreter. -/
def takeFile (s : Store) (place : Place) (data : ByteArray) : Store :=
  (s.putFile place data (Interpreter.ofData? data).isSome).2

/-- What the file at a place holds, if one stands there. -/
def fileData? (s : Store) (place : Place) : Option Bytes :=
  match s.get? place with
  | some (.file id _) => some (s.data id).toList
  | _ => none

/-- What has to be made or written to turn `before` into `after`. -/
def additions (before after : Store) : List Chore :=
  after.nodes.filterMap fun (place, node) =>
    match node with
    | .dir => if before.get? place = some .dir then none else some (.makeDir place)
    | .file id _ =>
      let data := (after.data id).toList
      if before.fileData? place = some data then none else some (.write place data)
    | _ => none

/-- What has to be removed to turn `before` into `after`, the innermost first. -/
def removals (before after : Store) : List Chore :=
  before.nodes.reverse.filterMap fun (place, node) =>
    if (after.get? place).isSome then none
    else match node with
      | .dir => some (.removeDir place)
      | .file .. => some (.removeFile place)
      | _ => none

/-- What has to be done to turn `before` into `after`. -/
def chores (before after : Store) : List Chore :=
  removals before after ++ additions before after

/-- A place as an absolute path. -/
def pathOf (place : Place) : Path :=
  ⟨place.flatMap (Path.slash :: ·)⟩

end Store

end Tandem.Host
