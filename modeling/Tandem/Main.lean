import Tandem.Host.Snapshot
import Tandem.Program

/-!
# The command line

Takes the working directory and the test directory into a store, makes one run on it, prints what
the run says, and brings the disk up to date. Symbolic links on the disk are not taken along.
-/

namespace Tandem.Main

open Host

/-- How deep directories may be nested. -/
def deepest : Nat := 64

/-- A place as the text of an absolute path. -/
def pathText (place : Place) : String :=
  (Store.pathOf place).display

/-- Takes everything below a directory of the disk into a store. -/
def take : (depth : Nat) → Place → Store → IO Store
  | 0, _, store => pure store
  | depth + 1, place, store => do
    let mut store := store
    let dir := (← IO.currentDir) / pathText place
    for entry in ← dir.readDir do
      let next := place ++ [Utf8.encode entry.fileName]
      match (← entry.path.symlinkMetadata).type with
      | .dir => store ← take depth next (store.put next .dir)
      | .file =>
        store := store.takeFile next (← IO.FS.readBinFile entry.path)
      | _ => pure ()
    return store

/-- Does one thing to the disk. -/
def perform : Chore → IO Unit
  | .makeDir place => IO.FS.createDirAll (pathText place)
  | .write place data => IO.FS.writeBinFile (pathText place) ⟨data.toArray⟩
  | .removeFile place => IO.FS.removeFile (pathText place)
  | .removeDir place => IO.FS.removeDir (pathText place)

/-- The variables that the program looks at. -/
def variableNames : List String :=
  Program.logVariable ::
    [Setting.reference, .candidate, .diff, .expectedDir, .resultsDir].map Setting.variableName

/-- The environment of this process. -/
def environment : IO Environment :=
  variableNames.filterMapM fun name => do
    return (← IO.getEnv name).map fun value => (name, Utf8.encode value)

/-- The store of this process: its working directory, and the test directory if it is elsewhere. -/
def surroundings (here : Place) (args : List Bytes) : IO Store := do
  let store ← take deepest here (Store.fresh.withDirs here)
  match CommandLine.parse args with
  | .ok dir =>
    if dir.isAbsolute && (store.lookup here dir).toOption.isNone then
      let place := Store.steps dir
      if ← ((← IO.currentDir) / pathText place).isDir then
        take deepest place (store.withDirs place)
      else return store
    else return store
  | .error _ => return store

/-- One run, from arguments to exit code. -/
def run (args : List String) : IO UInt32 := do
  let args := args.map Utf8.encode
  let here := Store.steps (Path.ofString (← IO.currentDir).toString)
  let before ← surroundings here args
  let stamp := Nat.repr (← IO.monoMsNow) ++ "ms"
  let world := { World.ofStore before with place := here, environment := ← environment }
  let ending := Program.run stamp args world
  (← IO.getStdout).write ⟨ending.stdout.toArray⟩
  (← IO.getStderr).write ⟨ending.stderr.toArray⟩
  (before.chores ending.store).forM perform
  return ending.exitCode.code.toNat.toUInt32

end Tandem.Main

/-- The program. -/
def main (args : List String) : IO UInt32 :=
  Tandem.Main.run args
