import Tandem.CommandLine
import Tandem.Host.World

/-!
# The program

The program reads its arguments and its environment, makes one run and ends. Differences and failing
cases do not change its exit code; only an error that ends the run early does, and so do arguments
that make no sense.
-/

namespace Tandem

/-- The code that the program ends with. -/
structure ExitCode where
  code : Int
  deriving DecidableEq, Repr

namespace ExitCode

/-- All is well. -/
def success : ExitCode := ⟨0⟩

/-- Something ended the run early. -/
def failure : ExitCode := ⟨1⟩

end ExitCode

/-- Why the program ends early: what it says, and its exit code. -/
structure Failure where
  message : String
  exitCode : ExitCode := .failure
  deriving DecidableEq, Repr

namespace Program

open Host

/-- The variables that hold text. -/
def textual (environment : Environment) : Env :=
  fun name => (environment.lookup name).bind Utf8.decode?

/-- The variable that holds the log filter. -/
def logVariable : String := "RUST_LOG"

/-- What the program leaves behind. -/
structure Ending where
  exitCode : ExitCode
  stdout : Bytes
  stderr : Bytes
  store : Store

/-- What a diagnostic looks like. -/
def shown (filter : Filter) (stamp : String) (testDir : Path) : Diagnostic → Bytes
  | .note n => ((n.line? filter stamp testDir).map Utf8.encode).getD []
  | .text bs => bs

/-- Makes a run for a test directory. -/
def execute (config : Config) (w : World) : Except Failure ExitCode × World :=
  let (result, w) := (w.note (.starting config)).run config
  (match result with
    | .ok _ => .ok .success
    | .error e => .error { message := "Error: " ++ e.message }, w)

/-- The program, called with arguments after its own name, in a world. The stamp stands in front of
each log line. -/
def run (stamp : String) (args : List Bytes) (w : World) : Ending :=
  match CommandLine.parse args with
  | .error stop =>
    let text := Utf8.encode (stop.message Terminal.streamed (CommandLine.calledAs []))
    { exitCode := ⟨stop.exitCode⟩
      stdout := if stop.isMistake then [] else text
      stderr := if stop.isMistake then text else []
      store := w.store }
  | .ok testDir =>
    let env := textual w.environment
    let config := Config.ofEnv testDir env
    let filter := Filter.ofVariable (env logVariable)
    let (result, w) := execute config w
    let log := w.diagnostics.reverse.flatMap (shown filter stamp testDir)
    match result with
    | .ok exitCode => { exitCode, stdout := w.console.accepted, stderr := log, store := w.store }
    | .error failure =>
      let said := if failure.message.isEmpty then [] else Utf8.encode (failure.message ++ "\n")
      { exitCode := failure.exitCode
        stdout := w.console.accepted
        stderr := log ++ said
        store := w.store }

end Program

end Tandem
