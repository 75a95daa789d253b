import Tandem.Path
import Tandem.Text.Resemblance
import Tandem.Text.Terminal

/-!
# The command line

The program takes one required option, the test directory, which is spelled `-d`, `--test_dir` or
`--test-dir` and takes its value attached or as the next argument, and the usual flags for help and
version. Arguments are read from left to right, and the first thing that ends the reading wins:
help, version, or a mistake.

A value that stands apart from its option is examined only when the next option is met or the
arguments end, so an unknown argument after it is reported first.
-/

namespace Tandem.CommandLine

/-- A long option. -/
inductive Long where
  | testDir
  | help
  | version
  deriving DecidableEq, Repr

/-- The long names, in the order in which they are tried as suggestions. -/
def longNames : List (String × Long) :=
  [("test_dir", .testDir), ("test-dir", .testDir), ("help", .help), ("version", .version)]

/-- A suggestion for a mistyped long name. -/
structure Tip where
  name : String
  option : Long
  deriving DecidableEq, Repr

/-- Why no test directory came out of the arguments. -/
inductive Stop where
  /-- Help was asked for. -/
  | help
  /-- The version was asked for. -/
  | version
  /-- No test directory was given. -/
  | missing
  /-- The option was given no value, or an empty one. -/
  | noValue
  /-- The option was given twice. -/
  | repeated
  /-- An argument that nothing is made of. -/
  | unexpected (arg : String) (tip : Option Tip)
  /-- A value attached to a flag; `given` if a test directory was taken before it. -/
  | unwanted (value : String) (flag : Long) (given : Bool)
  deriving DecidableEq, Repr

/-- The option as it stands in front of a value that is not yet examined. -/
inductive Pending where
  | nothing
  | option
  | value (v : Bytes)
  deriving DecidableEq, Repr

/-- What has been read so far. -/
structure State where
  taken : Option Bytes := none
  pending : Pending := .nothing
  deriving DecidableEq, Repr

namespace State

/-- Takes a value for the test directory. -/
def take (s : State) (v : Bytes) : Except Stop State :=
  if s.taken.isSome then .error .repeated
  else if v.isEmpty then .error .noValue
  else .ok { s with taken := some v }

/-- Examines what is pending. -/
def settle (s : State) : Except Stop State :=
  match s.pending with
  | .nothing => .ok s
  | .option => .error .noValue
  | .value v => take { s with pending := .nothing } v

/-- The option with a value attached to it. -/
def attached (s : State) (v : Bytes) : Except Stop State :=
  s.settle.bind (·.take v)

/-- The option on its own. -/
def bare (s : State) : Except Stop State :=
  s.settle.map ({ · with pending := .option })

/-- A flag that ends the reading, once what is pending has been examined. -/
def finish (s : State) (stop : Stop) : Except Stop State :=
  s.settle.bind fun _ => .error stop

end State

/-- The long option of a name. -/
def Long.ofName? (name : Bytes) : Option Long :=
  (longNames.find? fun entry => Utf8.encode entry.1 == name).map (·.2)

/-- The score that a suggestion has to exceed. -/
def threshold : Resemblance.Score := Resemblance.ratio 7 10

/-- The known name that resembles `name` most, the later of equals, if any comes close. -/
def suggest (name : String) : Option Tip :=
  let step (best : Option (Resemblance.Score × Tip)) (entry : String × Long) :=
    let score := Resemblance.jaro name entry.1
    let better := match best with
      | some (top, _) => !score.lt top
      | none => true
    if threshold.lt score && better then some (score, ⟨entry.1, entry.2⟩) else best
  (longNames.foldl step none).map (·.2)

/-- The byte `-`. -/
def dash : UInt8 := 0x2D

/-- The byte `=`. -/
def equals : UInt8 := 0x3D

/-- Reads an argument that starts with two dashes, given without them. -/
def readLong (s : State) (arg : Bytes) : Except Stop State :=
  let name := arg.takeWhile (· != equals)
  let value := match arg.dropWhile (· != equals) with
    | [] => none
    | _ :: v => some v
  match Long.ofName? name, value with
  | some .testDir, some v => s.attached v
  | some .testDir, none => s.bare
  | some flag, some v => .error (.unwanted (Utf8.lossy v) flag s.taken.isSome)
  | some .help, none => s.finish .help
  | some .version, none => s.finish .version
  | none, _ => .error (.unexpected ("--" ++ Utf8.lossy name) (suggest (Utf8.lossy name)))

/-- Reads an argument that starts with one dash, given as the byte after it and the rest. Every
letter ends the group: a flag at once, the option by taking the rest as its value. -/
def readShort (s : State) (b : UInt8) (rest : Bytes) : Except Stop State :=
  match Utf8.next b rest with
  | (.scalar c, rest) =>
    if c = 'd' then
      match rest with
      | [] => s.bare
      | v :: vs => s.attached (if v = equals then vs else v :: vs)
    else if c = 'h' then s.finish .help
    else if c = 'V' then s.finish .version
    else .error (.unexpected (String.ofList ['-', c]) none)
  | (.ill _, _) => .error (.unexpected ("-" ++ Utf8.lossy (b :: rest)) none)

/-- Reads an argument that is no option: the value that the option before it waits for. -/
def readPlain (s : State) (arg : Bytes) : Except Stop State :=
  match s.pending with
  | .option => .ok { s with pending := .value arg }
  | _ => .error (.unexpected (Utf8.lossy arg) none)

/-- Reads one argument other than `--`. -/
def read (s : State) (arg : Bytes) : Except Stop State :=
  match arg with
  | a :: b :: rest =>
    if a = dash then
      if b = dash then readLong s rest else readShort s b rest
    else readPlain s arg
  | _ => readPlain s arg

/-- The test directory once the arguments have ended. -/
def conclude (s : State) : Except Stop Path :=
  s.settle.bind fun s => match s.taken with
    | some dir => .ok ⟨dir⟩
    | none => .error .missing

/-- Reads arguments from a state on. After `--` nothing may follow. -/
def readAll (s : State) : List Bytes → Except Stop Path
  | [] => conclude s
  | arg :: args =>
    if arg = [dash, dash] then
      match args with
      | [] => conclude s
      | extra :: _ => .error (.unexpected (Utf8.lossy extra) none)
    else (read s arg).bind (readAll · args)

/-- The test directory that the arguments name, the program's own name not among them. -/
def parse (args : List Bytes) : Except Stop Path :=
  readAll {} args

/-! ### What the program says -/

/-- The name under which the program was called. -/
def calledAs (argv : List Bytes) : String :=
  (do
    let first ← argv.head?
    let name ← Path.fileName? ⟨first⟩
    Utf8.decode? name).getD "difftest"

/-- A flag as it is typed. -/
def Long.typed : Long → String
  | .testDir => "--test_dir"
  | .help => "--help"
  | .version => "--version"

/-- The option as it is shown in messages. -/
def shownOption : String := "--test_dir <DIR>"

/-- The line that shows how to call the program. -/
def usage (name : String) : String :=
  "Usage: " ++ name ++ " " ++ shownOption

/-- Where to look further. -/
def more : String := "For more information, try '--help'.\n"

namespace Stop

/-- The usage line grows by the flag that the message is about. -/
def usageWith (name : String) : Long → String
  | .testDir => usage name
  | flag => usage name ++ " " ++ flag.typed

/-- The usage line about a flag, once a test directory was taken: the option is then shown as one of
those that may go with the flag. -/
def usageBeside (name : String) (flag : Long) : String :=
  "Usage: " ++ name ++ " " ++ flag.typed ++ " <" ++ shownOption ++ ">"

/-- What is printed, for a program called `name`. What the caller typed goes through `shown`, which
takes out of it what would make a terminal do more than print. -/
def message (shown : String → String) (name : String) (stop : Stop) : String :=
  let name := shown name
  match stop with
  | .help =>
    "Differential test harness\n\n" ++ usage name ++ "\n\nOptions:\n" ++
      "  -d, --test_dir <DIR>  Absolute path to a flat directory of test case files\n" ++
      "  -h, --help            Print help\n" ++
      "  -V, --version         Print version\n"
  | .version => "difftest 0.1.0\n"
  | .missing =>
    "error: the following required arguments were not provided:\n  " ++ shownOption ++ "\n\n" ++
      usage name ++ "\n\n" ++ more
  | .noValue =>
    "error: a value is required for '" ++ shownOption ++ "' but none was supplied\n\n" ++ more
  | .repeated =>
    "error: the argument '" ++ shownOption ++ "' cannot be used multiple times\n\n" ++
      usage name ++ "\n\n" ++ more
  | .unexpected arg none =>
    "error: unexpected argument '" ++ shown arg ++ "' found\n\n" ++ usage name ++ "\n\n" ++ more
  | .unexpected arg (some tip) =>
    "error: unexpected argument '" ++ shown arg ++ "' found\n\n" ++
      "  tip: a similar argument exists: '--" ++ tip.name ++ "'\n\n" ++
      usageWith name tip.option ++ "\n\n" ++ more
  | .unwanted value flag given =>
    "error: unexpected value '" ++ shown value ++ "' for '" ++ flag.typed ++
      "' found; no more were expected\n\n" ++
      (if given then usageBeside name flag else usageWith name flag) ++ "\n\n" ++ more

/-- The arguments were a mistake, as opposed to a question. -/
def isMistake : Stop → Bool
  | .help | .version => false
  | _ => true

/-- The program's exit code. -/
def exitCode (s : Stop) : Nat :=
  if s.isMistake then 2 else 0

end Stop

end Tandem.CommandLine
