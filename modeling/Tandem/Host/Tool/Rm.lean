import Tandem.Host.Tool.Options

/-!
# Removing files

`rm` takes files away from their places, and directories on demand. It goes on after a failure and
says so in its exit code.
-/

namespace Tandem.Host.Tool.Rm

/-- How `rm` is called. -/
def usage : Usage where
  short := "dfiIrRv".toList.map (·, .none)
  long := [("force", .none, "f"), ("interactive", .optional, "interactive"),
    ("one-file-system", .none, "x"), ("no-preserve-root", .none, "no-preserve-root"),
    ("preserve-root", .optional, "preserve-root"), ("recursive", .none, "r"), ("dir", .none, "d"),
    ("verbose", .none, "v"), ("help", .none, "help"), ("version", .none, "version")]

/-- What is removed, and how. -/
structure Plan where
  force : Bool := false
  ask : Bool := false
  deep : Bool := false
  emptyDirs : Bool := false
  verbose : Bool := false

/-- Takes one option into account. -/
def Plan.add (p : Plan) (c : Choice) : Plan :=
  match c.key with
  | "f" => { p with force := true, ask := false }
  | "i" => { p with force := false, ask := true }
  | "I" => { p with force := false, ask := false }
  | "interactive" =>
    let never := c.value == Octets.ofString "never" || c.value == Octets.ofString "no"
    { p with ask := !never && c.value != Octets.ofString "once", force := p.force && never }
  | "r" | "R" => { p with deep := true }
  | "d" => { p with emptyDirs := true }
  | "v" => { p with verbose := true }
  | _ => p

/-- The answers that are still to come, once they were read. -/
abbrev Answers := Option (List Bytes)

/-- Asks before something is done. -/
def confirm (question : Octets) (answers : Answers) : Act (Bool × Answers) := do
  Act.complain ((← read).called ++ [':', ' '] ++ question ++ ['?', ' '])
  let lines ← match answers with
    | some lines => pure lines
    | none => match ← Act.stream? 0 with
      | none => pure []
      | some input => do
        let (data, _) ← Act.gather input .empty Act.patience
        pure (data.toList.splitOn 0x0A)
  let yes := (lines.headD []).head?.any fun b => b == 0x79 || b == 0x59
  return (yes, some lines.tail)

/-- The last step of a path is `.` or `..`. -/
def endsInDots (name : Octets) : Bool :=
  let bare := (name.reverse.dropWhile (· == '/')).reverse
  let last := (bare.reverse.takeWhile (· != '/')).reverse
  last == ['.'] || last == ['.', '.']

/-- The complaint that something cannot be removed. -/
def refuse (name : Octets) (e : Errno) : Act Unit :=
  usage.warn (Octets.ofString "cannot remove " ++ Quote.always name ++ Octets.ofString ": " ++
    Octets.ofString e.text)

/-- Says that something was removed. -/
def announce (p : Plan) (what : String) (name : Octets) : Act Unit :=
  if p.verbose then usage.flush (Act.bytes (Octets.ofString what ++ Quote.always name ++ ['\n']))
  else return

/-- What a question calls the thing at a place. -/
def kindOf (s : Store) : Node → String
  | .file id _ => if (s.data id).isEmpty then "regular empty file" else "regular file"
  | .dir => "directory"
  | .link _ => "symbolic link"
  | .device _ => "character special file"
  | .tool _ => "regular file"

/-- Takes away one thing that is not a directory with something in it. -/
def takeAway (p : Plan) (place : Place) (node : Node) (name : Octets) (answers : Answers) :
    Act (Bool × Answers) := do
  let s ← get
  let (yes, answers) ← if p.ask then
      confirm (Octets.ofString ("remove " ++ kindOf s.store node ++ " ") ++ Quote.always name)
        answers
    else pure (true, answers)
  if yes then
    modify fun s => { s with store := s.store.erase place }
    announce p (if node == .dir then "removed directory " else "removed ") name
  return (yes, answers)

/-- Takes away a directory with everything in it. -/
def takeDown (p : Plan) (place : Place) (name : Octets) (answers : Answers) :
    (depth : Nat) → Act (Bool × Answers)
  | 0 => return (false, answers)
  | depth + 1 => do
    let s ← get
    let inside := (s.store.names place).mergeSort Name.le
    let (enter, answers) ← if p.ask && !inside.isEmpty then
        confirm (Octets.ofString "descend into directory " ++ Quote.always name) answers
      else pure (true, answers)
    if !enter then return (false, answers)
    let (all, answers) ← inside.foldlM (fun (all, answers) entry => do
      let next := place ++ [entry]
      let shown := name ++ '/' :: Octets.ofBytes entry
      let (gone, answers) ← match s.store.get? next with
        | some .dir => takeDown p next shown answers depth
        | some node => takeAway p next node shown answers
        | none => pure (true, answers)
      pure (all && gone, answers)) (true, answers)
    if all then takeAway p place .dir name answers else return (false, answers)

/-- How deep directories may be nested. -/
def deepest : Nat := 1000

/-- Removes one thing; answers with whether that failed. -/
def removeOne (p : Plan) (name : Octets) (answers : Answers) : Act (Bool × Answers) := do
  let context ← read
  let s ← get
  match s.store.locate context.place .keep ⟨Octets.toBytes name⟩ with
  | .error fault =>
    let e := System.errnoOf fault
    if p.force && (e == .noEntry || e == .notDir) then return (false, answers)
    refuse name e
    return (true, answers)
  | .ok (.vacant ..) =>
    if p.force then return (false, answers)
    refuse name .noEntry
    return (true, answers)
  | .ok (.node place .dir) =>
    if p.deep then
      if place.isEmpty then
        usage.warn
          (Octets.ofString "it is dangerous to operate recursively on " ++ Quote.always name)
        usage.warn (Octets.ofString "use --no-preserve-root to override this failsafe")
        return (true, answers)
      else if endsInDots name then
        usage.warn (Octets.ofString "refusing to remove '.' or '..' directory: skipping " ++
          Quote.always name)
        return (true, answers)
      else
        let (_, answers) ← takeDown p place name answers deepest
        return (false, answers)
    else if p.emptyDirs then
      if (s.store.names place).isEmpty then
        let (_, answers) ← takeAway p place .dir name answers
        return (false, answers)
      else
        refuse name .notEmpty
        return (true, answers)
    else
      refuse name .isDir
      return (true, answers)
  | .ok (.node place node) =>
    let (_, answers) ← takeAway p place node name answers
    return (false, answers)

/-- Removes files in order. -/
def run (args : List Octets) : Act Nat := do
  let (choices, names) ← usage.parse args
  let p := choices.foldl Plan.add {}
  if names.isEmpty then
    if p.force then return 0 else usage.misuse (Octets.ofString "missing operand")
  let (failed, _) ← names.foldlM (fun (failed, answers) name => do
    let (f, answers) ← removeOne p name answers
    pure (failed || f, answers)) (false, (none : Answers))
  return if failed then 1 else 0

end Tandem.Host.Tool.Rm
