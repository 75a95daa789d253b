import Tandem.Host.Shell.Expand

/-!
# Redirections

What a redirection does to the streams of a shell. All words behind the signs are expanded first;
then the streams are changed one after the other, up to the first that fails.
-/

namespace Tandem.Host.Shell.Redirection

/-- A redirection whose word is expanded. -/
inductive Plan where
  | file (stream : Nat) (direction : Direction) (name : Octets)
  | copy (stream : Nat) (source : Option Nat)
  | document (stream : Nat) (word : Word)

/-- The source of a copy: a digit, or nothing for a dash. -/
def source (cs : Octets) : Sh (Option Nat) := do
  match cs with
  | ['-'] => return none
  | [c] => if c.isDigit then return some (c.toNat - '0'.toNat) else bad
  | _ => bad
where
  /-- What is not a stream. -/
  bad : Sh (Option Nat) := do
    modify fun s => { s with line := s.reached }
    Sh.fail (Octets.ofString "Syntax error: Bad fd number")

/-- Expands the word of a redirection. -/
def plan (capture : Capture) : Redirect → Sh Plan
  | .mk stream .copy target => do
    return .copy stream (← source (← Expand.text capture target))
  | .mk stream (.here id) _ => do
    return .document stream (((← get).documents.lookup id).getD [])
  | .mk stream direction target => do
    return .file stream direction (← Expand.text capture target)

/-- Why a file cannot be opened or created. -/
def reason (creating : Bool) (e : Errno) : Octets :=
  if e == .noEntry || e == .notDir then
    Octets.ofString (if creating then "Directory nonexistent" else "No such file")
  else Octets.ofString e.text

/-- How a file is opened for a redirection. -/
def modeOf (settings : Settings) : Direction → Mode
  | .write => if settings.noClobber then .fresh else .write
  | .clobber => .write
  | .append => .append
  | .update => .update
  | _ => .read

/-- Carries out a redirection; answers with whether that worked. -/
def carryOut (capture : Capture) : Plan → Sh Bool
  | .file stream direction name => do
    let mode := modeOf (← get).settings direction
    match ← Sh.act (Act.openPath mode name) with
    | .ok opening =>
      Sh.setStream stream (some opening)
      return true
    | .error e =>
      let creating := mode != .read
      Sh.warn (Octets.ofString (if creating then "cannot create " else "cannot open ") ++ name ++
        Octets.ofString ": " ++ reason creating e)
      return false
  | .copy stream none => do
    Sh.setStream stream none
    return true
  | .copy stream (some n) => do
    match (← get).streams.lookup n with
    | some opening =>
      Sh.setStream stream (some opening)
      return true
    | none =>
      Sh.warn (Octets.ofNat n ++ Octets.ofString ": " ++ Octets.ofString Errno.badStream.text)
      return false
  | .document stream word => do
    let text ← Expand.document capture word
    let opening ← Sh.act (Act.onSystem fun s =>
      let (id, s) := s.newPipe { data := Act.bytes text }
      s.push { target := .pipe id })
    Sh.setStream stream (some opening)
    return true

/-- Carries out redirections in order, up to the first that fails. -/
def inOrder (capture : Capture) : List Plan → Sh Bool
  | [] => return true
  | p :: ps => do
    if ← carryOut capture p then inOrder capture ps else return false

/-- Changes the streams; answers with whether that worked. What goes wrong is said, and the status
tells it. -/
def apply (capture : Capture) (redirects : List Redirect) : Sh Bool := do
  let plans ← redirects.mapM (plan capture)
  match ← Sh.attempt (inOrder capture plans) with
  | .ok true => return true
  | .ok false | .error .fault =>
    Sh.setStatus 2
    return false
  | .error j => Sh.jump j

end Tandem.Host.Shell.Redirection
