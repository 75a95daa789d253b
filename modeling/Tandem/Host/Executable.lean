import Tandem.Host.Store

/-!
# Finding programs

A program is one of the tools, or a script whose first line names the program that interprets it,
which may be a script again. A name without a slash is looked for in the directories of a search
path.
-/

namespace Tandem.Host

/-- A program that is ready to be started: the tool, the name it is called by, and the arguments
that come before those of the caller. -/
structure Image where
  tool : Tool
  called : Bytes
  args : List Bytes := []
  deriving DecidableEq, Repr

namespace Interpreter

/-- How much of a file is looked at. -/
def window : Nat := 256

/-- A space or a tab. -/
def isGap (b : UInt8) : Bool :=
  b == 0x20 || b == 0x09

/-- The bytes up to the first zero byte. -/
def untilZero (bs : Bytes) : Bytes :=
  bs.takeWhile (· != 0)

/-- The line without gaps at its end. -/
def trimEnd (bs : Bytes) : Bytes :=
  (bs.reverse.dropWhile isGap).reverse

/-- The interpreter and its argument, from the line behind the mark. A line with nothing on it names
none; one that starts with a zero byte names the empty path. -/
def ofLine? (line : Bytes) : Option (Path × List Bytes) :=
  let line := (trimEnd line).dropWhile isGap
  let program := line.takeWhile fun b => !isGap b && b != 0
  match line, line.drop program.length with
  | [], _ => none
  | _, 0 :: _ | _, [] => some (⟨program⟩, [])
  | _, rest => some (⟨program⟩, [untilZero (rest.dropWhile isGap)])

/-- The interpreter that the beginning of a file names, and its argument. Without an end of its line
in sight, at least the end of the interpreter's name must be seen. -/
def ofData? (data : ByteArray) : Option (Path × List Bytes) :=
  match (data.extract 0 window).toList with
  | 0x23 :: 0x21 :: rest =>
    let text := untilZero rest
    let line := text.takeWhile (· != 0x0A)
    if line.length < text.length then ofLine? line
    else
      let padded := rest ++ List.replicate (window - 2 - rest.length) 0
      if (padded.dropWhile isGap).any fun b => isGap b || b == 0 then
        ofLine? (padded.take (window - 3))
      else none
  | _ => none

end Interpreter

namespace Store

/-- How many programs may lead to one another as interpreters. -/
def mostImages : Nat := 6

/-- The program at a path. An interpreter with an empty path is the present directory, and that is
no program. -/
def imageAt (s : Store) (base : Place) (p : Path) : (images : Nat) → Except Errno Image
  | 0 => .error .tooManyLinks
  | images + 1 =>
    match s.lookup base p with
    | .error (.os e) => .error e
    | .error _ => .error .noEntry
    | .ok (_, .tool tool) => .ok { tool, called := p.bytes }
    | .ok (_, .file id true) =>
      match Interpreter.ofData? (s.data id) with
      | none => .error .noExec
      | some (interpreter, args) =>
        if interpreter.bytes.isEmpty then .error .denied
        else (s.imageAt base interpreter images).map fun image =>
          { image with args := image.args ++ args ++ [p.bytes] }
    | .ok _ => .error .denied

/-- The directories that a search path names; an empty name stands for the present directory. -/
def searchDirs (path : Bytes) : List Path :=
  let pieces := path.foldr (fun b (pieces : List Bytes) =>
    if b = 0x3A then [] :: pieces
    else match pieces with
      | piece :: more => (b :: piece) :: more
      | [] => [[b]]) [[]]
  pieces.map Path.mk

/-- The search path of a process that was given none. -/
def usualPath : Bytes :=
  Utf8.encode "/usr/local/sbin:/usr/local/bin:/usr/sbin:/usr/bin:/sbin:/bin"

/-- Looks for a program in directories, in order. That it was found and must not be run is
remembered to the end. -/
def search (s : Store) (base : Place) (name : Name) (denied : Bool) : List Path → Except Errno Image
  | [] => .error (if denied then .denied else .noEntry)
  | dir :: dirs =>
    match s.imageAt base (dir.join ⟨name⟩) mostImages with
    | .ok image => .ok { image with called := if image.args.isEmpty then name else image.called }
    | .error e =>
      if e == .denied then s.search base name true dirs
      else if e == .noEntry || e == .notDir then s.search base name denied dirs
      else .error e

/-- The program that a name stands for. -/
def findProgram (s : Store) (base : Place) (path : Bytes) (p : Path) : Except Errno Image :=
  if p.bytes.contains Path.slash then s.imageAt base p mostImages
  else if p.bytes.isEmpty then .error .noEntry
  else if longestName < p.bytes.length then .error .tooLong
  else s.search base p.bytes false (searchDirs path)

end Store

end Tandem.Host
