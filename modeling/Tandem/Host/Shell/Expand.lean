import Tandem.Host.Shell.Arithmetic
import Tandem.Host.Shell.Pattern
import Tandem.Host.Shell.State

/-!
# Expanding words

A word is expanded to pieces first: its own characters, and what takes the place of its expansions.
Where fields are wanted, what came from an expansion outside of quotes is split by the characters of
`IFS`, and each field that has a pattern in it is replaced by the paths that match it.

The output of scripts inside words is provided by whoever expands them.
-/

namespace Tandem.Host.Shell

/-- A piece of an expanded word. -/
inductive Piece where
  /-- Characters that stay together. -/
  | text (cs : Octets) (quoted : Bool)
  /-- Characters to be split into fields; `none` stands between two parameters. -/
  | loose (cs : List (Option Char))
  /-- A field is here, even if it has no characters. -/
  | mark
  /-- A field ends here. -/
  | cut
  deriving DecidableEq, Repr

/-- How the output of a script is had. -/
abbrev Capture := Script → Sh Octets

namespace Expand

/-! ### Parameters -/

/-- The letters of the settings that are on, in their order. -/
def settingLetters (s : State) : Octets :=
  State.letters.reverse.filterMap fun (c, _, isOn, _) =>
    if isOn s.settings && c != '\x00' then some c else none

/-- The value of a variable or a parameter that stands for one text. -/
def scalar? (s : State) (name : Octets) : Option Octets :=
  match name with
  | ['#'] => some (Octets.ofNat s.args.length)
  | ['?'] => some (Octets.ofNat s.status)
  | ['$'] => some (Octets.ofNat s.main)
  | ['!'] => s.lastBackground.map Octets.ofNat
  | ['-'] => some (settingLetters s)
  | _ => match Octets.number? name with
    | some 0 => some s.name
    | some n => s.args[n - 1]?
    | none => s.value? name

/-- The character between parameters that are put together: the first of `IFS`. -/
def separator (s : State) : Octets :=
  match s.value? (Octets.ofString "IFS") with
  | some ifs => ifs.take 1
  | none => [' ']

/-- The parameters, with `none` between them. -/
def allArgs (s : State) : List (Option Char) :=
  (List.intersperse [none] (s.args.map (·.map some))).flatten

/-- Parameters put together to one text. -/
def joined (s : State) (cs : List (Option Char)) : Octets :=
  cs.flatMap fun
    | some c => [c]
    | none => separator s

/-- The value of anything, as characters to be split; `none` if it has no value. -/
def value? (s : State) (name : Octets) : Option (List (Option Char)) :=
  if name = ['@'] || name = ['*'] then some (allArgs s) else (scalar? s name).map (·.map some)

/-- Where a word stands. -/
structure Setting where
  /-- Fields are wanted. -/
  full : Bool
  /-- The word stands inside an expansion, where its own characters are split, too. -/
  inside : Bool := false

/-- The pieces of a value. -/
def valuePieces (s : State) (setting : Setting) (name : Octets) (quoted : Bool)
    (cs : List (Option Char)) : List Piece :=
  if quoted then
    if setting.full && name = ['@'] then
      if s.args.isEmpty then []
      else
        let fields := cs.splitBy fun a b => a.isSome && b.isSome
        let pieces := fields.map fun field => match field with
          | [none] => .cut
          | field => .text (field.filterMap id) true
        pieces ++ [.mark]
    else [.mark, .text (joined s cs) true]
  else if setting.full then [.loose cs]
  else [.text (joined s cs) false]

/-- The pieces of a text that is the result of an expansion. -/
def textPieces (setting : Setting) (quoted : Bool) (cs : Octets) : List Piece :=
  if quoted then [.mark, .text cs true]
  else if setting.full then [.loose (cs.map some)]
  else [.text cs false]

/-- The pieces as one text, in which cuts leave no trace. -/
def together (s : State) (pieces : List Piece) : Octets :=
  pieces.flatMap fun
    | .text cs _ => cs
    | .loose cs => joined s cs
    | .mark => []
    | .cut => separator s

/-- The pieces as a pattern. -/
def glyphs (s : State) (pieces : List Piece) : List Glyph :=
  pieces.flatMap fun
    | .text cs quoted => cs.map (·, quoted)
    | .loose cs => (joined s cs).map (·, false)
    | .mark => []
    | .cut => (separator s).map (·, true)

/-- What an operation on a pattern leaves of a value. -/
def trimmed (s : State) (operation : Operation) (pattern : List Glyph) (cs : List (Option Char)) :
    List (Option Char) :=
  let text := cs.map fun c => c.getD ((separator s).headD ' ')
  match operation with
  | .trimFront longest => cs.drop (cs.length - (Pattern.trimFront pattern longest text).length)
  | .trimEnd longest => cs.take (Pattern.trimEnd pattern longest text).length
  | _ => cs

/-! ### Home directories -/

/-- The home directory of a user; nobody in particular is oneself. -/
def homeOf? (s : State) (user : Octets) : Option Octets :=
  if user.isEmpty then s.value? (Octets.ofString "HOME")
  else if String.ofList user == "root" then some (Octets.ofString "/root")
  else none

/-- Replaces a tilde at the front of characters. `atEnd` says that nothing follows them, and
`colons` that a colon ends what belongs to the tilde. -/
def tildeAt (s : State) (colons atEnd : Bool) (cs : Octets) : Option (Octets × Octets) :=
  match cs with
  | '~' :: rest =>
    let user := rest.takeWhile fun c => c != '/' && !(colons && c == ':')
    let after := rest.drop user.length
    if after.isEmpty && !atEnd then none else (homeOf? s user).map (·, after)
  | _ => none

/-- The parts of characters in which a tilde at the front, or behind a colon, is replaced. -/
def tildes (s : State) (colons atEnd : Bool) (fresh : Bool) : (fuel : Nat) → Octets → List Part
  | 0, cs => [.text cs false]
  | _, [] => []
  | fuel + 1, cs =>
    match (if fresh then tildeAt s colons atEnd cs else none) with
    | some (home, after) =>
      (if home.isEmpty then [] else [.text home true]) ++ tildes s colons atEnd false fuel after
    | none =>
      let plain := if colons then cs.takeWhile (· != ':') else cs
      match cs.drop plain.length with
      | [] => [.text plain false]
      | c :: after => .text (plain ++ [c]) false :: tildes s colons atEnd true fuel after

/-- The word with its tildes replaced. -/
def withHomes (s : State) (colons fresh : Bool) : Word → Word
  | [] => []
  | .text cs false :: rest =>
    tildes s colons rest.isEmpty fresh (cs.length + 1) cs ++
      withHomes s colons (colons && cs.getLast? == some ':') rest
  | part :: rest => part :: (if colons then withHomes s colons false rest else rest)

/-! ### Pieces -/

/-- Says that a parameter has no value. -/
def missing {α : Type} (name : Octets) (text : Octets) : Sh α :=
  Sh.fail (name ++ Octets.ofString ": " ++ text)

/-- Text without the line ends at its end and without zero bytes. -/
def outputText (cs : Octets) : Octets :=
  ((cs.filter (· != '\x00')).reverse.dropWhile (· == '\n')).reverse

/-- The value of an arithmetic expression, with its assignments carried out. -/
def arithmetic (text : Octets) : Sh Octets := do
  let s ← get
  match Arithmetic.evaluate (scalar? s) text with
  | .ok (n, assigned) =>
    let digits (n : Int) : Octets :=
      if n < 0 then '-' :: Octets.ofNat n.natAbs else Octets.ofNat n.natAbs
    assigned.forM fun (name, n) => Sh.assign name (digits n)
    return digits n
  | .error (.expression what) =>
    Sh.fail (Octets.ofString "arithmetic expression: " ++ Octets.ofString what ++
      Octets.ofString ": \"" ++ text ++ ['"'])
  | .error (.number value) => Sh.fail (Octets.ofString "Illegal number: " ++ value)
  | .error .quotient => Sh.jump (.gone (.signal Signal.arithmetic))

mutual

/-- The pieces of a part of a word. -/
def part (capture : Capture) (setting : Setting) : Part → Sh (List Piece)
  | .text cs quoted =>
    return if quoted then [.mark, .text cs true]
      else if setting.inside && setting.full then [.loose (cs.map some)]
      else [.text cs false]
  | .output script quoted => do
    return textPieces setting quoted (outputText (← capture script))
  | .arithmetic word quoted => do
    let inner ← parts capture { full := false } word
    return textPieces setting quoted (← arithmetic (together (← get) inner))
  | .value name operation word quoted => do
    let s ← get
    let found := value? s name
    let shown (cs : List (Option Char)) : Sh (List Piece) := do
      return valuePieces (← get) setting name quoted cs
    let isMissing (orEmpty : Bool) : Bool := match found with
      | none => true
      | some cs => orEmpty && cs.all (·.isNone)
    let instead : Sh (List Piece) := do
      let inner ← tilded capture { setting with inside := true } word
      let all := name = ['@'] || word.any fun
        | .value ['@'] .. => true
        | _ => false
      return if quoted && !all then .mark :: inner else inner
    let present : Sh (List (Option Char)) := do
      match found with
      | some cs => return cs
      | none =>
        if s.settings.noUnset then missing name (Octets.ofString "parameter not set")
        else return []
    match operation with
    | .plain => shown (← present)
    | .length =>
      let cs ← present
      return textPieces setting quoted (Octets.ofNat (joined s cs).length)
    | .instead orEmpty =>
      if isMissing orEmpty then instead
      else
        let cs ← present
        return (if quoted then [.mark] else []) ++ (← shown cs)
    | .other orEmpty =>
      if isMissing orEmpty then return if quoted && name != ['@'] then [.mark] else [] else instead
    | .assign orEmpty =>
      if isMissing orEmpty then
        let text := together (← get) (← tilded capture { full := false } word)
        if !isName name then Sh.failOn name "bad variable name"
        Sh.assign name text
        shown (text.map some)
      else shown (← present)
    | .demand orEmpty =>
      if isMissing orEmpty then
        if word.isEmpty then
          missing name (Octets.ofString ("parameter not set" ++ if orEmpty then " or null" else ""))
        else missing name (together (← get) (← tilded capture { full := false } word))
      else shown (← present)
    | .trimFront _ | .trimEnd _ =>
      let cs ← present
      let pattern := glyphs (← get) (← tilded capture { full := false } word)
      shown (trimmed s operation pattern cs)
    | .bad => Sh.fail (Octets.ofString "Bad substitution")

/-- The pieces of a word inside an expansion, which may start with a tilde. -/
def tilded (capture : Capture) (setting : Setting) : List Part → Sh (List Piece)
  | .text ('~' :: cs) false :: rest => do
    let front := tildes (← get) false rest.isEmpty true (cs.length + 2) ('~' :: cs)
    let front := front.flatMap fun
      | .text cs true => [Piece.mark, .text cs true]
      | .text cs false => if setting.full then [.loose (cs.map some)] else [.text cs false]
      | _ => []
    return front ++ (← parts capture setting rest)
  | ps => parts capture setting ps

/-- The pieces of the parts of a word. -/
def parts (capture : Capture) (setting : Setting) : List Part → Sh (List Piece)
  | [] => return []
  | p :: ps => do
    let front ← part capture setting p
    return front ++ (← parts capture setting ps)

end

/-! ### Fields -/

/-- White space that `IFS` can have. -/
def usualSeparators : Octets := [' ', '\t', '\n']

/-- A field in the making, latest first, with whether it is there at all. -/
structure Field where
  glyphs : List Glyph := []
  isThere : Bool := false

/-- Splits characters: whether one separates, and whether it is only white space that does. -/
structure Splitter where
  separates : Option Char → Bool
  isGap : Option Char → Bool

/-- The splitter for `IFS`. -/
def splitter (s : State) : Splitter :=
  let ifs := (s.value? (Octets.ofString "IFS")).getD usualSeparators
  { separates := fun c => c.all ifs.contains
    isGap := fun c => c.all usualSeparators.contains }

/-- What is left after the separators that belong to one that was just met. `gap` says that so far
they were white space. -/
def Splitter.skip (sp : Splitter) (gap : Bool) : List (Option Char) → List (Option Char)
  | [] => []
  | c :: cs =>
    if !sp.separates c then c :: cs
    else if sp.isGap c then sp.skip gap cs
    else if gap then sp.skip false cs
    else c :: cs

/-- Splits characters into fields; answers with the finished ones, latest first, and the last one.
-/
def Splitter.split (sp : Splitter) : (fuel : Nat) → List (Option Char) → Field → List (List Glyph) →
    Field × List (List Glyph)
  | 0, _, field, done => (field, done)
  | _, [], field, done => (field, done)
  | fuel + 1, c :: cs, field, done =>
    if sp.separates c then
      if sp.isGap c && !field.isThere then sp.split fuel cs field done
      else sp.split fuel (sp.skip (sp.isGap c) cs) {} (field.glyphs.reverse :: done)
    else match c with
      | some c => sp.split fuel cs ⟨(c, false) :: field.glyphs, true⟩ done
      | none => sp.split fuel cs field done

/-- The fields of pieces. -/
def fieldsOf (sp : Splitter) (pieces : List Piece) : List (List Glyph) :=
  let step := fun (state : Field × List (List Glyph)) (piece : Piece) =>
    let (field, done) := state
    match piece with
    | .text cs quoted =>
      (⟨(cs.map (·, quoted)).reverse ++ field.glyphs, field.isThere || !cs.isEmpty⟩, done)
    | .loose cs => sp.split (cs.length + 1) cs field done
    | .mark => ({ field with isThere := true }, done)
    | .cut => ({ isThere := true }, field.glyphs.reverse :: done)
  let (field, done) := pieces.foldl step ({}, [])
  (if field.isThere then field.glyphs.reverse :: done else done).reverse

/-! ### Paths that match -/

/-- The pattern cut at its slashes, each with the slashes in front of it. -/
def components : List Glyph → List (Octets × List Glyph)
  | [] => []
  | gs =>
    let pieces := gs.splitBy fun a b => (a.1 == '/') == (b.1 == '/')
    pair pieces
where
  /-- Puts each run of slashes in front of the component behind it. -/
  pair : List (List Glyph) → List (Octets × List Glyph)
    | [] => []
    | piece :: more =>
      if piece.any (·.1 == '/') then
        match more with
        | next :: more => (piece.map (·.1), next) :: pair more
        | [] => [(piece.map (·.1), [])]
      else ([], piece) :: pair more

/-- The names in the directory at a path that match a pattern. Names with a dot at the front match
only if the pattern has it, too. -/
def matching (s : State) (dir : Octets) (pattern : List Glyph) : List Octets :=
  let path : Path := ⟨Octets.toBytes (if dir.isEmpty then ['.'] else dir)⟩
  match s.system.store.lookup s.place path with
  | .ok (place, .dir) =>
    let names := [['.'], ['.', '.']] ++ (s.system.store.names place).map Octets.ofBytes
    names.filter fun name =>
      (name.head? != some '.' || pattern.head?.any (·.1 == '.')) && Pattern.fits pattern name
  | _ => []

/-- The characters of a pattern that is none. -/
def literal (pattern : List Glyph) : Octets :=
  (Pattern.unescape pattern).map (·.1)

/-- The paths that match components, behind a path that is fixed. -/
def paths (s : State) (dir : Octets) (met : Bool) : List (Octets × List Glyph) → List Octets
  | [] =>
    if !met then [dir]
    else match s.system.store.locate s.place .keep ⟨Octets.toBytes dir⟩ with
      | .ok (.node ..) => [dir]
      | _ => []
  | (slashes, pattern) :: rest =>
    if Pattern.isWild pattern then
      (matching s (dir ++ slashes) pattern).flatMap fun name =>
        paths s (dir ++ slashes ++ name) true rest
    else paths s (dir ++ slashes ++ literal pattern) met rest

/-- A field as it is passed on: the paths that it matches in ascending order, or else itself. -/
def globbed (s : State) (field : List Glyph) : List Octets :=
  let plain := [field.map (·.1)]
  if s.settings.noGlob || !Pattern.isWild field then plain
  else
    let found := paths s [] false (components field)
    if found.isEmpty then plain
    else found.mergeSort fun a b => Name.le (Octets.toBytes a) (Octets.toBytes b)

/-! ### Words -/

/-- The fields that a word expands to. -/
def fields (capture : Capture) (w : Word) : Sh (List Octets) := do
  let w := withHomes (← get) false true w
  let pieces ← parts capture { full := true } w
  let s ← get
  return (fieldsOf (splitter s) pieces).flatMap (globbed s)

/-- A word that is one text. -/
def text (capture : Capture) (w : Word) : Sh Octets := do
  let w := withHomes (← get) false true w
  let pieces ← parts capture { full := false } w
  return together (← get) pieces

/-- The value in an assignment. -/
def assigned (capture : Capture) (w : Word) : Sh Octets := do
  let w := withHomes (← get) true true w
  let pieces ← parts capture { full := false } w
  return together (← get) pieces

/-- A word that is a pattern. -/
def pattern (capture : Capture) (w : Word) : Sh (List Glyph) := do
  let w := withHomes (← get) false true w
  let pieces ← parts capture { full := false } w
  return glyphs (← get) pieces

/-- A text below a command. -/
def document (capture : Capture) (w : Word) : Sh Octets := do
  let pieces ← parts capture { full := false } w
  return together (← get) pieces

end Expand

end Tandem.Host.Shell
