import Tandem.Host.Shell.Builtin.Options
import Tandem.Host.Shell.Expand

/-!
# Commands about variables and parameters

Marking, setting and forgetting variables, setting the parameters and the settings of the shell, and
reading lines and options into variables.
-/

namespace Tandem.Host.Shell.Builtin

/-- Text in ASCII as characters. -/
abbrev ascii := Octets.ofString

/-- Makes sure that a variable can have a name. -/
def checkName (name : Octets) : Sh Unit := do
  if !isName name then Sh.failOn name "bad variable name"

/-- The name and the value of an argument. -/
def namePart (arg : Octets) : Octets × Option Octets :=
  let name := arg.takeWhile (· != '=')
  match arg.drop name.length with
  | _ :: value => (name, some value)
  | [] => (name, none)

/-- The lines that would mark the variables again. -/
def listing (word : String) (marked : Variable → Bool) (s : State) : Octets :=
  (sorted (·.1) (s.vars.filter fun (_, v) => marked v)).flatMap fun (name, v) =>
    ascii word ++ [' '] ++ name ++ (match v.value with
      | some value => '=' :: quoted value
      | none => []) ++ ['\n']

/-- Marks variables, and gives them values first where arguments say so. -/
def markEach (word : String) (marked : Variable → Bool) (mark : Variable → Variable)
    (args : List Octets) : Sh Nat := do
  let (chosen, args) ← options "p" args
  if args.isEmpty || !chosen.isEmpty then
    Sh.put (listing word marked (← get))
  else
    args.forM fun arg => do
      let (name, value) := namePart arg
      checkName name
      if let some value := value then Sh.assign name value
      modify fun s => s.put name (mark ((s.vars.lookup name).getD {}))
  return 0

/-- Makes variables visible to programs. -/
def exportEach : List Octets → Sh Nat :=
  markEach "export" (·.exported) ({ · with exported := true })

/-- Makes variables keep their values. -/
def protect : List Octets → Sh Nat :=
  markEach "readonly" (·.readOnly) ({ · with readOnly := true })

/-- Makes variables local to the function that is at work. -/
def makeLocal (args : List Octets) : Sh Nat := do
  if (← get).locals.isEmpty then Sh.fail (ascii "not in a function")
  args.forM fun arg => do
    let (name, value) := namePart arg
    if name = ['-'] then return
    checkName name
    Sh.keepLocal name
    if let some value := value then Sh.assign name value
    else modify fun s => if (s.vars.lookup name).isSome then s else s.put name {}
  return 0

/-- Forgets variables or functions. -/
def forget (args : List Octets) : Sh Nat := do
  let (chosen, args) ← options "vf" args
  args.forM fun name => do
    if (chosen.getLast?.map (·.1)) == some 'f' then
      modify fun s => { s with functions := s.functions.filter (·.1 != name) }
    else
      checkName name
      Sh.unassign name
  return 0

/-! ### Settings and parameters -/

/-- How wide the names of settings are shown. -/
def settingWidth : Nat := 16

/-- The settings as they stand. -/
def settingsTable (s : State) : Octets :=
  ascii "Current option settings\n" ++ State.letters.flatMap fun (_, name, isOn, _) =>
    ascii name ++ List.replicate (settingWidth - name.length) ' ' ++
      ascii (if isOn s.settings then "on\n" else "off\n")

/-- The commands that would make the settings again. -/
def settingsCommands (s : State) : Octets :=
  State.letters.flatMap fun (_, name, isOn, _) =>
    ascii (if isOn s.settings then "set -o " else "set +o ") ++ ascii name ++ ['\n']

/-- Changes the setting of a letter. -/
def setLetter (on : Bool) (c : Char) : Sh Unit := do
  match State.letters.find? fun entry => entry.1 == c && c != '\x00' with
  | some (_, _, _, change) => modify fun s => { s with settings := change s.settings on }
  | none => Sh.fail (ascii "Illegal option -" ++ [c])

/-- Changes the setting of a name. -/
def setNamed (on : Bool) (name : Octets) : Sh Unit := do
  match State.letters.find? fun entry => entry.2.1.toList == name with
  | some (_, _, _, change) => modify fun s => { s with settings := change s.settings on }
  | none => Sh.fail (ascii "Illegal option -o " ++ name)

/-- Reads settings from arguments; answers with those that are left, and whether they are parameters
even if there are none of them. `other` handles letters that are no settings. -/
def readSettings (other : Char → Sh Bool) : List Octets → Sh (List Octets × Bool)
  | [] => return ([], false)
  | arg :: rest => do
    match arg with
    | '-' :: [] =>
      modify fun s => { s with settings := { s.settings with trace := false, verbose := false } }
      return (rest, !rest.isEmpty)
    | ['-', '-'] => return (rest, true)
    | sign :: letters =>
      if sign != '-' && sign != '+' then return (arg :: rest, true)
      let on := sign == '-'
      let named := letters.contains 'o'
      letters.forM fun c => do
        if c != 'o' then
          if !(← other c) then setLetter on c
      if named then
        match rest with
        | name :: rest =>
          setNamed on name
          readSettings other rest
        | [] =>
          let s ← get
          Sh.put (if on then settingsTable s else settingsCommands s)
          return ([], false)
      else readSettings other rest
    | [] => return (arg :: rest, true)

/-- The variables with their values. -/
def variableTable (s : State) : Octets :=
  (sorted (·.1) (s.vars.filter fun (_, v) => v.value.isSome)).flatMap fun (name, v) =>
    name ++ '=' :: quoted (v.value.getD []) ++ ['\n']

/-- Sets parameters and settings, or shows the variables. -/
def setAll (args : List Octets) : Sh Nat := do
  if args.isEmpty then
    Sh.put (variableTable (← get))
    return 0
  let (rest, given) ← readSettings (fun _ => return false) args
  if given then
    modify fun s => { s with args := rest, optionPosition := {} }
  return 0

/-- Drops parameters from the front. -/
def shift (args : List Octets) : Sh Nat := do
  let n ← match args with
    | arg :: _ => number arg
    | [] => pure 1
  let s ← get
  if s.args.length < n then Sh.fail (ascii "can't shift that many")
  set { s with args := s.args.drop n, optionPosition := {} }
  return 0

/-! ### Reading options -/

/-- What was found at the position of an option. -/
structure OptionFound where
  letter : Char
  value : Option Octets := some []
  /-- The argument after the present one. -/
  index : Nat
  offset : Option Nat := none
  /-- What is said about it. -/
  complaint : Option Octets := none
  isOver : Bool := false

/-- Looks for the next option. -/
def nextOption (known : Octets) (args : List Octets) (position : OptionPosition) :
    OptionFound :=
  let before := if position.index ≤ 1 then none else args[position.index - 2]?
  let inside := match before, position.offset with
    | some arg, some offset => arg.drop offset
    | _, _ => []
  let quiet := known.head? == some ':'
  -- The letters from the present one on, and the argument after them.
  let start : Option (Octets × Nat) :=
    if !inside.isEmpty then some (inside, position.index)
    else match args[position.index - 1]? with
      | some ('-' :: c :: cs) => some (c :: cs, position.index + 1)
      | _ => none
  match start with
  | none => { letter := '?', value := none, index := position.index, isOver := true }
  | some (['-'], index) => if inside.isEmpty then
        { letter := '?', value := none, index, isOver := true }
      else { letter := '?', index, complaint := some (ascii "Illegal option --") }
  | some ([], index) => { letter := '?', value := none, index, isOver := true }
  | some (c :: rest, index) =>
    let offset := match args[index - 2]? with
      | some arg => if rest.isEmpty then some arg.length else some (arg.length - rest.length)
      | none => none
    let tail := known.dropWhile (· != c)
    if tail.isEmpty then
      if quiet then { letter := '?', value := some [c], index, offset }
      else { letter := '?', value := none, index, offset
             complaint := some (ascii "Illegal option -" ++ [c]) }
    else if tail.tail.head? != some ':' then { letter := c, index, offset }
    else if !rest.isEmpty then { letter := c, value := some rest, index }
    else match args[index - 1]? with
      | some value => { letter := c, value := some value, index := index + 1 }
      | none =>
        if quiet then { letter := ':', value := some [c], index, offset }
        else { letter := '?', value := none, index, offset
               complaint := some (ascii "No arg for -" ++ [c] ++ ascii " option") }

/-- Reads the next option into a variable. -/
def getOption (args : List Octets) : Sh Nat := do
  match args with
  | known :: name :: given =>
    let s ← get
    let args := if given.isEmpty then s.args else given
    let position := if args.length + 1 < s.optionPosition.index then {} else s.optionPosition
    let found := nextOption known args position
    if let some text := found.complaint then Sh.say (text ++ ['\n'])
    if !found.isOver then
      match found.value with
      | some value => Sh.assign (ascii "OPTARG") value
      | none => Sh.unassign (ascii "OPTARG")
    Sh.assign (ascii "OPTIND") (Octets.ofNat found.index)
    checkName name
    Sh.assign name [found.letter]
    modify fun s => { s with optionPosition := ⟨found.index, found.offset⟩ }
    return if found.isOver then 1 else 0
  | _ => Sh.fail (ascii "Usage: getopts optstring var [arg...]")

/-! ### Reading lines -/

/-- A line in the reading: its characters, latest first, each with whether it may separate fields.
-/
structure Line where
  chars : List (Char × Bool) := []
  escaped : Bool := false

/-- Reads a line, character by character; answers with whether its end was seen. -/
def readLine (raw : Bool) (opening : Nat) (line : Line) : Nat → Sh (List (Char × Bool) × Bool)
  | 0 => return (line.chars.reverse, false)
  | n + 1 => do
    match ← Sh.act (Act.readSome opening 1) with
    | .error _ => return (line.chars.reverse, false)
    | .ok part =>
      match part.toList with
      | [] => return (line.chars.reverse, false)
      | b :: _ =>
        let c := Char.ofNat b.toNat
        if c = '\x00' then readLine raw opening line n
        else if line.escaped then
          let chars := if c = '\n' then line.chars else (c, false) :: line.chars
          readLine raw opening ⟨chars, false⟩ n
        else if c = '\\' && !raw then readLine raw opening { line with escaped := true } n
        else if c = '\n' then return (line.chars.reverse, true)
        else readLine raw opening ⟨(c, true) :: line.chars, false⟩ n

/-- Where the splitting of a line stands: the fields that are complete and the present one, latest
first, how many more may be completed, the place from which the present one is cut off at its end,
and whether white space has just separated. -/
structure Cut where
  fields : List Octets := []
  present : Octets := []
  more : Nat
  cutFrom : Option Nat := none
  afterGap : Bool := false

/-- Goes on by one character. The last field takes all that is left, without white space at its end,
and without a separator that nothing follows. -/
def Cut.step (separates isGap : Char → Bool) (k : Cut) (entry : Char × Bool) : Cut :=
  let (c, mayCut) := entry
  let push (k : Cut) : Cut := { k with present := c :: k.present }
  if !mayCut then { push k with afterGap := false }
  else
    let isSep := separates c
    let gap := isSep && isGap c
    if k.more = 0 then
      if gap then push { k with cutFrom := some (k.cutFrom.getD k.present.length) }
      else push { k with
        cutFrom := if isSep && k.afterGap then k.cutFrom else none, afterGap := false }
    else if k.afterGap && gap then { k with present := [] }
    else if k.afterGap && isSep then { k with present := [], afterGap := false }
    else if isSep then
      if gap && k.present.isEmpty then { k with afterGap := false }
      else if k.more = 1 then
        push { k with more := 0, cutFrom := some k.present.length, afterGap := gap }
      else
        { k with
          fields := k.present.reverse :: k.fields
          present := []
          more := k.more - 1
          afterGap := gap }
    else push { k with afterGap := false }

/-- Splits a line into at most so many fields. -/
def splitLine (s : State) (most : Nat) (line : List (Char × Bool)) : List Octets :=
  let sp := Expand.splitter s
  let k := line.foldl (Cut.step (fun c => sp.separates (some c)) (fun c => sp.isGap (some c)))
    { more := most }
  let last := k.present.reverse
  let last := match k.cutFrom with
    | some n => last.take n
    | none => last
  (if last.isEmpty then k.fields else last :: k.fields).reverse

/-- Gives values to variables, in order; those without a value become empty. -/
def assignEach : List Octets → List Octets → Sh Unit
  | [], _ => return
  | name :: names, values => do
    checkName name
    Sh.assign name (values.headD [])
    assignEach names values.tail

/-- Reads a line into variables. -/
def readInto (args : List Octets) : Sh Nat := do
  let (chosen, names) ← options "p:r" args
  if names.isEmpty then Sh.fail (ascii "arg count")
  let raw := chosen.any (·.1 == 'r')
  let (line, complete) ← match (← get).streams.lookup 0 with
    | some opening => readLine raw opening {} Act.patience
    | none => pure ([], false)
  assignEach names (splitLine (← get) names.length line)
  return if complete then 0 else 1

end Tandem.Host.Shell.Builtin
