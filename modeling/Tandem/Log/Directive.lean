import Tandem.Log.Level
import Tandem.Log.Pattern.Reader
import Tandem.Text.Utf8

/-!
# Directives of a log filter

A directive names what it is about and the rank up to which it lets notes pass. In full it reads

    target[activity{field=value}]=level

and each part may be missing: a lone word is a level if it spells one and a target otherwise. Blanks
around a directive count for finding its parts, and not for cutting them out, so a directive with a
blank in front is about a target with that blank in its name.
-/

namespace Tandem

/-- What a field has to hold. -/
inductive FieldValue where
  /-- A truth value or a number. Fields hold texts, so no field holds it. -/
  | scalar (text : String)
  /-- A text that the pattern accepts. -/
  | pattern (text : String) (pattern : Pattern)
  deriving DecidableEq, Repr

/-- A field that has to be there, and perhaps what it has to hold. -/
structure FieldTest where
  name : String
  value : Option FieldValue
  deriving DecidableEq, Repr

/-- Notes about `target` are let pass up to `rank`; `activity` and `field` narrow it down to notes
inside an activity. -/
structure Directive where
  target : Option String := none
  activity : Option String := none
  field : Option FieldTest := none
  rank : Nat := Level.most
  deriving DecidableEq, Repr

namespace FieldValue

/-- The digits of a number with a point and an exponent. -/
def isDecimal (cs : List Char) : Bool :=
  let whole := cs.takeWhile Char.isDigit
  let rest := cs.dropWhile Char.isDigit
  let (part, rest) := match rest with
    | '.' :: more => (more.takeWhile Char.isDigit, more.dropWhile Char.isDigit)
    | _ => ([], rest)
  let isExponent (e : Char) (digits : List Char) : Bool :=
    e.toLower == 'e' && !digits.isEmpty && digits.all Char.isDigit
  let exponent := match rest with
    | [] => true
    | e :: '+' :: digits | e :: '-' :: digits | e :: digits => isExponent e digits
  !(whole ++ part).isEmpty && exponent

/-- A truth value or a number. -/
def isScalar (text : String) : Bool :=
  let unsigned := match text.toList with
    | '+' :: cs | '-' :: cs => cs
    | cs => cs
  text == "true" || text == "false" || isDecimal unsigned ||
    ["inf", "infinity", "nan"].contains (String.ofList (unsigned.map Char.toLower))

/-- What a text says about the value of a field. -/
def ofText? (text : String) : Option FieldValue :=
  if isScalar text then some (.scalar text)
  else (Pattern.ofText? text).map (.pattern text)

/-- The text of a field is as it has to be. -/
def accepts (value : String) : FieldValue → Bool
  | .scalar _ => false
  | .pattern _ p => p.accepts value

end FieldValue

/-- A field test is a name, or a name and a value with `=` between them. -/
def FieldTest.ofText? (text : String) : Option FieldTest :=
  match text.toList.dropWhile (· != '=') with
  | [] => some ⟨text, none⟩
  | _ :: value => do
    let v ← FieldValue.ofText? (String.ofList (value.takeWhile (· != '=')))
    some ⟨String.ofList (text.toList.takeWhile (· != '=')), some v⟩

namespace Directive

/-- A text with and without the blanks at its ends. Parts are found in the one and cut out of the
other. -/
structure Source where
  raw : Bytes
  trimmed : Bytes

namespace Source

/-- The bytes from one place up to another. -/
def cut (s : Source) (start stop : Nat) : Option String :=
  Utf8.decode? ((s.raw.take stop).drop start)

/-- The bytes from a place on. -/
def cutFrom (s : Source) (start : Nat) : Option String :=
  s.cut start s.raw.length

/-- The next place, from a place on, with one of some characters, and that character. -/
def find (s : Source) (start : Nat) (cs : List Char) : Option (Nat × Char) :=
  let ahead := (s.trimmed.drop start).map fun b => Char.ofNat b.toNat
  match ahead.dropWhile (!cs.contains ·) with
  | [] => none
  | c :: rest => some (start + (ahead.length - rest.length - 1), c)

end Source

/-- A character that a target may start with. -/
def startsTarget (c : Char) : Bool :=
  isAlphanumeric c || c == '_' || c == ':' || c == '-'

/-- The directive with the level that is spelled from a place on, if anything is. -/
def withLevel (s : Source) (start : Nat) (d : Directive) : Option Directive := do
  let text ← s.cutFrom start
  if text.isEmpty then some d else (Level.rankOfText? text).map ({ d with rank := · })

/-- The directive with what follows its bracket. -/
def afterBracket (s : Source) (start : Nat) (d : Directive) : Option Directive :=
  match s.trimmed.drop start with
  | [] => some d
  | b :: _ => if b = 0x3D then withLevel s (start + 1) d else none

/-- The directive with the field that starts at a place. -/
def withField (s : Source) (start : Nat) (d : Directive) : Option Directive := do
  let (stop, _) ← s.find start ['\x7d']
  let test ← FieldTest.ofText? (← s.cut start stop)
  if stop = start || s.trimmed[stop + 1]? != some 0x5D then none
  else afterBracket s (stop + 2) { d with field := some test }

/-- The directive with the activity whose name starts at a place. -/
def withActivity (s : Source) (start : Nat) (d : Directive) : Option Directive := do
  let (stop, c) ← s.find start [']', '\x7b']
  let name ← s.cut start stop
  if c = ']' then afterBracket s (stop + 1) { d with activity := some name }
  else withField s (stop + 1) { d with activity := if name.isEmpty then none else some name }

/-- The directive that a text spells. -/
def ofText? (text : String) : Option Directive :=
  let s : Source := ⟨Utf8.encode text, Utf8.encode (strip text)⟩
  match (strip text).toList with
  | [] => none
  | '[' :: _ => withActivity s 1 {}
  | c :: _ =>
    if !startsTarget c then none
    else match s.find 0 ['=', '['] with
      | none => match Level.rankOfText? text with
        | some rank => some { rank }
        | none => some { target := some text }
      | some (stop, sign) => do
        let d : Directive := { target := some (← s.cut 0 stop) }
        if sign = '=' then withLevel s (stop + 1) d else withActivity s (stop + 1) d

/-- The directive looks at the activities that a note happens in. -/
def isDynamic (d : Directive) : Bool :=
  d.activity.isSome || d.field.isSome

/-- The directive looks at nothing that only an activity tells. -/
def isStatic (d : Directive) : Bool :=
  d.activity.isNone && !(d.field.any (·.value.isSome))

end Directive

end Tandem
