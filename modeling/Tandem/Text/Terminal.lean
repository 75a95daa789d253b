import Tandem.Text.Utf8

/-!
# Text without terminal controls

What a person typed may hold control characters and escape sequences that a terminal would act on.
Before such text is shown in a message, everything that a terminal would not print is taken out of
it. The reader is the usual state machine of a terminal: each byte moves it from state to state, and
bytes are printed, obeyed or put aside. Printed are the bytes that are printed in their state, and
of those obeyed only the ones that are white space.

There are two ways to take a text through it. `plain` takes a whole text: whatever was begun before
something is printed is over then. `streamed` takes the bytes of a stream as they come: while bytes
are printed a sequence that was begun before stays open, and it goes on with the first byte that
plain text would not print.
-/

namespace Tandem.Terminal

/-- What a terminal is in the middle of. -/
inductive State where
  /-- Plain text. -/
  | ground
  /-- An escape character was met. -/
  | escape
  /-- An escape sequence with intermediate characters. -/
  | escapeIntermediate
  /-- A control sequence, before its parameters. -/
  | csiEntry
  | csiParam
  | csiIntermediate
  /-- A control sequence that makes no sense. -/
  | csiIgnore
  /-- A device control string, before its parameters. -/
  | dcsEntry
  | dcsParam
  | dcsIntermediate
  /-- The data of a device control string. -/
  | dcsPassthrough
  /-- A device control string that makes no sense. -/
  | dcsIgnore
  /-- A command for the operating system. -/
  | oscString
  /-- One of the other strings that are only ended. -/
  | otherString
  deriving DecidableEq, Repr

/-- What a byte does. -/
inductive Action where
  | print
  | obey
  | ignore
  deriving DecidableEq, Repr

/-- A byte between two others. -/
def within (low high b : UInt8) : Bool :=
  low ≤ b && b ≤ high

/-- A control character that does not end a sequence. -/
def isControl (b : UInt8) : Bool :=
  b ≤ 0x17 || b == 0x19 || within 0x1C 0x1F b

/-- A byte in plain text. -/
def ground (b : UInt8) : State × Action :=
  if isControl b || within 0x80 0x8F b || within 0x91 0x9A b || b == 0x9C then (.ground, .obey)
  else if within 0x20 0x7E b || within 0xC2 0xF4 b then (.ground, .print)
  else (.ground, .ignore)

/-- A byte after an escape character. -/
def escape (b : UInt8) : State × Action :=
  if isControl b then (.escape, .obey)
  else if within 0x20 0x2F b then (.escapeIntermediate, .ignore)
  else if b == 0x5B then (.csiEntry, .ignore)
  else if b == 0x5D then (.oscString, .ignore)
  else if b == 0x50 then (.dcsEntry, .ignore)
  else if b == 0x58 || b == 0x5E || b == 0x5F then (.otherString, .ignore)
  else if within 0x30 0x7E b then (.ground, .ignore)
  else (.escape, .ignore)

/-- Where a byte leads to from a state inside a sequence, in which control characters are obeyed or
not. Each step is a range of bytes with the state they lead to. -/
def inside (s : State) (obeys : Bool) (steps : List (UInt8 × UInt8 × State)) (b : UInt8) :
    State × Action :=
  if obeys && isControl b then (s, .obey)
  else match steps.find? fun (low, high, _) => within low high b with
    | some (_, _, next) => (next, .ignore)
    | none => (s, .ignore)

/-- What a byte does in a state, and the state that it leads to. -/
def step (s : State) (b : UInt8) : State × Action :=
  if b == 0x18 || b == 0x1A then (.ground, .obey)
  else if b == 0x1B then (.escape, .ignore)
  else match s with
    | .ground => ground b
    | .escape => escape b
    | .escapeIntermediate => inside s true [(0x30, 0x7E, .ground)] b
    | .csiEntry => inside s true
      [(0x20, 0x2F, .csiIntermediate), (0x30, 0x3F, .csiParam), (0x40, 0x7E, .ground)] b
    | .csiParam => inside s true
      [(0x20, 0x2F, .csiIntermediate), (0x3C, 0x3F, .csiIgnore), (0x40, 0x7E, .ground)] b
    | .csiIntermediate => inside s true [(0x30, 0x3F, .csiIgnore), (0x40, 0x7E, .ground)] b
    | .csiIgnore => inside s true [(0x40, 0x7E, .ground)] b
    | .dcsEntry => inside s false
      [(0x20, 0x2F, .dcsIntermediate), (0x30, 0x3F, .dcsParam), (0x40, 0x7E, .dcsPassthrough)] b
    | .dcsParam => inside s false
      [(0x20, 0x2F, .dcsIntermediate), (0x3C, 0x3F, .dcsIgnore), (0x40, 0x7E, .dcsPassthrough)] b
    | .dcsIntermediate => inside s false
      [(0x30, 0x3F, .dcsIgnore), (0x40, 0x7E, .dcsPassthrough)] b
    | .dcsPassthrough | .dcsIgnore | .otherString => inside s false [(0x9C, 0x9C, .ground)] b
    | .oscString => inside s false [(0x07, 0x07, .ground)] b

/-- White space that is kept although it is not printed. -/
def isSpace (b : UInt8) : Bool :=
  b == 0x20 || b == 0x09 || b == 0x0A || b == 0x0C || b == 0x0D

/-- A byte that goes on with a scalar of several bytes. -/
def isContinuation (b : UInt8) : Bool :=
  within 0x80 0xBF b

/-- A byte with this effect is shown. -/
def isShown (action : Action) (b : UInt8) : Bool :=
  action = .print || (action = .obey && isSpace b)

/-- The bytes that remain of a text. `printing` says that the byte before was kept, so that bytes
which go on with its scalar are kept too. -/
def visible (s : State) (printing : Bool) : Bytes → Bytes
  | [] => []
  | b :: bs =>
    if printing && isContinuation b then b :: visible .ground true bs
    else
      let (next, action) := step s b
      if isShown action b then b :: visible .ground true bs else visible next false bs

/-- What a terminal would print of a text. -/
def plain (text : String) : String :=
  Utf8.lossy (visible .ground false (Utf8.encode text))

/-- How many bytes a scalar has after this first one. -/
def following (b : UInt8) : Nat :=
  ((Utf8.Lead.ofByte? b).map (·.more)).getD 0

/-- The bytes that remain of a stream. `printing` says that the byte before was kept; what follows
is then read as plain text, up to the first byte that is not shown. `more` bytes of the scalar at
hand are still to come, and a scalar of several bytes ends any sequence. -/
def remaining (s : State) (printing : Bool) (more : Nat) : Bytes → Bytes
  | [] => []
  | b :: bs =>
    match more with
    | more + 1 => b :: remaining .ground true more bs
    | 0 =>
      let (next, action) := step s b
      if printing && isShown (ground b).2 b then
        b :: remaining (if following b = 0 then s else .ground) true (following b) bs
      else if isShown action b then b :: remaining next true (following b) bs
      else remaining next false 0 bs

/-- What a terminal would print of a text that reaches it as a stream. -/
def streamed (text : String) : String :=
  Utf8.lossy (remaining .ground false 0 (Utf8.encode text))

end Tandem.Terminal
