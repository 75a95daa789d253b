import Tandem.Host.Shell.Source

/-!
# Words

How words are read: plain characters, quotes, and what follows a dollar sign or stands between
backquotes. The scripts inside words are read by a reader that is given.
-/

namespace Tandem.Host.Shell.Words

open Reading

/-- The readers for the scripts inside words: up to a closing parenthesis, which is taken as well,
or up to the end. -/
structure Inner where
  upToParen : Reading Script
  upToEnd : Reading Script

/-- What surrounds the characters of a word. -/
inductive Setting where
  /-- Nothing but other words. -/
  | plain
  /-- Nothing, and dollar signs and backquotes are plain characters. -/
  | mark
  /-- The braces of a parameter outside of quotes. -/
  | braces
  /-- Double quotes. -/
  | quotes
  /-- The braces of a parameter inside of quotes. -/
  | quotedBraces
  /-- A text below a command. -/
  | document
  /-- An arithmetic expression, with so many parentheses open. -/
  | arithmetic (depth : Nat)
  deriving DecidableEq

namespace Setting

/-- Characters count as quoted. -/
def quoted : Setting → Bool
  | .plain | .mark | .braces => false
  | _ => true

/-- The setting of the word behind an operation. -/
def inBraces (s : Setting) (operation : Operation) : Setting :=
  match operation with
  | .trimFront _ | .trimEnd _ => .braces
  | _ => if s.quoted then .quotedBraces else .braces

end Setting

/-- The backquote. -/
def backquote : Char := Char.ofNat 0x60

/-- A character that ends a plain word. -/
def endsWord (c : Char) : Bool :=
  c == ' ' || c == '\t' || c == '\n' || c == ';' || c == '&' || c == '|' || c == '(' ||
    c == ')' || c == '<' || c == '>'

/-- A parameter with a name that is no letter and no digit. -/
def isSpecial (c : Char) : Bool :=
  c == '@' || c == '*' || c == '#' || c == '?' || c == '$' || c == '!' || c == '-'

/-- Reads up to the closing single quote. -/
def singles (d : Draft) : Nat → Reading Draft
  | 0 => unfinished
  | n + 1 => do
    match ← peek? with
    | none => unfinished
    | some c =>
      take
      if c = '\'' then return d else singles (d.put c true) n

/-- Reads the script between backquotes, in which a backslash hides only some characters. -/
def backquoted (quoted : Bool) : Nat → Reading Octets
  | 0 => mistake "EOF in backquote substitution"
  | n + 1 => do
    match ← peekJoined? with
    | none => mistake "EOF in backquote substitution"
    | some c =>
      take
      if c = backquote then return []
      else if c = '\\' then
        match ← peek? with
        | none => mistake "EOF in backquote substitution"
        | some e =>
          take
          let hidden := e == '\\' || e == backquote || e == '$' || (quoted && e == '"')
          let rest ← backquoted quoted n
          return if hidden then e :: rest else '\\' :: e :: rest
      else return c :: (← backquoted quoted n)

/-- Reads the operation behind the name of a parameter. What is none is taken all the same. -/
def operation : Reading Operation := do
  let doubled (c : Char) (f : Bool → Operation) : Reading Operation := do
    take
    return f (← accept c)
  let byLetter (orEmpty : Bool) : Reading Operation := do
    match ← peekJoined? with
    | some '-' => take; return .instead orEmpty
    | some '=' => take; return .assign orEmpty
    | some '?' => take; return .demand orEmpty
    | some '+' => take; return .other orEmpty
    | _ => swallow; return .bad
  match ← peekJoined? with
  | some '\x7d' => return .plain
  | some '#' => doubled '#' .trimFront
  | some '%' => doubled '%' .trimEnd
  | some ':' =>
    take
    byLetter true
  | _ => byLetter false

/-- Reads the name of a parameter in braces, and what is done with its value. -/
def parameter : Reading (Octets × Operation) := do
  let n ← size
  let plainName : Reading Octets := do
    match ← peekJoined? with
    | some c => if isNameStart c then takeName isNameChar n else takeName Char.isDigit n
    | none => return []
  let lengthOf (name : Octets) : Reading (Octets × Operation) := do
    return (name, if (← peekJoined?) == some '\x7d' then .length else .bad)
  match ← peekJoined? with
  | none => return ([], .bad)
  | some '#' =>
    take
    match ← peekJoined? with
    | some c =>
      if isNameChar c then lengthOf (← plainName)
      else if c != '\x7d' && isSpecial c then
        let s ← get
        take
        if (← peekJoined?) == some '\x7d' then return ([c], .length)
        else
          set s
          return (['#'], ← operation)
      else return (['#'], ← operation)
    | none => return (['#'], .bad)
  | some c =>
    if isNameChar c then return (← plainName, ← operation)
    else if isSpecial c then
      take
      return ([c], ← operation)
    else
      if c != '\x7d' then swallow
      return ([], .bad)

/-- Reads characters of a word in a setting. -/
def read (inner : Inner) (setting : Setting) (d : Draft) : Nat → Reading Draft
  | 0 => unfinished
  | n + 1 => do
    let again (d : Draft) : Reading Draft := read inner setting d n
    let nested (setting : Setting) : Reading Word := do
      return (← read inner setting {} n).word
    let quoted := setting.quoted
    -- What follows a dollar sign.
    let dollar : Reading Draft := do
      match ← peekJoined? with
      | some '(' =>
        take
        if ← accept '(' then return d.add (.arithmetic (← nested (.arithmetic 0)) quoted)
        else return d.add (.output (← asScript inner.upToParen) quoted)
      | some '\x7b' =>
        take
        let (name, op) ← parameter
        if op = .plain then
          take
          return d.add (.value name .plain [] quoted)
        else
          let word ← nested (setting.inBraces op)
          return d.add (.value name op word quoted)
      | some c =>
        if isNameStart c then
          return d.add (.value (← takeName isNameChar (← size)) .plain [] quoted)
        else if c.isDigit || isSpecial c then
          take
          return d.add (.value [c] .plain [] quoted)
        else return d.put '$' quoted
      | none => return d.put '$' quoted
    -- What stands between double quotes.
    let doubles : Reading Draft := do
      let inside ← read inner .quotes d.close n
      return if inside.grew d.close then inside.close else d.addEmpty
    match ← peek? with
    | none => match setting with
      | .plain | .mark | .document => return d
      | .braces => mistake "Missing '\x7d'"
      | .arithmetic _ => mistake "Missing '))'"
      | .quotes | .quotedBraces => unfinished
    | some c =>
      if setting == .plain || setting == .mark then
        if endsWord c then return d
      match c, setting with
      | '\\', _ =>
        take
        match ← peek? with
        | none => again (d.put '\\' true)
        | some '\n' =>
          take
          again d
        | some e =>
          take
          let hidden := !quoted || e == '\\' || e == backquote || e == '$' ||
            (e == '"' && setting != .document) ||
            (e == '\x7d' && setting == .quotedBraces)
          again (if hidden then d.put e true else (d.put '\\' true).put e true)
      | '$', .mark =>
        take
        again (d.put '$' false)
      | '$', _ =>
        take
        again (← dollar)
      | '\'', .plain | '\'', .mark | '\'', .braces =>
        take
        let inside ← singles d.close (← size)
        again (if inside.grew d.close then inside.close else d.addEmpty)
      | '"', .quotes =>
        take
        return d
      | '"', .plain | '"', .mark | '"', .braces | '"', .quotedBraces =>
        take
        again (← doubles)
      | '\x7d', .braces | '\x7d', .quotedBraces =>
        take
        return d
      | '(', .arithmetic depth =>
        take
        read inner (.arithmetic (depth + 1)) (d.put c true) n
      | ')', .arithmetic (depth + 1) =>
        take
        read inner (.arithmetic depth) (d.put c true) n
      | ')', .arithmetic 0 =>
        take
        if ← accept ')' then return d else again (d.put c true)
      | _, _ =>
        if c = backquote && setting != .mark then
          take
          let text ← backquoted quoted (← size)
          again (d.add (.output (← within false 1 text inner.upToEnd) quoted))
        else
          take
          again (d.put c quoted)

/-- Reads a word that starts here. -/
def word (inner : Inner) : Reading Word := do
  return (← read inner .plain {} (← size)).word

/-- Reads a word in which dollar signs and backquotes mean nothing. -/
def mark (inner : Inner) : Reading Word := do
  return (← read inner .mark {} (← size)).word

/-- The characters of a word without its quotes. -/
def unquoted (w : Word) : Octets :=
  w.flatMap fun
    | .text cs _ => cs
    | _ => []

/-- Something in the word is quoted. -/
def hasQuotes (w : Word) : Bool :=
  w.any fun
    | .text _ quoted => quoted
    | _ => false

/-! ### Texts below commands -/

/-- Takes one line with its end; `none` at the end of everything. -/
def line? : Reading (Option Octets) := do
  let s ← get
  match s.rest with
  | [] =>
    set { s with sawEnd := true }
    return none
  | rest =>
    let text := rest.takeWhile (· != '\n')
    match rest.drop text.length with
    | c :: more =>
      set { s with rest := more, line := s.line + 1 }
      return some (text ++ [c])
    | [] =>
      set { s with rest := [], sawEnd := true }
      return some text

/-- A backslash hides the end of the line. -/
def hidesEnd (line : Octets) : Bool :=
  match line.reverse with
  | '\n' :: more => (more.takeWhile (· == '\\')).length % 2 == 1
  | _ => false

/-- Takes lines up to the one that is the mark. -/
def linesTo (p : Promise) (hidden : Bool) : Nat → Reading Octets
  | 0 => return []
  | n + 1 => do
    match ← line? with
    | none => return []
    | some line =>
      let line := if p.stripTabs && !hidden then line.dropWhile (· == '\t') else line
      let bare := match line.reverse with
        | '\n' :: more => more.reverse
        | _ => line
      if !hidden && bare = p.mark then return []
      else return line ++ (← linesTo p (!p.literal && hidesEnd line) n)

/-- Reads the texts that were promised. -/
def documents (inner : Inner) : Reading Unit := do
  let s ← get
  set { s with promises := [] }
  s.promises.forM fun p => do
    let line := (← get).line
    let text ← linesTo p false (← size)
    let after := (← get).line
    let expanding : Reading Word := do return (← read inner .document {} (← size)).word
    -- What is found missing at the end of the text is missed on the line below it.
    let below (e : SyntaxError) : Reading Word :=
      throw (if e.line = line + text.count '\n' then { e with line := after } else e)
    let word ← if p.literal then pure [.text text true]
      else tryCatch (within true line text expanding) below
    modify fun s => { s with documents := (p.id, word) :: s.documents }

end Tandem.Host.Shell.Words
