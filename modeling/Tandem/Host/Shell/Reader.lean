import Tandem.Host.Shell.Words

/-!
# Commands

How commands are read. A script is read one line at a time, where a line goes on as long as a
command is unfinished; a mistake is found only when the reader comes to it, and says which token was
not expected there.
-/

namespace Tandem.Host.Shell.Reader

open Tandem.Host.Shell.Reading Tandem.Host.Shell.Words

/-- What is looked for where a token is read: line ends are skipped, keywords are told from words,
and aliases are replaced. -/
structure Look where
  newlines : Bool := false
  keywords : Bool := false
  aliases : Bool := false

/-- Where a command starts. -/
def Look.command : Look := ⟨false, true, true⟩

/-- Where a command starts on this line or a later one. -/
def Look.later : Look := ⟨true, true, true⟩

/-- A token as it is called in a complaint. -/
def Token.shown : Token → String
  | .endOfFile => "end of file"
  | .newline => "newline"
  | .semicolon => "\";\""
  | .ampersand => "\"&\""
  | .and => "\"&&\""
  | .or => "\"||\""
  | .bar => "\"|\""
  | .openParen => "\"(\""
  | .closeParen => "\")\""
  | .doubleSemicolon => "\";;\""
  | .redirect .. => "redirection"
  | .word _ => "word"
  | .key k => match Keyword.named.find? (·.2 == k) with
    | some (name, _) => "\"" ++ name ++ "\""
    | none => "word"

/-- The token ends a list of commands. -/
def Token.closes : Token → Bool
  | .endOfFile | .closeParen | .doubleSemicolon => true
  | .key k => [Keyword.do, .done, .elif, .else, .esac, .fi, .then, .closeBrace].contains k
  | _ => false

/-- Gives up because of a token, saying what was expected instead. -/
def unexpected {α : Type} (t : Token) (expected : Option String) : Reading α :=
  mistake (Token.shown t ++ " unexpected" ++ match expected with
    | some e => " (expecting " ++ e ++ ")"
    | none => "")

/-! ### Tokens -/

/-- Skips what stands between tokens. -/
def skip : Nat → Reading Unit
  | 0 => return
  | n + 1 => do
    match ← peekJoined? with
    | some ' ' | some '\t' =>
      take
      skip n
    | some '#' =>
      modify fun s => { s with rest := s.rest.dropWhile (· != '\n') }
      skip n
    | _ => return

/-- Reads a sign of redirection that starts here, for the stream with a number or the usual one. -/
def redirection (stream : Option Nat) : Reading Token := do
  let make (usual : Nat) (d : Direction) : Token := .redirect (stream.getD usual) d false
  if ← accept '>' then
    if ← accept '>' then return make 1 .append
    else if ← accept '|' then return make 1 .clobber
    else if ← accept '&' then return make 1 .copy
    else return make 1 .write
  else
    take
    if ← accept '<' then
      let id := (← get).nextDocument
      modify fun s => { s with nextDocument := id + 1 }
      let strip ← accept '-'
      return .redirect (stream.getD 0) (.here id) strip
    else if ← accept '&' then return make 0 .copy
    else if ← accept '>' then return make 0 .update
    else return make 0 .read

/-- A digit right in front of a sign of redirection. -/
def leadingStream? : Reading (Option Nat) := do
  match (← get).rest with
  | d :: c :: _ =>
    if d.isDigit && (c == '<' || c == '>') then return some (d.toNat - '0'.toNat) else return none
  | _ => return none

/-- Reads a token without regard for what it means here. -/
def rawToken (inner : Inner) (asMark : Bool) : Reading Token := do
  skip (← size)
  match ← peekJoined? with
  | none => return .endOfFile
  | some '\n' => take; return .newline
  | some '&' => take; return if ← accept '&' then .and else .ampersand
  | some '|' => take; return if ← accept '|' then .or else .bar
  | some ';' => take; return if ← accept ';' then .doubleSemicolon else .semicolon
  | some '(' => take; return .openParen
  | some ')' => take; return .closeParen
  | some c =>
    if c == '<' || c == '>' then redirection none
    else match ← leadingStream? with
      | some n =>
        take
        redirection (some n)
      | none => return .word (← if asMark then mark inner else word inner)

/-- Reads the next token, or the one that was put back. -/
def nextToken (inner : Inner) (asMark : Bool) : Reading Token := do
  match (← get).pushed with
  | some t =>
    modify fun s => { s with pushed := none }
    return t
  | none => rawToken inner asMark

/-- Skips line ends; texts that were promised are read at each of them. -/
def skipNewlines (inner : Inner) (t : Token) : Nat → Reading Token
  | 0 => return t
  | n + 1 => do
    match t with
    | .newline =>
      documents inner
      skipNewlines inner (← nextToken inner false) n
    | t => return t

/-- The aliases whose text is still being read. -/
def busyAliases (s : Source) : List Octets :=
  (s.expanding.filter fun (_, after) => after < s.rest.length).map (·.1)

/-- Reads a token in the light of what is looked for. -/
def token (inner : Inner) (look : Look) : Nat → Reading Token
  | 0 => mistake "out of patience"
  | n + 1 => do
    let t ← nextToken inner false
    let t ← if look.newlines then skipNewlines inner t (← size) else pure t
    match t with
    | .word w =>
      match w.plain? with
      | none => return t
      | some cs =>
        match (if look.keywords then Keyword.named.lookup (String.ofList cs) else none) with
        | some k => return .key k
        | none =>
          let s ← get
          match (if look.aliases then s.aliases.lookup cs else none) with
          | none => return t
          | some text =>
            if (busyAliases s).contains cs then return t
            else
              set { s with rest := text ++ s.rest, expanding := (cs, s.rest.length) :: s.expanding }
              token inner look n
    | t => return t

/-- Reads a token. -/
def read (inner : Inner) (look : Look) : Reading Token :=
  token inner look 1000

/-- Puts a token back. -/
def putBack (t : Token) : Reading Unit :=
  modify fun s => { s with pushed := some t }

/-- Reads a token that has to be a keyword. -/
def expectKey (inner : Inner) (k : Keyword) : Reading Unit := do
  let t ← read inner {}
  match t with
  | .key found => if found = k then return else unexpected t (some (Token.shown (.key k)))
  | t => unexpected t (some (Token.shown (.key k)))

/-! ### Commands -/

/-- How a list of commands ends. -/
inductive Extent where
  /-- With its line. -/
  | line
  /-- Where a token closes it, after at least one command. -/
  | some
  /-- Where a token closes it. -/
  | any
  deriving DecidableEq

/-- The readers for the scripts inside commands. -/
structure Bodies where
  inner : Inner
  list : Extent → Reading (Option Script)
  command : Reading Script

/-- Reads the word behind a sign of redirection. -/
def target (inner : Inner) (stream : Nat) (direction : Direction) (stripTabs : Bool) :
    Reading Redirect := do
  match direction with
  | .here id =>
    match ← nextToken inner true with
    | .word w =>
      modify fun s => { s with
        promises := s.promises ++ [⟨id, unquoted w, hasQuotes w, stripTabs⟩] }
      return .mk stream direction []
    | t => unexpected t none
  | _ =>
    match ← read inner {} with
    | .word w => return .mk stream direction w
    | t => unexpected t none

/-- Reads redirections as long as there are any. -/
def redirections (inner : Inner) : Nat → Reading (List Redirect)
  | 0 => return []
  | n + 1 => do
    match ← read inner Look.command with
    | .redirect stream direction strip =>
      let r ← target inner stream direction strip
      return r :: (← redirections inner n)
    | t =>
      putBack t
      return []

/-- What a simple command has so far, latest first. -/
structure Draft where
  assignments : List (Octets × Word) := []
  words : List Word := []
  redirects : List Redirect := []

/-- Commands whose names no function may have. -/
def specialNames : List String :=
  [".", ":", "break", "continue", "eval", "exec", "exit", "export", "readonly", "return", "set",
    "shift", "times", "trap", "unset"]

/-- Reads a simple command, or the definition of a function. -/
def simple (b : Bodies) (line : Nat) (d : Draft) : Nat → Reading Script
  | 0 => mistake "out of patience"
  | n + 1 => do
    let finish : Reading Script :=
      pure (.simple line d.assignments.reverse d.words.reverse d.redirects.reverse)
    match ← read b.inner ⟨false, false, d.words.isEmpty⟩ with
    | .word w =>
      match d.words.isEmpty, w.assignment? with
      | true, some a => simple b line { d with assignments := a :: d.assignments } n
      | _, _ => simple b line { d with words := w :: d.words } n
    | .redirect stream direction strip =>
      let r ← target b.inner stream direction strip
      simple b line { d with redirects := r :: d.redirects } n
    | .openParen =>
      match d.words, d.assignments, d.redirects with
      | [name], [], [] =>
        match ← read b.inner {} with
        | .closeParen =>
          match name.plain? with
          | some cs =>
            if isName cs && !specialNames.contains (String.ofList cs) then
              let t ← read b.inner Look.later
              putBack t
              return .define cs (← b.command)
            else mistake "Bad function name"
          | none => mistake "Bad function name"
        | t => unexpected t (some (Token.shown .closeParen))
      | _, _, _ =>
        putBack .openParen
        finish
    | t =>
      putBack t
      finish

/-- The script of a list, which may be empty. -/
def orNothing (s : Option Script) : Script :=
  s.getD .nothing

/-- Reads the rest of a conditional, from its test on. -/
def branch (b : Bodies) : Nat → Reading Script
  | 0 => mistake "out of patience"
  | n + 1 => do
    let test ← b.list .some
    expectKey b.inner .then
    let yes ← b.list .some
    match ← read b.inner {} with
    | .key .elif =>
      return .branch (orNothing test) (orNothing yes) (← branch b n)
    | .key .else =>
      let no ← b.list .some
      expectKey b.inner .fi
      return .branch (orNothing test) (orNothing yes) (orNothing no)
    | t =>
      putBack t
      expectKey b.inner .fi
      return .branch (orNothing test) (orNothing yes) .nothing

/-- Reads words up to the end of their list. -/
def wordsToEnd (inner : Inner) : Nat → Reading (List Word)
  | 0 => return []
  | n + 1 => do
    match ← read inner {} with
    | .word w => return w :: (← wordsToEnd inner n)
    | .newline =>
      documents inner
      return []
    | .semicolon => return []
    | t => unexpected t none

/-- Reads a loop over words, from its variable on. -/
def each (b : Bodies) (line : Nat) : Reading Script := do
  let name ← match ← read b.inner {} with
    | .word w => match w.plain? with
      | some cs => if isName cs then pure cs else mistake "Bad for loop variable"
      | none => mistake "Bad for loop variable"
    | _ => mistake "Bad for loop variable"
  let words ← match ← read b.inner Look.later with
    | .key .in => wordsToEnd b.inner (← size)
    | .semicolon => pure [[.value ['@'] .plain [] true]]
    | t => do
      putBack t
      pure [[.value ['@'] .plain [] true]]
  match ← read b.inner Look.later with
  | .key .do => pure ()
  | t => unexpected t (some (Token.shown (.key .do)))
  let body ← b.list .some
  expectKey b.inner .done
  return .each line name words (orNothing body)

/-- Reads the patterns of an arm, given the token that they start with. What is no word counts as an
empty pattern. -/
def patterns (inner : Inner) (t : Token) : Nat → Reading (List Word)
  | 0 => return []
  | n + 1 => do
    let w : Word := match t with
      | .word w => w
      | .key k => match Keyword.named.find? (·.2 == k) with
        | some (name, _) => [.text (Octets.ofString name) false]
        | none => []
      | _ => []
    match ← read inner {} with
    | .bar => return w :: (← patterns inner (← read inner {}) n)
    | .closeParen => return [w]
    | t => unexpected t (some (Token.shown .closeParen))

/-- Reads the arms of a choice. -/
def arms (b : Bodies) : Nat → Reading (List (List Word × Script))
  | 0 => return []
  | n + 1 => do
    match ← read b.inner ⟨true, true, false⟩ with
    | .key .esac => return []
    | t =>
      let t ← match t with
        | .openParen => read b.inner {}
        | t => pure t
      let ps ← patterns b.inner t (← size)
      let body ← b.list .any
      match ← read b.inner ⟨true, true, false⟩ with
      | .key .esac => return [(ps, orNothing body)]
      | .doubleSemicolon => return (ps, orNothing body) :: (← arms b n)
      | t => unexpected t (some (Token.shown .doubleSemicolon))

/-- Reads a choice, from its subject on. -/
def choose (b : Bodies) (line : Nat) : Reading Script := do
  match ← read b.inner {} with
  | .word subject =>
    match ← read b.inner Look.later with
    | .key .in => return .choose line subject (← arms b (← size))
    | t => unexpected t (some (Token.shown (.key .in)))
  | t => unexpected t (some (Token.shown (.word [])))

/-- Reads one command with the redirections behind it. -/
def command (b : Bodies) : Reading Script := do
  let line := (← get).line
  let t ← read b.inner {}
  let redirect (body : Script) : Reading Script := do
    let rs ← redirections b.inner (← size)
    return if rs.isEmpty then body else .redirected line body rs
  let loop (untilTrue : Bool) : Reading Script := do
    let test ← b.list .some
    expectKey b.inner .do
    let body ← b.list .some
    expectKey b.inner .done
    return .loop untilTrue (orNothing test) (orNothing body)
  match t with
  | .key .if => redirect (← branch b (← size))
  | .key .while => redirect (← loop false)
  | .key .until => redirect (← loop true)
  | .key .for => redirect (← each b line)
  | .key .case => redirect (← choose b line)
  | .openParen =>
    let body ← b.list .some
    match ← read b.inner {} with
    | .closeParen =>
      let rs ← redirections b.inner (← size)
      return .nested line (orNothing body) rs
    | t => unexpected t (some (Token.shown .closeParen))
  | .key .openBrace =>
    let body ← b.list .some
    expectKey b.inner .closeBrace
    redirect (orNothing body)
  | .word _ | .redirect .. =>
    putBack t
    simple b line {} (← size)
  | t => unexpected t none

/-- Reads the rest of a pipeline. -/
def pipeRest (b : Bodies) : Nat → Reading (List Script)
  | 0 => return []
  | n + 1 => do
    match ← read b.inner {} with
    | .bar =>
      putBack (← read b.inner Look.later)
      let c ← command b
      return c :: (← pipeRest b n)
    | t =>
      putBack t
      return []

/-- Reads a pipeline, which may be negated. -/
def pipeline (b : Bodies) : Reading Script := do
  let t ← read b.inner {}
  let negated := match t with
    | .key .bang => true
    | _ => false
  if negated then putBack (← read b.inner Look.command) else putBack t
  let first ← command b
  let rest ← pipeRest b (← size)
  let body := if rest.isEmpty then first else .pipe (first :: rest)
  return if negated then .negated body else body

/-- Reads what `&&` and `||` join to a script. -/
def andOrRest (b : Bodies) (first : Script) : Nat → Reading Script
  | 0 => return first
  | n + 1 => do
    match ← read b.inner {} with
    | .and =>
      putBack (← read b.inner Look.later)
      andOrRest b (.both first (← pipeline b)) n
    | .or =>
      putBack (← read b.inner Look.later)
      andOrRest b (.either first (← pipeline b)) n
    | t =>
      putBack t
      return first

/-- Puts a script behind those that came before it. -/
def following (before : Option Script) (s : Script) : Option Script :=
  match before with
  | some first => some (.seq first s)
  | none => some s

/-- Reads a list of commands. `before` is what it has so far, and `closable` says that a token may
close it here. -/
def listFrom (b : Bodies) (extent : Extent) (before : Option Script) (closable : Bool) :
    Nat → Reading (Option Script)
  | 0 => return before
  | n + 1 => do
    let t ← read b.inner (if extent = .line then Look.command else Look.later)
    match t with
    | .newline =>
      documents b.inner
      return before
    | .endOfFile =>
      documents b.inner
      putBack t
      return before
    | t =>
      putBack t
      if closable && Token.closes t then return before
      let s ← andOrRest b (← pipeline b) (← size)
      let t ← read b.inner {}
      let s := match t with
        | .ampersand => .background s
        | _ => s
      let sofar := following before s
      let closable := extent != .line
      match t with
      | .newline | .endOfFile =>
        putBack t
        listFrom b extent sofar closable n
      | .ampersand | .semicolon => listFrom b extent sofar closable n
      | t =>
        if extent = .line then unexpected t none
        putBack t
        return sofar

mutual

/-- Reads a list of commands, nested at most so deep. -/
def list (depth : Nat) (extent : Extent) : Reading (Option Script) := do
  match depth with
  | 0 => mistake "nested too deep"
  | depth + 1 => listFrom (bodies depth) extent none (extent = .any) (← size)

/-- The readers for what is nested in commands. -/
def bodies (depth : Nat) : Bodies :=
  { inner := inner depth
    list := fun extent => match depth with
      | 0 => mistake "nested too deep"
      | depth + 1 => list depth extent
    command := match depth with
      | 0 => mistake "nested too deep"
      | depth + 1 => fun s => command (bodies depth) s }

/-- The readers for what is nested in words. -/
def inner (depth : Nat) : Inner :=
  { upToParen := match depth with
      | 0 => mistake "nested too deep"
      | depth + 1 => do
        let body ← list depth .any
        match ← nextToken (inner depth) false with
        | .closeParen => return orNothing body
        | t => unexpected t (some (Token.shown .closeParen))
    upToEnd := match depth with
      | 0 => mistake "nested too deep"
      | depth + 1 => do return orNothing (← list depth .any) }

end

/-- How deep commands may be nested. -/
def deepest : Nat := 10000

/-- What reading a line yields. -/
inductive Line where
  /-- Commands, none of them if the line is empty, and whether the script is known to end here. -/
  | commands (s : Option Script) (last : Bool)
  | finished

/-- The token is the end of everything. -/
def Token.isEnd : Token → Bool
  | .endOfFile => true
  | _ => false

/-- Reads the next line of a script. -/
def line : Reading Line := do
  if (← peek?).isNone then return .finished
  let script ← list deepest .line
  let last := (← get).pushed.any Token.isEnd
  modify fun s => { s with pushed := none, expanding := [] }
  return .commands script last

end Tandem.Host.Shell.Reader
