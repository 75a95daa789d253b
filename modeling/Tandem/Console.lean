import Tandem.Fault

/-!
# The console

The stream that reports and differences are written to. It may accept only so many bytes in all,
and refuse the rest in one of two ways, and it may fail to flush. Whatever is written, the bytes it
has accepted are a beginning of the bytes it was offered, with no gap.
-/

namespace Tandem

/-- What a full console does with more bytes. -/
inductive WhenFull where
  /-- It fails. -/
  | fails
  /-- It accepts none of them without failing. -/
  | stalls
  deriving DecidableEq, Repr

/-- A stream with what it has accepted so far. -/
structure Console where
  limit : Option Nat := none
  whenFull : WhenFull := .fails
  flushFails : Bool := false
  accepted : Bytes := []
  deriving DecidableEq, Repr

namespace Console

/-- The part of the bytes on offer that still fits. -/
def fitting (c : Console) (bs : Bytes) : Bytes :=
  match c.limit with
  | none => bs
  | some limit => bs.take (limit - c.accepted.length)

/-- The fault of a write for which there is no room. -/
def refusal (c : Console) : Fault :=
  match c.whenFull with
  | .fails => .consoleFull
  | .stalls => .shortWrite

/-- Writes all of `bs`, or as much as fits before failing. -/
def write (bs : Bytes) (c : Console) : Console × Except Fault Unit :=
  let part := c.fitting bs
  ({ c with accepted := c.accepted ++ part },
    if part.length < bs.length then .error c.refusal else .ok ())

/-- Writes pieces in order, up to the first failure. -/
def writeAll : List Bytes → Console → Console × Except Fault Unit
  | [], c => (c, .ok ())
  | piece :: pieces, c =>
    match c.write piece with
    | (c, .ok ()) => writeAll pieces c
    | failed => failed

/-- Makes sure that what was accepted is seen. -/
def flush (c : Console) : Except Fault Unit :=
  if c.flushFails then .error .flushFailed else .ok ()

end Console

end Tandem
