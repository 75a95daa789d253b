import Tandem.Edit.Script
import Tandem.Edit.Compact

/-!
# Hunks

A hunk is what a script does between two stretches of kept elements. All deletions of one stretch
count as one, at the position of the first, and so do all additions; a stretch with both is a
change. `hunks` is the whole line comparison: the least script, compacted, cut into hunks.
-/

namespace Tandem.Edit

/-- One difference between two sequences. -/
inductive Hunk where
  /-- `len` old elements from `old` on are gone; the new sequence stands at `new`. -/
  | delete (old len new : Nat)
  /-- `len` new elements from `new` on have come; the old sequence stands at `old`. -/
  | insert (old new len : Nat)
  /-- `oldLen` old elements from `old` on became `newLen` new ones from `new` on. -/
  | change (old oldLen new newLen : Nat)
  deriving DecidableEq, Repr

/-- Deletions and additions since the last kept element: for each kind the first one's positions
and the total length. -/
structure Pending where
  deleted : Option (Nat × Nat × Nat) := none
  inserted : Option (Nat × Nat × Nat) := none
  deriving Repr

namespace Pending

/-- Takes in one more deletion. -/
def delete (p : Pending) (old len new : Nat) : Pending :=
  match p.deleted with
  | some (o, l, n) => { p with deleted := some (o, l + len, n) }
  | none => { p with deleted := some (old, len, new) }

/-- Takes in one more addition. -/
def insert (p : Pending) (old new len : Nat) : Pending :=
  match p.inserted with
  | some (o, n, l) => { p with inserted := some (o, n, l + len) }
  | none => { p with inserted := some (old, new, len) }

/-- The hunk of what is pending, if anything is. -/
def hunks (p : Pending) : List Hunk :=
  match p.deleted, p.inserted with
  | none, none => []
  | some (old, len, new), none => [.delete old len new]
  | none, some (old, new, len) => [.insert old new len]
  | some (old, oldLen, _), some (_, new, newLen) => [.change old oldLen new newLen]

end Pending

/-- The hunks of a script, after what is pending. -/
def gather (p : Pending) : List Op → List Hunk
  | [] => p.hunks
  | .equal .. :: ops => p.hunks ++ gather {} ops
  | .delete old len new :: ops => gather (p.delete old len new) ops
  | .insert old new len :: ops => gather (p.insert old new len) ops

/-- The differences between two sequences, in order. -/
def hunks {α : Type} [DecidableEq α] (old new : List α) : List Hunk :=
  gather {} (compact old new (script 0 0 old new))

end Tandem.Edit
