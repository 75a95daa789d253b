/-!
# Edit operations

An edit operation speaks of positions in an *old* and a *new* sequence. A script is a list of
operations in order. The position that an operation carries for the side it does not touch is a
note, not a promise: operations may be swapped without recomputing it.
-/

namespace Tandem.Edit

/-- A kind of change. -/
inductive Change where
  | deletion
  | addition
  deriving DecidableEq, Repr

/-- One operation of a script; positions count from zero. -/
inductive Op where
  /-- `len` elements from `old` on are those from `new` on. -/
  | equal (old new len : Nat)
  /-- `len` elements from `old` on are dropped; `new` is where the new sequence stands. -/
  | delete (old len new : Nat)
  /-- `len` elements from `new` on are added; `old` is where the old sequence stands. -/
  | insert (old new len : Nat)
  deriving DecidableEq, Repr

namespace Op

/-- How many elements the operation covers. -/
def len : Op → Nat
  | .equal _ _ len => len
  | .delete _ len _ => len
  | .insert _ _ len => len

/-- The operation makes a change of this kind. -/
def isOf : Change → Op → Bool
  | .deletion, .delete .. => true
  | .addition, .insert .. => true
  | _, _ => false

@[simp] theorem isOf_equal (kind : Change) (old new len : Nat) :
    (equal old new len).isOf kind = false := by
  cases kind <;> rfl

@[simp] theorem isOf_delete (kind : Change) (old len new : Nat) :
    (delete old len new).isOf kind = (kind == .deletion) := by
  cases kind <;> rfl

@[simp] theorem isOf_insert (kind : Change) (old new len : Nat) :
    (insert old new len).isOf kind = (kind == .addition) := by
  cases kind <;> rfl

/-- Kept elements, unless there are none. -/
def keep (old new len : Nat) : List Op :=
  if len = 0 then [] else [.equal old new len]

end Op

variable {α : Type} [DecidableEq α]

/-- How many elements two sequences share at the front. -/
def commonFront : List α → List α → Nat
  | a :: as, b :: bs => if a = b then commonFront as bs + 1 else 0
  | _, _ => 0

/-- How many elements two sequences share at the back. -/
def commonBack (as bs : List α) : Nat :=
  commonFront as.reverse bs.reverse

theorem commonFront_le_left (as bs : List α) : commonFront as bs ≤ as.length := by
  induction as generalizing bs with
  | nil => simp [commonFront]
  | cons a as ih =>
    cases bs with
    | nil => simp [commonFront]
    | cons b bs =>
      simp only [commonFront]
      split
      · simpa using ih bs
      · simp

theorem commonFront_comm (as bs : List α) : commonFront as bs = commonFront bs as := by
  induction as generalizing bs with
  | nil => cases bs <;> simp [commonFront]
  | cons a as ih =>
    cases bs with
    | nil => simp [commonFront]
    | cons b bs => simp only [commonFront, ih bs, eq_comm (a := a)]

theorem commonFront_le_right (as bs : List α) : commonFront as bs ≤ bs.length := by
  rw [commonFront_comm]
  exact commonFront_le_left bs as

theorem commonBack_le_left (as bs : List α) : commonBack as bs ≤ as.length := by
  simpa [commonBack] using commonFront_le_left as.reverse bs.reverse

end Tandem.Edit
