import Tandem.Edit.Op

/-!
# Compacting scripts

A run of additions next to kept elements can often be moved along them: additions of `a b` before
a kept `a` read as well as additions of `b a` after it. Compaction moves every deletion, and then
every addition, first up and then down as far as it goes, and merges runs that come to touch. A
deletion never moves along kept elements, because nothing of the new sequence is its own. A
deletion and an addition that meet trade places, and keep the positions they carry.

A script under compaction is seen from one of its operations, the `Cursor`.
-/

namespace Tandem.Edit

/-- A script seen from one operation; the operations before it are listed nearest first. -/
structure Cursor where
  before : List Op
  here : Op
  after : List Op
  deriving Repr

namespace Cursor

/-- The script as a list. -/
def toList (c : Cursor) : List Op :=
  c.before.reverse ++ c.here :: c.after

end Cursor

/-- What an operation weighs: one, and one more for each kept element, so that moving past part of
a kept run counts as progress. -/
def Op.weight : Op → Nat
  | .equal _ _ len => len + 1
  | _ => 1

/-- What a list of operations weighs. -/
def weight : List Op → Nat
  | [] => 0
  | op :: ops => op.weight + weight ops

@[simp] theorem weight_cons (op : Op) (ops : List Op) :
    weight (op :: ops) = op.weight + weight ops :=
  rfl

/-- The `len` elements from position `i` on. -/
def slice {α : Type} (xs : List α) (i len : Nat) : List α :=
  (xs.drop i).take len

theorem length_slice_le {α : Type} (xs : List α) (i len : Nat) :
    (slice xs i len).length ≤ len := by
  simp only [slice, List.length_take]
  omega

variable {α : Type} [DecidableEq α]

/-- How far an addition can move up along kept elements from `old` on. -/
def slackUp (olds news : List α) (old len new added : Nat) : Nat :=
  commonBack (slice olds old len) (slice news new added)

/-- How far an addition can move down along kept elements from `old` on. -/
def slackDown (olds news : List α) (old len new added : Nat) : Nat :=
  commonFront (slice olds old len) (slice news new added)

theorem slackUp_le (olds news : List α) (old len new added : Nat) :
    slackUp olds news old len new added ≤ len :=
  Nat.le_trans (commonBack_le_left _ _) (length_slice_le ..)

theorem slackDown_le (olds news : List α) (old len new added : Nat) :
    slackDown olds news old len new added ≤ len :=
  Nat.le_trans (commonFront_le_left _ _) (length_slice_le ..)

/-- Kept elements `old`, `new`, `len` after an addition that moved up past them: they join kept
elements that come next. -/
def joinBelow (old new len : Nat) : List Op → List Op
  | .equal o n l :: after => .equal (o - len) (n - len) (l + len) :: after
  | after => .equal old new len :: after

/-- Kept elements `old`, `new`, `len` before an addition that moved down past them: they join kept
elements that come before. -/
def joinAbove (old new len : Nat) : List Op → List Op
  | .equal o n l :: before => .equal o n (l + len) :: before
  | before => .equal old new len :: before

/-- Moves the operation up as far as it goes. -/
def Cursor.up (olds news : List α) (before : List Op) (here : Op) (after : List Op) : Cursor :=
  match before, here with
  | .equal o n l :: before', .insert old new len =>
    let s := slackUp olds news o l new len
    if s = 0 then
      if l = 0 then Cursor.up olds news before' here after else ⟨before, here, after⟩
    else
      let moved := Op.insert (old - s) (new - s) len
      let after := joinBelow (o + l - s) (new + len - s) s after
      if l = s then Cursor.up olds news before' moved after
      else Cursor.up olds news (.equal o n (l - s) :: before') moved after
  | .equal _ _ l :: before', .delete .. =>
    if l = 0 then Cursor.up olds news before' here after else ⟨before, here, after⟩
  | .delete old len new :: before', .insert .. =>
    Cursor.up olds news before' here (.delete old len new :: after)
  | .insert old new len :: before', .delete .. =>
    Cursor.up olds news before' here (.insert old new len :: after)
  | .insert o n l :: before', .insert _ _ len =>
    Cursor.up olds news before' (.insert o n (l + len)) after
  | .delete o l n :: before', .delete _ len _ =>
    Cursor.up olds news before' (.delete o (l + len) n) after
  | before, here => ⟨before, here, after⟩
termination_by weight before
decreasing_by
  all_goals simp_wf
  all_goals simp only [Op.weight]
  all_goals
    first
      | omega
      | (have bound := slackUp_le olds news o l new len; omega)

/-- Moves the operation down as far as it goes. -/
def Cursor.down (olds news : List α) (before : List Op) (here : Op) (after : List Op) : Cursor :=
  match here, after with
  | .insert old new len, .equal o n l :: after' =>
    let s := slackDown olds news o l new len
    if s = 0 then
      if l = 0 then Cursor.down olds news before here after' else ⟨before, here, after⟩
    else
      let moved := Op.insert (old + s) (new + s) len
      let before := joinAbove o new s before
      if l = s then Cursor.down olds news before moved after'
      else Cursor.down olds news before moved (.equal (o + s) (n + s) (l - s) :: after')
  | .delete .., .equal _ _ l :: after' =>
    if l = 0 then Cursor.down olds news before here after' else ⟨before, here, after⟩
  | .insert .., .delete old len new :: after' =>
    Cursor.down olds news (.delete old len new :: before) here after'
  | .delete .., .insert old new len :: after' =>
    Cursor.down olds news (.insert old new len :: before) here after'
  | .insert o n l, .insert _ _ len :: after' =>
    Cursor.down olds news before (.insert o n (l + len)) after'
  | .delete o l n, .delete _ len _ :: after' =>
    Cursor.down olds news before (.delete o (l + len) n) after'
  | here, after => ⟨before, here, after⟩
termination_by weight after
decreasing_by
  all_goals simp_wf
  all_goals simp only [Op.weight]
  all_goals
    first
      | omega
      | (have bound := slackDown_le olds news o l new len; omega)

/-- Moves the operation up and then down as far as it goes. -/
def Cursor.upDown (olds news : List α) (before : List Op) (here : Op) (after : List Op) : Cursor :=
  let c := Cursor.up olds news before here after
  Cursor.down olds news c.before c.here c.after

/-! ### Settling all changes of a kind -/

/-- How many changes of a kind there are. -/
def tally (kind : Change) (ops : List Op) : Nat :=
  ops.countP (Op.isOf kind)

@[simp] theorem tally_cons (kind : Change) (op : Op) (ops : List Op) :
    tally kind (op :: ops) = tally kind ops + if op.isOf kind then 1 else 0 :=
  List.countP_cons

@[simp] theorem tally_joinBelow (kind : Change) (old new len : Nat) (after : List Op) :
    tally kind (joinBelow old new len after) = tally kind after := by
  unfold joinBelow
  split <;> simp

/-- A change that moves up stays of its kind and leaves no other of that kind below it. -/
theorem Cursor.tally_up (olds news : List α) (kind : Change) (before : List Op) (here : Op)
    (after : List Op) (h : here.isOf kind) :
    (Cursor.up olds news before here after).here.isOf kind ∧
      tally kind (Cursor.up olds news before here after).after ≤ tally kind after := by
  fun_induction Cursor.up olds news before here after with
  | _ => grind [Op.isOf_equal, Op.isOf_delete, Op.isOf_insert, tally_cons, tally_joinBelow]

/-- A change that moves down stays of its kind and finds no more of that kind below it. -/
theorem Cursor.tally_down (olds news : List α) (kind : Change) (before : List Op) (here : Op)
    (after : List Op) (h : here.isOf kind) :
    (Cursor.down olds news before here after).here.isOf kind ∧
      tally kind (Cursor.down olds news before here after).after ≤ tally kind after := by
  fun_induction Cursor.down olds news before here after with
  | _ => grind [Op.isOf_equal, Op.isOf_delete, Op.isOf_insert, tally_cons]

theorem Cursor.tally_upDown (olds news : List α) (kind : Change) (before : List Op) (here : Op)
    (after : List Op) (h : here.isOf kind) :
    tally kind (Cursor.upDown olds news before here after).after ≤ tally kind after :=
  have ⟨same, fewer⟩ := Cursor.tally_up olds news kind before here after h
  Nat.le_trans (Cursor.tally_down olds news kind _ _ _ same).2 fewer

/-- Moves every change of a kind up and then down, from the first on. Kept elements that a change
leaves below it are passed in turn, so what shrinks is the number of changes still to come. -/
def settle (olds news : List α) (kind : Change) (before : List Op) : List Op → List Op
  | [] => before.reverse
  | op :: after =>
    if op.isOf kind then
      let c := Cursor.upDown olds news before op after
      settle olds news kind (c.here :: c.before) c.after
    else settle olds news kind (op :: before) after
termination_by ops => (tally kind ops, ops.length)
decreasing_by
  · refine Prod.Lex.left _ _ (Nat.lt_of_le_of_lt (Cursor.tally_upDown _ _ _ _ _ _ ‹_›) ?_)
    simp [tally, *]
  · simp_all [tally, Prod.lex_def]

/-- Compacts a script: deletions first, then additions. -/
def compact (olds news : List α) (ops : List Op) : List Op :=
  settle olds news .addition [] (settle olds news .deletion [] ops)

end Tandem.Edit
