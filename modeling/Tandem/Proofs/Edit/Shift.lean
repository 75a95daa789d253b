import Tandem.Proofs.Edit.Hunks

/-!
# Scripts at other positions

A script for two sequences that start further on is the script for the sequences, with all positions
raised (`script_shift`). Behind elements that both sequences share at the front it keeps these, too:
in one operation with the kept elements it starts with, if it does (`lead`, `script_append_left`).
Such a script fits where the script itself does (`fits_lead`), and has the same hunks, further on
(`gather_lead`).
-/

namespace Tandem.Edit

/-! ### Shifted operations -/

/-- The operation `d` positions further on, on both sides. -/
def Op.shift (d : ℕ) : Op → Op
  | .equal old new len => .equal (old + d) (new + d) len
  | .delete old len new => .delete (old + d) len (new + d)
  | .insert old new len => .insert (old + d) (new + d) len

/-- The hunk `d` positions further on, on both sides. -/
def Hunk.shift (d : ℕ) : Hunk → Hunk
  | .delete old len new => .delete (old + d) len (new + d)
  | .insert old new len => .insert (old + d) (new + d) len
  | .change old oldLen new newLen => .change (old + d) oldLen (new + d) newLen

@[simp] theorem Op.shift_equal (d o n len : ℕ) :
    (Op.equal o n len).shift d = .equal (o + d) (n + d) len := rfl

@[simp] theorem Op.shift_delete (d o len n : ℕ) :
    (Op.delete o len n).shift d = .delete (o + d) len (n + d) := rfl

@[simp] theorem Op.shift_insert (d o n len : ℕ) :
    (Op.insert o n len).shift d = .insert (o + d) (n + d) len := rfl

@[simp] theorem Op.isOf_shift (kind : Change) (d : ℕ) (op : Op) :
    (op.shift d).isOf kind = op.isOf kind := by
  cases op <;> simp

theorem Op.keep_shift (d i j len : ℕ) :
    Op.keep (i + d) (j + d) len = (Op.keep i j len).map (Op.shift d) := by
  unfold Op.keep
  split <;> rfl

/-! ### Scripts -/

section Script

variable {α : Type} [DecidableEq α]

/-- Scripts that move with all smaller sequences are put together to one that does. -/
private theorem between_shift {old new : List α} (d i j : ℕ)
    (ih : ∀ (i j : ℕ) (old' new' : List α), old'.length + new'.length < old.length + new.length →
      script (i + d) (j + d) old' new' = (script i j old' new').map (Op.shift d)) :
    between (i + d) (j + d) old new = (between i j old new).map (Op.shift d) := by
  unfold between
  split
  · rfl
  split
  · rfl
  split
  · rfl
  split
  · next c hcut =>
    have hx := c.x_le
    have hy := c.y_le
    have hpos := c.pos
    have hlt := c.lt
    rw [List.map_append, Nat.add_right_comm i d, Nat.add_right_comm j d, ih, ih]
    · simp only [List.length_drop]
      omega
    · simp only [List.length_take]
      omega
  · rfl

private theorem afterFront_shift_of {old new : List α} (d i j : ℕ)
    (ih : ∀ (i j : ℕ) (old' new' : List α), old'.length + new'.length < old.length + new.length →
      script (i + d) (j + d) old' new' = (script i j old' new').map (Op.shift d)) :
    afterFront (i + d) (j + d) old new = (afterFront i j old new).map (Op.shift d) := by
  simp only [afterFront, Nat.add_right_comm _ d, Op.keep_shift, List.map_append]
  rw [between_shift d i j fun i j old' new' hlt => ih i j old' new' ?_]
  simp only [List.length_take] at hlt
  omega

/-- **A script moves with its sequences.** -/
theorem script_shift (d i j : ℕ) (old new : List α) :
    script (i + d) (j + d) old new = (script i j old new).map (Op.shift d) := by
  induction hsize : old.length + new.length using Nat.strongRecOn generalizing i j old new with
  | ind size ih =>
    rw [script_eq_afterFront, script_eq_afterFront i j, List.map_append, Op.keep_shift,
      Nat.add_right_comm i d, Nat.add_right_comm j d, afterFront_shift_of]
    intro i j old' new' hlt
    refine ih _ ?_ i j old' new' rfl
    simp only [List.length_drop] at hlt
    omega

theorem afterFront_shift (d i j : ℕ) (old new : List α) :
    afterFront (i + d) (j + d) old new = (afterFront i j old new).map (Op.shift d) :=
  afterFront_shift_of d i j fun i j old' new' _ => script_shift d i j old' new'

end Script

/-! ### A common front -/

/-- A script behind `d` elements more that both sequences share at the front: they are kept, too. -/
def lead (d : ℕ) : List Op → List Op
  | .equal _ _ len :: ops => .equal 0 0 (d + len) :: ops.map (Op.shift d)
  | ops => .equal 0 0 d :: ops.map (Op.shift d)

theorem lead_of_ne {d : ℕ} {ops : List Op} (h : ∀ o n len, ops.head? ≠ some (.equal o n len)) :
    lead d ops = .equal 0 0 d :: ops.map (Op.shift d) := by
  unfold lead
  split
  · next o n len ops => exact absurd rfl (h o n len)
  · rfl

section Script

variable {α : Type} [DecidableEq α]

/-- A script starts with kept elements only if there are any. -/
theorem head?_script_ne (old new : List α) (h : commonFront old new = 0) (o n len : ℕ) :
    (script 0 0 old new).head? ≠ some (.equal o n len) := by
  intro hhead
  obtain ⟨ops, heq⟩ := List.head?_eq_some_iff.mp hhead
  have hfits := (fits_script_start old new).1
  rw [heq] at hfits
  obtain ⟨⟨rfl, rfl, hlen, hold, hnew, hslice⟩, -⟩ := hfits
  simp only [Place.start, Place.old, Place.new, Nat.add_zero, Nat.zero_add, slice, List.drop_zero]
    at hold hnew hslice
  have hle := le_commonFront_iff.mpr ⟨hold, hnew, hslice⟩
  omega

/-- **The script behind a common front.** -/
theorem script_append_left {front : List α} (hfront : front ≠ []) (old new : List α) :
    script 0 0 (front ++ old) (front ++ new) = lead front.length (script 0 0 old new) := by
  have hpos : front.length ≠ 0 := by simpa using hfront
  have hdrop : ∀ (xs : List α) k, (front ++ xs).drop (front.length + k) = xs.drop k := by simp
  have hhead := head?_script_ne old new
  rw [script_eq_afterFront, commonFront_append_left, hdrop, hdrop,
    Nat.zero_add, Nat.add_comm front.length, afterFront_shift]
  rw [script_eq_afterFront 0 0 old new, Nat.zero_add] at hhead ⊢
  generalize commonFront old new = f at *
  rw [Op.keep, if_neg (by omega), Nat.add_comm f]
  unfold Op.keep at *
  split
  · next hf =>
    simp only [hf, if_true, List.nil_append, forall_const] at hhead ⊢
    rw [lead_of_ne hhead]
    rfl
  · rfl

end Script

/-! ### Fitting -/

section Fitting

variable {α : Type} {olds news front : List α} {others : Change → ℕ → ℕ} {p : Place}

/-- A script that fits, fits further on behind a common front. -/
theorem fits_shift {ops : List Op} (h : Fits olds news (byRank others) p ops) (front : List α) :
    Fits (front ++ olds) (front ++ news) (byRank others) (p.keep front.length)
      (ops.map (Op.shift front.length)) := by
  induction ops generalizing p with
  | nil => exact fits_nil _
  | cons op ops ih =>
    obtain ⟨hop, hops⟩ := h
    have hstep : (p.keep front.length).step (op.shift front.length)
        = (p.step op).keep front.length := by
      cases op <;> simp [Place.keep, Nat.add_right_comm]
    refine ⟨?_, hstep ▸ ih hops⟩
    cases op with
    | equal o n l =>
      obtain ⟨rfl, rfl, hl, hino, hinn, heq⟩ := hop
      refine ⟨by simp, by simp, hl, ?_, ?_, by rwa [slice_append_left, slice_append_left]⟩
      · rw [List.length_append]; omega
      · rw [List.length_append]; omega
    | delete o l n =>
      obtain ⟨rfl, hl, hin, rfl⟩ := hop
      refine ⟨by simp, hl, by rw [List.length_append]; omega, ?_⟩
      simp only [Place.keep, byRank, Place.rank]
      omega
    | insert o n l =>
      obtain ⟨rfl, hl, hin, rfl⟩ := hop
      refine ⟨by simp, hl, by rw [List.length_append]; omega, ?_⟩
      simp only [Place.keep, byRank, Place.rank]
      omega

/-- Behind a common front that is kept first, a script that fits goes on fitting. -/
theorem fits_lead (hfront : front ≠ []) {ops : List Op}
    (h : Fits olds news (byRank others) .start ops) :
    Fits (front ++ olds) (front ++ news) (byRank others) .start
      (.equal 0 0 front.length :: ops.map (Op.shift front.length)) := by
  have hd : 0 < front.length := List.length_pos_iff.mpr hfront
  have hslice : ∀ xs : List α, slice (front ++ xs) 0 front.length = front := by simp [slice]
  refine ⟨⟨rfl, rfl, hd, by simp, by simp, by rw [hslice, hslice]⟩, ?_⟩
  have hshift := fits_shift h front
  simpa [Place.start, Place.keep] using hshift

end Fitting

/-! ### Hunks -/

/-- What is pending, `d` positions further on. -/
def Pending.shift (d : ℕ) (p : Pending) : Pending :=
  ⟨p.deleted.map fun (o, l, n) => (o + d, l, n + d),
    p.inserted.map fun (o, n, l) => (o + d, n + d, l)⟩

theorem Pending.hunks_shift (d : ℕ) (p : Pending) :
    (p.shift d).hunks = p.hunks.map (Hunk.shift d) := by
  obtain ⟨_ | _, _ | _⟩ := p <;> rfl

theorem gather_shift (d : ℕ) (p : Pending) (ops : List Op) :
    gather (p.shift d) (ops.map (Op.shift d)) = (gather p ops).map (Hunk.shift d) := by
  induction ops generalizing p with
  | nil => exact p.hunks_shift d
  | cons op ops ih =>
    cases op with
    | equal o n len =>
      rw [gather, List.map_append, ← ih, ← Pending.hunks_shift]
      rfl
    | delete o len n =>
      rw [gather, ← ih]
      obtain ⟨_ | _, _⟩ := p <;> rfl
    | insert o n len =>
      rw [gather, ← ih]
      obtain ⟨_, _ | _⟩ := p <;> rfl

theorem gather_lead (d : ℕ) (ops : List Op) :
    gather {} (lead d ops) = (gather {} ops).map (Hunk.shift d) := by
  unfold lead
  split
  · exact gather_shift d {} _
  · exact gather_shift d {} ops

end Tandem.Edit
