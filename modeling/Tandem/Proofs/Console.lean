import Mathlib.Tactic
import Tandem.Report

/-!
# What a console accepts

Writing in pieces is writing all at once: after a failure no more is offered, and nothing is lost or
repeated where two pieces meet (`write_append`, `writeAll_eq`). So what a console holds depends only
on the bytes it was offered, and a console with a limit holds a beginning of what one without a limit
would hold (`write_of_le`, `write_of_lt`). An event that flushes without failing is no more than its text
(`report_eq`).
-/

namespace Tandem.Console

variable {c : Console} {bs bs' : Bytes} {limit : ℕ}

theorem write_unlimited (h : c.limit = none) (bs : Bytes) :
    c.write bs = ({ c with accepted := c.accepted ++ bs }, .ok ()) := by
  simp [write, fitting, h]

/-- Bytes for which there is room are accepted. -/
theorem write_of_le (h : c.limit = some limit) (hle : bs.length ≤ limit - c.accepted.length) :
    c.write bs = ({ c with accepted := c.accepted ++ bs }, .ok ()) := by
  simp [write, fitting, h, List.take_of_length_le hle]

/-- Of bytes for which there is not enough room, as many are accepted as still fit. -/
theorem write_of_lt (h : c.limit = some limit) (hlt : limit - c.accepted.length < bs.length) :
    c.write bs = ({ c with accepted := c.accepted ++ bs.take (limit - c.accepted.length) },
      .error c.refusal) := by
  have hlength : (bs.take (limit - c.accepted.length)).length < bs.length := by
    rw [List.length_take]; omega
  simp only [write, fitting, h, if_pos hlength]

/-- **Writing goes on where it stopped**, unless it failed. -/
theorem write_append (c : Console) (bs bs' : Bytes) :
    c.write (bs ++ bs') = match c.write bs with
      | (c, .ok ()) => c.write bs'
      | failed => failed := by
  rcases hlimit : c.limit with _ | limit
  · rw [write_unlimited hlimit, write_unlimited hlimit, ← List.append_assoc]
    exact (write_unlimited (c := { c with accepted := c.accepted ++ bs }) hlimit bs').symm
  rcases Nat.lt_or_ge (limit - c.accepted.length) bs.length with hlt | hle
  · have hlt' : limit - c.accepted.length < (bs ++ bs').length := by
      rw [List.length_append]; omega
    rw [write_of_lt hlimit hlt, write_of_lt hlimit hlt', List.take_append_of_le_length hlt.le]
  rw [write_of_le hlimit hle]
  -- the rest is offered to a console that already holds the first part
  have hroom : limit - (c.accepted ++ bs).length = limit - c.accepted.length - bs.length := by
    rw [List.length_append]; omega
  rcases Nat.lt_or_ge (limit - c.accepted.length) (bs ++ bs').length with hlt' | hle'
  · rw [write_of_lt hlimit hlt', List.take_append, List.take_of_length_le hle, ← hroom,
      ← List.append_assoc]
    rw [List.length_append] at hlt'
    exact (write_of_lt (c := { c with accepted := c.accepted ++ bs }) hlimit
      (by rw [hroom]; omega)).symm
  · rw [write_of_le hlimit hle', ← List.append_assoc]
    rw [List.length_append] at hle'
    exact (write_of_le (c := { c with accepted := c.accepted ++ bs }) hlimit
      (by rw [hroom]; omega)).symm

theorem write_nil (c : Console) : c.write [] = (c, .ok ()) := by
  rcases hlimit : c.limit with _ | limit
  · rw [write_unlimited hlimit, List.append_nil]
  · rw [write_of_le hlimit (Nat.zero_le _), List.append_nil]

/-- Pieces are accepted as what they are together. -/
theorem writeAll_eq (c : Console) (pieces : List Bytes) :
    c.writeAll pieces = c.write pieces.flatten := by
  induction pieces generalizing c with
  | nil => rw [writeAll, List.flatten_nil, write_nil]
  | cons piece pieces ih =>
    rw [writeAll, List.flatten_cons, write_append]
    rcases c.write piece with ⟨c, fault | ⟨⟩⟩
    · rfl
    · exact ih c

theorem fitting_prefix (c : Console) (bs : Bytes) : c.fitting bs <+: bs := by
  unfold fitting
  split
  · exact List.prefix_refl bs
  · exact List.take_prefix _ bs

/-- A write that does not fail has been accepted whole. -/
theorem fitting_of_write_ok (h : (c.write bs).2 = .ok ()) : c.fitting bs = bs := by
  have hle : ¬ (c.fitting bs).length < bs.length := fun hlt => by simp [write, if_pos hlt] at h
  have hprefix := c.fitting_prefix bs
  exact hprefix.eq_of_length_le (Nat.le_of_not_lt hle)

theorem accepted_of_write_ok (h : (c.write bs).2 = .ok ()) :
    (c.write bs).1.accepted = c.accepted ++ bs :=
  congrArg (c.accepted ++ ·) (fitting_of_write_ok h)

theorem flushFails_of_write {c' : Console} {result : Except Fault Unit}
    (h : c.write bs = (c', result)) : c'.flushFails = c.flushFails := by
  cases h
  rfl

/-- A report leaves its text on the console, as far as that takes it. -/
theorem report_fst (c : Console) (e : Event) : (c.report e).1 = (c.write e.text).1 := by
  rw [report, writeAll_eq, ← Event.text]
  rcases c.write e.text with ⟨c', fault | ⟨⟩⟩ <;> rfl

/-- A report that does not fail has left all of its text. -/
theorem accepted_of_report_ok {e : Event} (h : (c.report e).2 = .ok ()) :
    (c.report e).1.accepted = c.accepted ++ e.text := by
  rw [report_fst]
  refine accepted_of_write_ok ?_
  rw [report, writeAll_eq, ← Event.text] at h
  rcases hw : c.write e.text with ⟨c', fault | ⟨⟩⟩
  · rw [hw] at h
    cases h
  · rfl

/-- **A report is its text**, on a console that flushes. -/
theorem report_eq (h : c.flushFails = false) (e : Event) : c.report e = c.write e.text := by
  have hflush : (c.write e.text).1.flush = .ok () := if_neg (by simp [write, h])
  rw [report, writeAll_eq, ← Event.text]
  rcases hw : c.write e.text with ⟨c', fault | ⟨⟩⟩
  · rfl
  · rw [hw] at hflush
    simp only [hflush, ite_self]

end Tandem.Console
