import Tandem.Edit.Compact
import Mathlib.Data.Nat.Notation
import Mathlib.Order.Bounds.Defs

/-!
# What two sequences have in common

`commonFront` and `commonBack` measure what two sequences share at their ends. `common as bs` is how
many elements two sequences can have in common, in order: the length of a longest common
subsequence (`isGreatest_common`). What a script keeps is a common subsequence, so this is the most
that any script can keep.

The laws below are those that a search for a least script rests on: elements shared at an end count
in full, one more element on each side adds at most one (`common_take_succ_le`), and a bound on the
cost of a whole comparison can be divided between its two ends in any way (`exists_split`).
-/

namespace Tandem.Edit

/-! ### Slices -/

section Slices

variable {α : Type}

@[simp]
theorem slice_zero (xs : List α) (i : ℕ) : slice xs i 0 = [] := by
  simp [slice]

theorem length_slice {xs : List α} {i len : ℕ} (h : i + len ≤ xs.length) :
    (slice xs i len).length = len := by
  simp only [slice, List.length_take, List.length_drop]
  omega

theorem slice_add (xs : List α) (i m n : ℕ) :
    slice xs i (m + n) = slice xs i m ++ slice xs (i + m) n := by
  simp only [slice, List.take_add, List.drop_drop]

theorem drop_slice (xs : List α) (i len k : ℕ) :
    (slice xs i len).drop k = slice xs (i + k) (len - k) := by
  simp only [slice, List.drop_take, List.drop_drop]

theorem take_slice {xs : List α} {i len k : ℕ} (h : k ≤ len) :
    (slice xs i len).take k = slice xs i k := by
  rw [slice, slice, List.take_take, Nat.min_eq_left h]

theorem slice_append_left (front xs : List α) (i len : ℕ) :
    slice (front ++ xs) (i + front.length) len = slice xs i len := by
  rw [slice, slice, Nat.add_comm, List.drop_append, List.drop_eq_nil_of_le (by omega),
    List.nil_append, Nat.add_sub_cancel_left]

theorem slice_append_drop (xs : List α) (i len : ℕ) :
    slice xs i len ++ xs.drop (i + len) = xs.drop i := by
  rw [slice, ← List.drop_drop, List.take_append_drop]

/-- A slice that has its full length lies inside. -/
theorem add_le_of_slice {xs part : List α} {i : ℕ} (h : slice xs i part.length = part)
    (hpos : 0 < part.length) : i + part.length ≤ xs.length := by
  have hlen := congrArg List.length h
  simp only [slice, List.length_take, List.length_drop] at hlen
  omega

/-- A slice that reads `a` and then `b` is a slice that reads `a`, followed by one that
reads `b`. -/
theorem slice_append {xs a b : List α} {i : ℕ} (h : slice xs i (a ++ b).length = a ++ b) :
    slice xs i a.length = a ∧ slice xs (i + a.length) b.length = b := by
  rw [List.length_append, slice_add] at h
  have hlen := congrArg List.length h
  have ha := length_slice_le xs i a.length
  have hb := length_slice_le xs (i + a.length) b.length
  simp only [List.length_append] at hlen
  exact List.append_inj h (by omega)

/-- Two slices that agree, agree on every part. -/
theorem slice_eq_part {xs ys : List α} {i j m n : ℕ} (hx : i + (m + n) ≤ xs.length)
    (hy : j + (m + n) ≤ ys.length) (h : slice xs i (m + n) = slice ys j (m + n)) :
    slice xs i m = slice ys j m ∧ slice xs (i + m) n = slice ys (j + m) n := by
  rw [slice_add, slice_add] at h
  refine List.append_inj h ?_
  rw [length_slice (by omega), length_slice (by omega)]

end Slices

variable {α : Type} [DecidableEq α]

/-! ### Shared ends -/

theorem le_commonFront_iff {as bs : List α} {k : ℕ} :
    k ≤ commonFront as bs ↔ k ≤ as.length ∧ k ≤ bs.length ∧ as.take k = bs.take k := by
  induction as generalizing bs k with
  | nil => simp +contextual [commonFront]
  | cons a as ih =>
    cases bs with
    | nil => simp +contextual [commonFront]
    | cons b bs =>
      cases k with
      | zero => simp
      | succ k =>
        by_cases h : a = b
        · simp [commonFront, h, ih]
        · simp [commonFront, h]

theorem le_commonBack_iff {as bs : List α} {k : ℕ} :
    k ≤ commonBack as bs ↔ k ≤ as.length ∧ k ≤ bs.length ∧
      as.drop (as.length - k) = bs.drop (bs.length - k) := by
  rw [commonBack, le_commonFront_iff, List.length_reverse, List.length_reverse, List.take_reverse,
    List.take_reverse, List.reverse_inj]

theorem take_commonFront (as bs : List α) :
    as.take (commonFront as bs) = bs.take (commonFront as bs) :=
  (le_commonFront_iff.mp (Nat.le_refl _)).2.2

theorem drop_commonBack (as bs : List α) :
    as.drop (as.length - commonBack as bs) = bs.drop (bs.length - commonBack as bs) :=
  (le_commonBack_iff.mp (Nat.le_refl _)).2.2

theorem commonFront_append_left (front as bs : List α) :
    commonFront (front ++ as) (front ++ bs) = front.length + commonFront as bs := by
  induction front with
  | nil => simp
  | cons a front ih =>
    rw [List.cons_append, List.cons_append, commonFront, if_pos rfl, ih, List.length_cons]
    omega

theorem commonFront_drop (as bs : List α) :
    commonFront (as.drop (commonFront as bs)) (bs.drop (commonFront as bs)) = 0 := by
  induction as generalizing bs with
  | nil => simp [commonFront]
  | cons a as ih =>
    cases bs with
    | nil => simp [commonFront]
    | cons b bs =>
      by_cases h : a = b
      · simp [commonFront, h, ih bs]
      · simp [commonFront, h]

theorem commonFront_take_le (as bs : List α) (m n : ℕ) :
    commonFront (as.take m) (bs.take n) ≤ commonFront as bs := by
  induction as generalizing bs m n with
  | nil => simp [commonFront]
  | cons a as ih =>
    cases bs with
    | nil => simp [commonFront]
    | cons b bs =>
      cases m with
      | zero => simp [commonFront]
      | succ m =>
        cases n with
        | zero => simp [commonFront]
        | succ n =>
          simp only [List.take_succ_cons, commonFront]
          split
          · exact Nat.succ_le_succ (ih bs m n)
          · exact Nat.le_refl _

theorem commonBack_take (as bs : List α) :
    commonBack (as.take (as.length - commonBack as bs)) (bs.take (bs.length - commonBack as bs))
      = 0 := by
  have h := commonFront_drop as.reverse bs.reverse
  rwa [List.drop_reverse, List.drop_reverse] at h

/-! ### Longest common subsequences -/

/-- The length of a longest common subsequence. -/
def common : List α → List α → ℕ
  | [], _ => 0
  | _ :: _, [] => 0
  | a :: as, b :: bs =>
    if a = b then common as bs + 1 else max (common as (b :: bs)) (common (a :: as) bs)
termination_by as bs => as.length + bs.length

@[simp] theorem common_nil_left (bs : List α) : common [] bs = 0 := by
  rw [common]

@[simp] theorem common_nil_right (as : List α) : common as [] = 0 := by
  cases as <;> rw [common]

theorem common_cons_self (a : α) (as bs : List α) :
    common (a :: as) (a :: bs) = common as bs + 1 := by
  rw [common, if_pos rfl]

theorem common_cons_of_ne {a b : α} (h : a ≠ b) (as bs : List α) :
    common (a :: as) (b :: bs) = max (common as (b :: bs)) (common (a :: as) bs) := by
  rw [common, if_neg h]

/-- There is a common subsequence of that length. -/
theorem exists_common (as bs : List α) :
    ∃ s : List α, s.Sublist as ∧ s.Sublist bs ∧ s.length = common as bs := by
  induction as, bs using common.induct with
  | case1 bs => exact ⟨[], by simp, by simp, by simp⟩
  | case2 a as => exact ⟨[], by simp, by simp, by simp⟩
  | case3 as b bs ih =>
    obtain ⟨s, hsa, hsb, hlen⟩ := ih
    exact ⟨b :: s, hsa.cons_cons b, hsb.cons_cons b, by rw [common_cons_self, ← hlen]; rfl⟩
  | case4 a as b bs h ih ih' =>
    rw [common_cons_of_ne h]
    rcases Nat.le_total (common as (b :: bs)) (common (a :: as) bs) with hle | hle
    · obtain ⟨s, hsa, hsb, hlen⟩ := ih'
      exact ⟨s, hsa, hsb.cons b, by omega⟩
    · obtain ⟨s, hsa, hsb, hlen⟩ := ih
      exact ⟨s, hsa.cons a, hsb, by omega⟩

/-- No common subsequence is longer. -/
theorem length_le_common {s as bs : List α} (ha : s.Sublist as) (hb : s.Sublist bs) :
    s.length ≤ common as bs := by
  induction as, bs using common.induct generalizing s with
  | case1 bs => simp [List.sublist_nil.mp ha]
  | case2 a as => simp [List.sublist_nil.mp hb]
  | case3 as b bs ih =>
    rw [common_cons_self]
    have htail := ih ha.tail hb.tail
    rw [List.length_tail] at htail
    omega
  | case4 a as b bs h ih ih' =>
    rw [common_cons_of_ne h]
    rcases List.sublist_cons_iff.mp ha with ha' | ⟨r, rfl, -⟩
    · exact Nat.le_trans (ih ha' hb) (Nat.le_max_left _ _)
    · -- `s` begins with `a`, so it cannot use `b`
      rcases List.sublist_cons_iff.mp hb with hb' | ⟨r', heq, -⟩
      · exact Nat.le_trans (ih' ha hb') (Nat.le_max_right _ _)
      · exact absurd (List.cons.inj heq).1 h

/-- **`common` is the length of a longest common subsequence.** -/
theorem isGreatest_common (as bs : List α) :
    IsGreatest {n | ∃ s : List α, s.Sublist as ∧ s.Sublist bs ∧ s.length = n} (common as bs) := by
  refine ⟨exists_common as bs, ?_⟩
  rintro n ⟨s, ha, hb, rfl⟩
  exact length_le_common ha hb

/-! ### Order and symmetry -/

theorem common_le_left (as bs : List α) : common as bs ≤ as.length := by
  obtain ⟨s, hsa, -, hlen⟩ := exists_common as bs
  exact hlen ▸ hsa.length_le

theorem common_le_right (as bs : List α) : common as bs ≤ bs.length := by
  obtain ⟨s, -, hsb, hlen⟩ := exists_common as bs
  exact hlen ▸ hsb.length_le

theorem common_take_le_left (as bs : List α) (x : ℕ) : common (as.take x) bs ≤ x :=
  Nat.le_trans (common_le_left _ bs) (List.length_take_le x as)

theorem common_take_le_right (as bs : List α) (y : ℕ) : common as (bs.take y) ≤ y :=
  Nat.le_trans (common_le_right as _) (List.length_take_le y bs)

theorem common_mono {as as' bs bs' : List α} (ha : as.Sublist as') (hb : bs.Sublist bs') :
    common as bs ≤ common as' bs' := by
  obtain ⟨s, hsa, hsb, hlen⟩ := exists_common as bs
  exact hlen ▸ length_le_common (hsa.trans ha) (hsb.trans hb)

theorem common_reverse (as bs : List α) : common as.reverse bs.reverse = common as bs := by
  have hle : ∀ as bs : List α, common as bs ≤ common as.reverse bs.reverse := by
    intro as bs
    obtain ⟨s, hsa, hsb, hlen⟩ := exists_common as bs
    rw [← hlen, ← List.length_reverse]
    exact length_le_common hsa.reverse hsb.reverse
  refine Nat.le_antisymm ?_ (hle as bs)
  simpa using hle as.reverse bs.reverse

theorem common_eq_left_iff {as bs : List α} : common as bs = as.length ↔ as.Sublist bs := by
  constructor
  · intro h
    obtain ⟨s, hsa, hsb, hlen⟩ := exists_common as bs
    rwa [hsa.eq_of_length (hlen.trans h)] at hsb
  · intro h
    exact Nat.le_antisymm (common_le_left as bs) (length_le_common (List.Sublist.refl as) h)

theorem common_eq_right_iff {as bs : List α} : common as bs = bs.length ↔ bs.Sublist as := by
  constructor
  · intro h
    obtain ⟨s, hsa, hsb, hlen⟩ := exists_common as bs
    rwa [hsb.eq_of_length (hlen.trans h)] at hsa
  · intro h
    exact Nat.le_antisymm (common_le_right as bs) (length_le_common h (List.Sublist.refl bs))

/-! ### Shared ends in a longest common subsequence -/

theorem common_append_left (front as bs : List α) :
    common (front ++ as) (front ++ bs) = front.length + common as bs := by
  induction front with
  | nil => simp
  | cons a front ih =>
    rw [List.cons_append, List.cons_append, common_cons_self, ih, List.length_cons]
    omega

theorem common_append_right (as bs back : List α) :
    common (as ++ back) (bs ++ back) = common as bs + back.length := by
  rw [← common_reverse, List.reverse_append, List.reverse_append, common_append_left,
    common_reverse, List.length_reverse, Nat.add_comm]

theorem common_add_le (as bs as' bs' : List α) :
    common as bs + common as' bs' ≤ common (as ++ as') (bs ++ bs') := by
  obtain ⟨s, hsa, hsb, hlen⟩ := exists_common as bs
  obtain ⟨s', hsa', hsb', hlen'⟩ := exists_common as' bs'
  rw [← hlen, ← hlen', ← List.length_append]
  exact length_le_common (hsa.append hsa') (hsb.append hsb')

/-! ### One more element on each side -/

omit [DecidableEq α] in
private theorem dropLast_sublist_take {s as : List α} {x : ℕ} (h : s.Sublist (as.take (x + 1))) :
    s.dropLast.Sublist (as.take x) := by
  rw [List.take_add_one] at h
  cases hx : as[x]? with
  | none =>
    rw [hx, Option.toList_none, List.append_nil] at h
    exact s.dropLast_sublist.trans h
  | some a =>
    rw [hx, Option.toList_some] at h
    simpa [List.dropLast_eq_take, List.tail_reverse] using h.reverse.tail.reverse

/-- One more element on each side adds at most one. -/
theorem common_take_succ_le (as bs : List α) (x y : ℕ) :
    common (as.take (x + 1)) (bs.take (y + 1)) ≤ common (as.take x) (bs.take y) + 1 := by
  obtain ⟨s, hsa, hsb, hlen⟩ := exists_common (as.take (x + 1)) (bs.take (y + 1))
  have h := length_le_common (dropLast_sublist_take hsa) (dropLast_sublist_take hsb)
  rw [List.length_dropLast] at h
  omega

/-- One more element on each side that do not match: one of the two is of no use. -/
theorem common_take_succ_of_ne {as bs : List α} {x y : ℕ}
    (h : ∀ a, as[x]? = some a → bs[y]? ≠ some a) :
    common (as.take (x + 1)) (bs.take (y + 1))
      ≤ max (common (as.take x) (bs.take (y + 1))) (common (as.take (x + 1)) (bs.take y)) := by
  cases ha : as[x]? with
  | none =>
    rw [List.take_add_one, ha, Option.toList_none, List.append_nil]
    exact Nat.le_max_left _ _
  | some a =>
    cases hb : bs[y]? with
    | none =>
      rw [List.take_add_one (l := bs), hb, Option.toList_none, List.append_nil]
      exact Nat.le_max_right _ _
    | some b =>
      have hne : a ≠ b := fun hab => h a ha (hab ▸ hb)
      rw [List.take_add_one, List.take_add_one (l := bs), ha, hb, Option.toList_some,
        Option.toList_some, ← common_reverse, ← common_reverse (as.take x),
        ← common_reverse (as.take x ++ [a])]
      simp only [List.reverse_append, List.reverse_singleton, List.singleton_append]
      exact Nat.le_of_eq (common_cons_of_ne hne _ _)

/-! ### Dividing the cost -/

/-- A bound on the cost of a whole comparison can be divided between its two ends in any way: there
is a point up to which the first part suffices, and from which the second does. -/
theorem exists_split {as bs : List α} {d e : ℕ}
    (h : as.length + bs.length ≤ d + e + 2 * common as bs) :
    ∃ x y, x ≤ as.length ∧ y ≤ bs.length ∧ x + y ≤ d + 2 * common (as.take x) (bs.take y) ∧
      (as.length - x) + (bs.length - y) ≤ e + 2 * common (as.drop x) (bs.drop y) := by
  induction as, bs using common.induct generalizing d e with
  | case1 bs =>
    simp only [List.length_nil, common_nil_left] at h ⊢
    refine ⟨0, min d bs.length, by omega, by omega, by omega, ?_⟩
    simp only [List.drop_nil, common_nil_left]
    omega
  | case2 a as =>
    simp only [List.length_nil, common_nil_right] at h ⊢
    refine ⟨min d (a :: as).length, 0, by omega, by omega, by omega, ?_⟩
    simp only [List.drop_nil, common_nil_right]
    omega
  | case3 as b bs ih =>
    rw [common_cons_self] at h
    simp only [List.length_cons] at h ⊢
    obtain ⟨x, y, hx, hy, hfront, hback⟩ := ih (d := d) (e := e) (by omega)
    refine ⟨x + 1, y + 1, by omega, by omega, ?_, ?_⟩
    · rw [List.take_succ_cons, List.take_succ_cons, common_cons_self]
      omega
    · rw [List.drop_succ_cons, List.drop_succ_cons]
      omega
  | case4 a as b bs hne ih ih' =>
    -- with nothing to spend on the first end, that end is empty
    rcases Nat.eq_zero_or_pos d with rfl | hd
    · exact ⟨0, 0, by omega, by omega, by omega, by simpa using h⟩
    rw [common_cons_of_ne hne] at h
    simp only [List.length_cons] at h ih ih' ⊢
    rcases Nat.le_total (common as (b :: bs)) (common (a :: as) bs) with hle | hle
    · obtain ⟨x, y, hx, hy, hfront, hback⟩ := ih' (d := d - 1) (e := e) (by omega)
      refine ⟨x, y + 1, by omega, by omega, ?_, ?_⟩
      · have hmono := common_mono (List.Sublist.refl ((a :: as).take x))
          (List.sublist_cons_self b (bs.take y))
        rw [List.take_succ_cons]
        omega
      · rw [List.drop_succ_cons]
        omega
    · obtain ⟨x, y, hx, hy, hfront, hback⟩ := ih (d := d - 1) (e := e) (by omega)
      refine ⟨x + 1, y, by omega, by omega, ?_, ?_⟩
      · have hmono := common_mono (List.sublist_cons_self a (as.take x))
          (List.Sublist.refl ((b :: bs).take y))
        rw [List.take_succ_cons]
        omega
      · rw [List.drop_succ_cons]
        omega

end Tandem.Edit
