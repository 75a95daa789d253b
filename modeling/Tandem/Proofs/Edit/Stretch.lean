import Tandem.Proofs.Edit.Common

/-!
# Stretches of a sequence

A `Stretch` is what a header of a hunk names: where some elements of a sequence start and how many
there are. `without` takes stretches out of a sequence, element by element and by position alone;
`weave` places pieces at the positions where they are to stand. For stretches that ascend inside the
sequence the two are inverse: what was taken out, placed where it stood, gives the sequence back
(`weave_without`).
-/

namespace Tandem.Edit

/-- `len` elements of a sequence, from position `start` on. -/
structure Stretch where
  start : ℕ
  len : ℕ
  deriving DecidableEq, Repr

namespace Stretch

/-- The position after the stretch. -/
def stop (s : Stretch) : ℕ := s.start + s.len

/-- The stretch covers position `i`. -/
def Covers (s : Stretch) (i : ℕ) : Prop := s.start ≤ i ∧ i < s.stop

instance (s : Stretch) (i : ℕ) : Decidable (s.Covers i) :=
  inferInstanceAs (Decidable (_ ∧ _))

/-- The elements that a stretch covers. -/
def part {α : Type} (s : Stretch) (xs : List α) : List α := slice xs s.start s.len

end Stretch

/-- How many elements stretches cover, if none covers an element twice. -/
def total : List Stretch → ℕ
  | [] => 0
  | s :: ss => s.len + total ss

@[simp] theorem total_nil : total [] = 0 := rfl

@[simp] theorem total_cons (s : Stretch) (ss : List Stretch) :
    total (s :: ss) = s.len + total ss := rfl

@[simp] theorem total_append (ss ts : List Stretch) : total (ss ++ ts) = total ss + total ts := by
  induction ss with
  | nil => simp
  | cons s ss ih => rw [List.cons_append, total_cons, total_cons, ih, Nat.add_assoc]

/-! ### Ascending stretches -/

/-- The stretches lie one after the other between `i` and `size`, each with an element at least, and
with an element at least between any two. -/
def Ascending (size : ℕ) (i : ℕ) : List Stretch → Prop
  | [] => True
  | s :: ss => i ≤ s.start ∧ 0 < s.len ∧ s.stop ≤ size ∧ Ascending size (s.stop + 1) ss

theorem Ascending.mono {size i j : ℕ} {ss : List Stretch} (h : Ascending size j ss) (hij : i ≤ j) :
    Ascending size i ss := by
  cases ss with
  | nil => trivial
  | cons s ss => exact ⟨Nat.le_trans hij h.1, h.2⟩

theorem Ascending.bounds {size i : ℕ} {ss : List Stretch} (h : Ascending size i ss) {s : Stretch}
    (hs : s ∈ ss) : i ≤ s.start ∧ 0 < s.len ∧ s.stop ≤ size := by
  induction ss generalizing i with
  | nil => cases hs
  | cons t ss ih =>
    obtain ⟨hstart, hlen, hstop, hrest⟩ := h
    rcases List.mem_cons.mp hs with rfl | hs
    · exact ⟨hstart, hlen, hstop⟩
    · obtain ⟨hle, hpos, hin⟩ := ih hrest hs
      have : t.start ≤ t.stop := Nat.le_add_right _ _
      exact ⟨by omega, hpos, hin⟩

theorem Ascending.pairwise {size i : ℕ} {ss : List Stretch} (h : Ascending size i ss) :
    ss.Pairwise fun s t => s.stop < t.start := by
  induction ss generalizing i with
  | nil => exact List.Pairwise.nil
  | cons s ss ih => exact List.pairwise_cons.mpr ⟨fun t ht => (h.2.2.2.bounds ht).1, ih h.2.2.2⟩

/-- No stretch, or one that starts at `i` and lies before `size`. -/
def AtMostOneAt (size i : ℕ) (ss : List Stretch) : Prop :=
  ss = [] ∨ ∃ len, ss = [⟨i, len⟩] ∧ 0 < len ∧ i + len ≤ size

theorem AtMostOneAt.stop_le {size i : ℕ} {ss : List Stretch} (h : AtMostOneAt size i ss)
    {s : Stretch} (hs : s ∈ ss) : s.stop ≤ i + total ss := by
  obtain rfl | ⟨len, rfl, -, -⟩ := h
  · cases hs
  · obtain rfl := List.mem_singleton.mp hs
    simp [Stretch.stop]

theorem AtMostOneAt.add_total_le {size i : ℕ} {ss : List Stretch} (h : AtMostOneAt size i ss)
    (hi : i ≤ size) : i + total ss ≤ size := by
  obtain rfl | ⟨len, rfl, -, hin⟩ := h
  · simpa using hi
  · simpa using hin

theorem AtMostOneAt.flatMap_part {α : Type} {xs : List α} {i : ℕ} {ss : List Stretch}
    (h : AtMostOneAt xs.length i ss) : ss.flatMap (fun s => s.part xs) = slice xs i (total ss) := by
  obtain rfl | ⟨len, rfl, -, -⟩ := h
  · simp
  · simp [Stretch.part]

/-- One more stretch before those that ascend. -/
theorem AtMostOneAt.ascending {size i : ℕ} {here rest : List Stretch}
    (h : AtMostOneAt size i here) (hrest : Ascending size (i + total here + 1) rest) :
    Ascending size i (here ++ rest) := by
  obtain rfl | ⟨len, rfl, hlen, hin⟩ := h
  · exact hrest.mono (by simp)
  · exact ⟨Nat.le_refl i, hlen, hin, by simpa [Stretch.stop] using hrest⟩

/-! ### Taking stretches out -/

section Without

variable {α : Type}

/-- The elements, from position `i` on, that none of the stretches covers. -/
def without (ss : List Stretch) (i : ℕ) : List α → List α
  | [] => []
  | x :: xs =>
    if ∃ s ∈ ss, s.Covers i then without ss (i + 1) xs else x :: without ss (i + 1) xs

theorem without_append (ss : List Stretch) (i : ℕ) (xs ys : List α) :
    without ss i (xs ++ ys) = without ss i xs ++ without ss (i + xs.length) ys := by
  induction xs generalizing i with
  | nil => simp [without]
  | cons x xs ih =>
    simp only [List.cons_append, without, ih, List.length_cons]
    rw [Nat.add_right_comm, Nat.add_assoc]
    split <;> simp

/-- Elements that no stretch covers stay. -/
theorem without_eq_self {ss : List Stretch} {i : ℕ} {xs : List α}
    (h : ∀ s ∈ ss, i + xs.length ≤ s.start) : without ss i xs = xs := by
  induction xs generalizing i with
  | nil => rfl
  | cons x xs ih =>
    have hnot : ¬ ∃ s ∈ ss, s.Covers i := by
      rintro ⟨s, hs, hle, -⟩
      have := h s hs
      rw [List.length_cons] at this
      omega
    rw [without, if_neg hnot, ih fun s hs => ?_]
    have := h s hs
    rw [List.length_cons] at this
    omega

/-- Elements that a stretch covers go. -/
theorem without_eq_nil {ss : List Stretch} {s : Stretch} (hs : s ∈ ss) {i : ℕ} {xs : List α}
    (hstart : s.start ≤ i) (hstop : i + xs.length ≤ s.stop) : without ss i xs = [] := by
  induction xs generalizing i with
  | nil => rfl
  | cons x xs ih =>
    rw [List.length_cons] at hstop
    rw [without, if_pos ⟨s, hs, hstart, by omega⟩, ih (by omega) (by omega)]

/-- A stretch that has been passed no longer counts. -/
theorem without_cons_of_stop_le {s : Stretch} {i : ℕ} (h : s.stop ≤ i) (ss : List Stretch)
    (xs : List α) : without (s :: ss) i xs = without ss i xs := by
  induction xs generalizing i with
  | nil => rfl
  | cons x xs ih =>
    have hiff : (∃ t ∈ s :: ss, t.Covers i) ↔ ∃ t ∈ ss, t.Covers i := by
      simp only [List.mem_cons, exists_eq_or_imp, or_iff_right_iff_imp]
      rintro ⟨-, hlt⟩
      omega
    simp only [without, hiff, ih (by omega : s.stop ≤ i + 1)]

/-- Taking out what lies at a stretch and then the rest. -/
theorem without_stretch {size i : ℕ} {s : Stretch} {ss : List Stretch} {gap part rest : List α}
    (hasc : Ascending size i (s :: ss)) (hstart : i + gap.length = s.start)
    (hlen : part.length = s.len) :
    without (s :: ss) i (gap ++ part ++ rest) = gap ++ without ss s.stop rest := by
  have hgap : ∀ t ∈ s :: ss, i + gap.length ≤ t.start := by
    intro t ht
    rcases List.mem_cons.mp ht with rfl | ht
    · omega
    · have hle := (hasc.2.2.2.bounds ht).1
      have : s.start ≤ s.stop := Nat.le_add_right _ _
      omega
  have hpart : without (s :: ss) s.start part = [] :=
    without_eq_nil List.mem_cons_self (Nat.le_refl _) (Nat.le_of_eq (by rw [hlen]; rfl))
  rw [List.append_assoc, without_append, without_append, without_eq_self hgap, hstart, hpart,
    List.nil_append, hlen]
  exact congrArg (gap ++ ·) (without_cons_of_stop_le (Nat.le_refl _) ss rest)

/-- Taking stretches out, the first of them, if there is one there, after `m` elements. -/
theorem AtMostOneAt.without_eq {xs : List α} {i m : ℕ} {here rest : List Stretch}
    (h : AtMostOneAt xs.length (i + m) here) (hm : i + m ≤ xs.length)
    (hrest : Ascending xs.length (i + m + total here + 1) rest) :
    without (here ++ rest) i (xs.drop i)
      = slice xs i m ++ without rest (i + m + total here) (xs.drop (i + m + total here)) := by
  have hgap : (slice xs i m).length = m := length_slice hm
  have hasc := h.ascending hrest
  obtain rfl | ⟨len, rfl, hlen, hin⟩ := h
  · rw [List.nil_append, total_nil, Nat.add_zero, ← slice_append_drop xs i m, without_append, hgap,
      without_eq_self fun s hs => ?_]
    have hle := (hrest.bounds hs).1
    rw [hgap]
    omega
  · have hpart : (slice xs (i + m) len).length = len := length_slice hin
    have hsplit : xs.drop i
        = slice xs i m ++ slice xs (i + m) len ++ xs.drop (i + m + len) := by
      rw [List.append_assoc, slice_append_drop, slice_append_drop]
    rw [hsplit, List.singleton_append, total_cons, total_nil, Nat.add_zero]
    exact without_stretch (hasc.mono (Nat.le_add_right i m)) (by rw [hgap]) hpart

end Without

/-! ### Placing pieces -/

section Weave

variable {α : Type}

/-- A sequence, from position `i` on, in which each piece stands at its position and the elements
of `xs` fill the rest. -/
def weave (i : ℕ) (xs : List α) : List (ℕ × List α) → List α
  | [] => xs
  | (start, piece) :: pieces =>
    xs.take (start - i) ++ piece ++ weave (start + piece.length) (xs.drop (start - i)) pieces

/-- **Taken out and placed back.** What ascending stretches cover, placed where it stood among what
they leave, gives the sequence back. -/
theorem weave_without {xs : List α} {i : ℕ} {ss : List Stretch} (h : Ascending xs.length i ss) :
    weave i (without ss i (xs.drop i)) (ss.map fun s => (s.start, s.part xs)) = xs.drop i := by
  induction ss generalizing i with
  | nil =>
    rw [List.map_nil, weave]
    exact without_eq_self (by simp)
  | cons s ss ih =>
    obtain ⟨hstart, hlen, hstop, hrest⟩ := id h
    have hin : s.start + s.len ≤ xs.length := hstop
    have hgap : (slice xs i (s.start - i)).length = s.start - i := length_slice (by omega)
    have hsplit : xs.drop i
        = slice xs i (s.start - i) ++ s.part xs ++ xs.drop s.stop := by
      rw [List.append_assoc, Stretch.part, Stretch.stop, slice_append_drop]
      have := slice_append_drop xs i (s.start - i)
      rwa [Nat.add_sub_cancel' hstart, eq_comm] at this
    have hpart : (s.part xs).length = s.len := length_slice hin
    have hwithout : without (s :: ss) i (xs.drop i)
        = slice xs i (s.start - i) ++ without ss s.stop (xs.drop s.stop) := by
      rw [hsplit]
      exact without_stretch h (by rw [hgap]; omega) hpart
    -- the induction goes on from the end of this stretch, where the next piece is counted from
    have ih' := ih (hrest.mono (Nat.le_succ _))
    rw [List.map_cons, weave, hwithout, hpart, List.take_left' hgap, List.drop_left' hgap]
    rw [show s.start + s.len = s.stop from rfl, ih', ← hsplit]

/-- Cuts elements that were put together into the pieces for the stretches. -/
def pieces : List Stretch → List α → List (ℕ × List α)
  | [], _ => []
  | s :: ss, xs => (s.start, xs.take s.len) :: pieces ss (xs.drop s.len)

theorem pieces_flatMap_part {xs : List α} {i : ℕ} {ss : List Stretch}
    (h : Ascending xs.length i ss) :
    pieces ss (ss.flatMap fun s => s.part xs) = ss.map fun s => (s.start, s.part xs) := by
  induction ss generalizing i with
  | nil => rfl
  | cons s ss ih =>
    obtain ⟨-, -, hstop, hrest⟩ := h
    have hpart : (s.part xs).length = s.len := length_slice hstop
    rw [List.flatMap_cons, List.map_cons, pieces, List.take_left' hpart, List.drop_left' hpart,
      ih hrest]

theorem length_flatMap_part {xs : List α} {i : ℕ} {ss : List Stretch}
    (h : Ascending xs.length i ss) : (ss.flatMap fun s => s.part xs).length = total ss := by
  induction ss generalizing i with
  | nil => rfl
  | cons s ss ih =>
    obtain ⟨-, -, hstop, hrest⟩ := h
    have hpart : (s.part xs).length = s.len := length_slice hstop
    rw [List.flatMap_cons, List.length_append, hpart, ih hrest, total_cons]

end Weave

end Tandem.Edit
