import Tandem.Edit.Script
import Tandem.Proofs.Edit.Frontier

/-!
# Paths from both ends meet on a least path

`search` grows one frontier from the front and one from the back. While they have not met, every
path from end to end costs at least `2 * d - 1` at the beginning of round `d`; when they meet, the
point it answers with lies on a path of that least cost. So the point **divides** the two sequences
(`Divides`): a longest common subsequence of the whole is one of the first parts followed by one of
the second parts. Points outside the box never come into it, because a path that leaves the box
has passed the end of a sequence and would have met the other frontier before.

`divides_meeting` is the result for `meeting`, and `exists_cut` says that sequences without common
ends are always cut, never replaced as a whole.
-/

namespace Tandem.Edit

variable {α : Type} [DecidableEq α]

/-! ### Points that divide -/

/-- A point inside the box, at neither corner, through which a least path passes. -/
structure Divides (as bs : List α) (x y : ℕ) : Prop where
  x_le : x ≤ as.length
  y_le : y ≤ bs.length
  pos : 0 < x + y
  lt : x + y < as.length + bs.length
  common_eq : common as bs
    = common (as.take x) (bs.take y) + common (as.drop x) (bs.drop y)

section Points

variable {as bs : List α} {d e x y : ℕ}

/-- What the reversed sequences say about a point of the box. -/
theorem within_reverse (hx : x ≤ as.length) (hy : y ≤ bs.length) :
    Within as.reverse bs.reverse d (as.length - x) (bs.length - y) ↔
      (as.length - x) + (bs.length - y) ≤ d + 2 * common (as.drop x) (bs.drop y) := by
  rw [Within, List.take_reverse, List.take_reverse, Nat.sub_sub_self hx, Nat.sub_sub_self hy,
    common_reverse]

/-- No point within a cost is further than the sequences' own ends allow. -/
theorem Within.add_le (h : Within as bs d x y) : x + y ≤ d + 2 * common as bs := by
  have hmono := common_mono (List.take_sublist x as) (List.take_sublist y bs)
  simp only [Within] at h
  omega

theorem common_take_add_drop_le (as bs : List α) (x y : ℕ) :
    common (as.take x) (bs.take y) + common (as.drop x) (bs.drop y) ≤ common as bs := by
  simpa using common_add_le (as.take x) (bs.take y) (as.drop x) (bs.drop y)

/-- A point of the box divides, if the costs to its two sides are together no more than the least
cost of the whole can be. -/
theorem divides_of_within (hx : x ≤ as.length) (hy : y ≤ bs.length) (hed : e ≤ d)
    (hfront : Within as bs d x y)
    (hback : Within as.reverse bs.reverse e (as.length - x) (bs.length - y))
    (hleast : 2 * d + 2 * common as bs ≤ as.length + bs.length + 1)
    (htwo : 2 + 2 * common as bs ≤ as.length + bs.length) : Divides as bs x y := by
  have hsum := common_take_add_drop_le as bs x y
  rw [within_reverse hx hy] at hback
  rw [Within] at hfront
  refine ⟨hx, hy, Nat.pos_of_ne_zero fun hzero => ?_, Nat.lt_of_not_le fun hend => ?_, by omega⟩
  · obtain ⟨rfl, rfl⟩ : x = 0 ∧ y = 0 := by omega
    simp only [List.drop_zero] at hback
    omega
  · obtain ⟨rfl, rfl⟩ : x = as.length ∧ y = bs.length := by omega
    simp only [List.take_length] at hfront
    omega

/-- Elements that match are passed at no cost from the back, too. -/
theorem within_reverse_forth {m : ℕ} (hx : x + m ≤ as.length) (hy : y + m ≤ bs.length)
    (heq : slice as x m = slice bs y m)
    (h : Within as.reverse bs.reverse e (as.length - (x + m)) (bs.length - (y + m))) :
    Within as.reverse bs.reverse e (as.length - x) (bs.length - y) := by
  rw [within_reverse hx hy] at h
  rw [within_reverse (by omega) (by omega), ← slice_append_drop as x m,
    ← slice_append_drop bs y m, heq, common_append_left, ← heq, length_slice hx]
  omega

end Points

/-! ### One round of the search -/

section Round

variable {as bs : List α} {front back : Frontier} {d : ℕ} {k : ℤ}

/-- The back frontier of the round before, on the diagonal that a forward path meets it on. -/
private theorem furthest_back (hback : back.Ready as.reverse bs.reverse d)
    (hodd : ((as.length : ℤ) - bs.length) % 2 ≠ 0) (hpar : (k - d) % 2 = 0)
    (hnear : (k - ((as.length : ℤ) - bs.length)).natAbs < d) :
    Furthest as.reverse bs.reverse (d - 1) ((as.length : ℤ) - bs.length - k)
      (back.get ((as.length : ℤ) - bs.length - k)) := by
  cases d with
  | zero => omega
  | succ d => exact hback _ (by omega) (by omega)

/-- A forward path that meets the back frontier entered its diagonal at a point that divides. -/
theorem divides_forward {start : ℕ} (hstart : Entered as bs d k start)
    (hback : back.Ready as.reverse bs.reverse d)
    (hodd : ((as.length : ℤ) - bs.length) % 2 ≠ 0) (hpar : (k - d) % 2 = 0)
    (hnear : (k - ((as.length : ℤ) - bs.length)).natAbs < d)
    (hmet : as.length ≤ slide as.toArray bs.toArray k start
      + back.get ((as.length : ℤ) - bs.length - k))
    (hleast : 2 * d + 2 * common as bs ≤ as.length + bs.length + 1)
    (htwo : 2 + 2 * common as bs ≤ as.length + bs.length) :
    Divides as bs start ((start : ℤ) - k).toNat := by
  obtain ⟨y, hk, hwithin⟩ := hstart.reached
  have hfar := furthest_back hback hodd hpar hnear
  have hadd := hwithin.add_le
  have hx : start ≤ as.length := by omega
  have hy : y ≤ bs.length := by omega
  rw [show ((start : ℤ) - k).toNat = y by omega]
  refine divides_of_within hx hy (Nat.sub_le d 1) hwithin ?_ hleast htwo
  generalize back.get ((as.length : ℤ) - bs.length - k) = x' at *
  rcases Nat.le_total (as.length - start) x' with hle | hle
  · exact hfar.within hle (by omega)
  · -- the paths meet on the walk, so what lies before the meeting point matches
    obtain ⟨y', hk', hwithin'⟩ := hfar.reached
    rw [slide_eq hk] at hmet
    have hwalk := add_matching_le hx bs y
    have hwalk' := add_matching_le' as hy start
    have heq := slice_matching as bs start y
    generalize matching as.toArray bs.toArray start y = m at *
    obtain ⟨r, rfl⟩ : ∃ r, m = (as.length - start - x') + r :=
      ⟨m - (as.length - start - x'), by omega⟩
    have heq' := (slice_eq_part hwalk hwalk' heq).1
    refine within_reverse_forth (by omega) (by omega) heq' ?_
    rwa [show as.length - (start + (as.length - start - x')) = x' by omega,
      show bs.length - (y + (as.length - start - x')) = y' by omega]

/-- If no forward path meets the back frontier, the whole costs more than twice `d` less one. -/
theorem least_forward (hfront : front.Holds as bs d)
    (hback : back.Ready as.reverse bs.reverse d)
    (hodd : ((as.length : ℤ) - bs.length) % 2 ≠ 0)
    (hmiss : ∀ k : ℤ, k.natAbs ≤ d → (k - d) % 2 = 0 →
      (k - ((as.length : ℤ) - bs.length)).natAbs < d →
      ¬ as.length ≤ front.get k + back.get ((as.length : ℤ) - bs.length - k))
    (hleast : 2 * d + 2 * common as bs ≤ as.length + bs.length + 1) :
    2 * d + 2 * common as bs ≤ as.length + bs.length := by
  -- otherwise a path of cost `2 * d - 1` passes a point that both frontiers have reached
  refine Nat.le_of_not_lt fun hlt => ?_
  have hcl := common_le_left as bs
  have hcr := common_le_right as bs
  obtain ⟨x, y, hx, hy, hwithin, hwithin'⟩ :=
    exists_split (d := d) (e := d - 1) (by omega : as.length + bs.length ≤ _)
  have hsum := common_take_add_drop_le as bs x y
  have hstray := Within.le_add hwithin
  have hstray' := ((within_reverse hx hy).mpr hwithin').le_add
  have hfar := furthest_back (k := (x : ℤ) - y) hback hodd (by omega) (by omega)
  have hle := (hfront ((x : ℤ) - y) (by omega) (by omega)).bound x y rfl hwithin
  have hle' := hfar.bound _ _ (by omega) ((within_reverse hx hy).mpr hwithin')
  exact hmiss ((x : ℤ) - y) (by omega) (by omega) (by omega) (by omega)

/-- A backward path that meets the front frontier ends at a point that divides. -/
theorem divides_backward {stop : ℕ} (hstop : Furthest as.reverse bs.reverse d k stop)
    (hfront : front.Holds as bs d) (heven : ((as.length : ℤ) - bs.length) % 2 = 0)
    (hpar : (k - d) % 2 = 0) (hnear : (k - ((as.length : ℤ) - bs.length)).natAbs ≤ d)
    (hmet : as.length ≤ stop + front.get ((as.length : ℤ) - bs.length - k))
    (hleast : 2 * d + 2 * common as bs ≤ as.length + bs.length + 1)
    (htwo : 2 + 2 * common as bs ≤ as.length + bs.length) :
    Divides as bs (as.length - stop) (bs.length - ((stop : ℤ) - k).toNat) := by
  obtain ⟨y, hk, hwithin⟩ := hstop.reached
  have hadd := hwithin.add_le
  rw [common_reverse] at hadd
  have hx : stop ≤ as.length := by omega
  have hy : y ≤ bs.length := by omega
  rw [show ((stop : ℤ) - k).toNat = y by omega]
  have hfar := hfront ((as.length : ℤ) - bs.length - k) (by omega) (by omega)
  refine divides_of_within (Nat.sub_le _ _) (Nat.sub_le _ _) (Nat.le_refl d)
    (hfar.within (by omega) (by omega)) ?_ hleast htwo
  rwa [Nat.sub_sub_self hx, Nat.sub_sub_self hy]

/-- If no backward path meets the front frontier, the whole costs more than twice `d`. -/
theorem least_backward (hfront : front.Holds as bs d)
    (hback : back.Holds as.reverse bs.reverse d)
    (heven : ((as.length : ℤ) - bs.length) % 2 = 0)
    (hmiss : ∀ k : ℤ, k.natAbs ≤ d → (k - d) % 2 = 0 →
      (k - ((as.length : ℤ) - bs.length)).natAbs ≤ d →
      ¬ as.length ≤ back.get k + front.get ((as.length : ℤ) - bs.length - k))
    (hleast : 2 * d + 2 * common as bs ≤ as.length + bs.length) :
    2 * (d + 1) + 2 * common as bs ≤ as.length + bs.length + 1 := by
  refine Nat.le_of_not_lt fun hlt => ?_
  obtain ⟨x, y, hx, hy, hwithin, hwithin'⟩ :=
    exists_split (d := d) (e := d) (by omega : as.length + bs.length ≤ _)
  have hsum := common_take_add_drop_le as bs x y
  have hstray := Within.le_add hwithin
  have hstray' := ((within_reverse hx hy).mpr hwithin').le_add
  have hle := (hfront ((x : ℤ) - y) (by omega) (by omega)).bound x y rfl hwithin
  have hle' := (hback ((as.length : ℤ) - bs.length - (x - y)) (by omega) (by omega)).bound _ _
    (by omega) ((within_reverse hx hy).mpr hwithin')
  refine hmiss ((as.length : ℤ) - bs.length - (x - y)) (by omega) (by omega) (by omega) ?_
  rw [show (as.length : ℤ) - bs.length - ((as.length : ℤ) - bs.length - (x - y)) = x - y by omega]
  omega

end Round

/-! ### The whole search -/

/-- **The search finds a point that divides.** The induction is on the rounds left: each round
either answers or raises the least cost of the whole by two, and there are rounds enough for the
largest cost there is. -/
theorem divides_search {as bs : List α} {n : ℕ} (rounds d : ℕ) (front back : Frontier)
    (hrounds : rounds + d = n + 1) (hn : as.length + bs.length ≤ 2 * n)
    (hwide : front.Wide n) (hwide' : back.Wide n) (hfront : front.Ready as bs d)
    (hback : back.Ready as.reverse bs.reverse d)
    (hleast : 2 * d + 2 * common as bs ≤ as.length + bs.length + 1)
    (htwo : 2 + 2 * common as bs ≤ as.length + bs.length) :
    ∃ x y, search as.toArray bs.toArray rounds d front back = some (x, y) ∧ Divides as bs x y := by
  induction rounds generalizing d front back with
  | zero => omega
  | succ rounds ih =>
    rw [search]
    simp only [List.size_toArray, List.reverse_toArray]
    -- the test for a meeting stays folded until it is known how the sweep ended
    generalize hforth : (fun (k : ℤ) (x : ℕ) => ((as.length : ℤ) - bs.length) % 2 != 0 &&
      decide ((k - ((as.length : ℤ) - bs.length)).natAbs < d) &&
      decide (as.length ≤ x + back.get ((as.length : ℤ) - bs.length - k))) = meets
    have hsweep := holds_sweep meets hwide (by omega : d ≤ n) hfront
    revert hsweep
    cases sweep as.toArray bs.toArray d meets (diagonals d) front with
    | inl m =>
      rintro ⟨-, hpar, hstart, hstop, hmet⟩
      subst hforth
      simp only [Bool.and_eq_true, bne_iff_ne, decide_eq_true_eq] at hmet
      obtain ⟨⟨hodd, hnear⟩, hmet⟩ := hmet
      rw [hstop] at hmet
      exact ⟨_, _, rfl, divides_forward hstart hback hodd hpar hnear hmet hleast htwo⟩
    | inr front =>
      rintro ⟨hwide, hfront, hmiss⟩
      have hleast' : 2 * d + 2 * common as bs ≤ as.length + bs.length := by
        -- the cost of the whole has the parity of the difference of the two lengths
        by_cases hodd : ((as.length : ℤ) - bs.length) % 2 = 0
        · omega
        · refine least_forward hfront hback hodd (fun k hle hpar hnear hmet => ?_) hleast
          have := hmiss k hle hpar
          subst hforth
          simp [hodd, hnear, hmet] at this
      clear hmiss hforth
      generalize hforth : (fun (k : ℤ) (x : ℕ) => !(((as.length : ℤ) - bs.length) % 2 != 0) &&
        decide ((k - ((as.length : ℤ) - bs.length)).natAbs ≤ d) &&
        decide (as.length ≤ x + front.get ((as.length : ℤ) - bs.length - k))) = meets'
      have hsweep := holds_sweep meets' hwide' (by omega : d ≤ n) hback
      revert hsweep
      simp only [hforth]
      cases sweep as.reverse.toArray bs.reverse.toArray d meets' (diagonals d) back with
      | inl m =>
        rintro ⟨-, hpar, hstart, hstop, hmet⟩
        have hfar := hstart.furthest_slide
        rw [← hstop] at hfar
        subst hforth
        simp only [Bool.and_eq_true, Bool.not_eq_true', bne_eq_false_iff_eq,
          decide_eq_true_eq] at hmet
        obtain ⟨⟨heven, hnear⟩, hmet⟩ := hmet
        exact ⟨_, _, rfl, divides_backward hfar hfront heven hpar hnear hmet hleast htwo⟩
      | inr back =>
        rintro ⟨hwide', hback', hmiss⟩
        refine ih (d + 1) front back (by omega) hwide hwide' hfront hback' ?_
        by_cases heven : ((as.length : ℤ) - bs.length) % 2 = 0
        · refine least_backward hfront hback' heven (fun k hle hpar hnear hmet => ?_) hleast'
          have := hmiss k hle hpar
          subst hforth
          simp [heven, hnear, hmet] at this
        · omega

private theorem commonBack_cons_pos (a : α) {bs : List α} (hb : bs ≠ []) :
    0 < commonBack (a :: bs) bs := by
  obtain ⟨init, c, rfl⟩ : ∃ init c, bs = init ++ [c] :=
    ⟨_, _, (List.dropLast_concat_getLast hb).symm⟩
  simp [commonBack, commonFront]

/-- Sequences with everything in common are equal. -/
private theorem eq_of_length_eq_common {as bs : List α} (ha : as.length = common as bs)
    (hb : bs.length = common as bs) : as = bs := by
  obtain ⟨s, hsa, hsb, hlen⟩ := exists_common as bs
  exact (hsa.eq_of_length (by omega)).symm.trans (hsb.eq_of_length (by omega))

/-- Two sequences without common ends cost at least two: at cost one, one of them would be the
other with an element more, which leaves a common end. -/
theorem two_le_cost {as bs : List α} (ha : as ≠ []) (hb : bs ≠ [])
    (hfront : commonFront as bs = 0) (hback : commonBack as bs = 0) :
    2 + 2 * common as bs ≤ as.length + bs.length := by
  obtain ⟨a, as, rfl⟩ := List.exists_cons_of_ne_nil ha
  obtain ⟨b, bs, rfl⟩ := List.exists_cons_of_ne_nil hb
  have hne : a ≠ b := by
    rintro rfl
    simp [commonFront] at hfront
  rw [common_cons_of_ne hne]
  have hl := common_le_left as (b :: bs)
  have hr := common_le_right as (b :: bs)
  have hl' := common_le_left (a :: as) bs
  have hr' := common_le_right (a :: as) bs
  simp only [List.length_cons] at hr hl' ⊢
  refine Nat.le_of_not_lt fun hlt => ?_
  -- the longer of the two candidates leaves no element over on its own side
  rcases Nat.le_total (common as (b :: bs)) (common (a :: as) bs) with hle | hle
  · have heq : a :: as = bs := eq_of_length_eq_common (by rw [List.length_cons]; omega) (by omega)
    rw [heq, commonBack, commonFront_comm] at hback
    exact absurd hback (Nat.ne_of_gt (commonBack_cons_pos b (heq ▸ ha)))
  · have heq : as = b :: bs := eq_of_length_eq_common (by omega) (by rw [List.length_cons]; omega)
    rw [heq] at hback
    exact absurd hback (Nat.ne_of_gt (commonBack_cons_pos a hb))

/-- **`meeting` answers with a point that divides**, if the sequences have no common ends. -/
theorem divides_meeting {as bs : List α} (ha : as ≠ []) (hb : bs ≠ [])
    (hfront : commonFront as bs = 0) (hback : commonBack as bs = 0) :
    ∃ x y, meeting as bs = some (x, y) ∧ Divides as bs x y := by
  have hl := common_le_left as bs
  have hr := common_le_right as bs
  exact divides_search _ 0 _ _ rfl (by omega) (Frontier.wide_zero _) (Frontier.wide_zero _)
    (Frontier.get_zero _ _) (Frontier.get_zero _ _) (by omega)
    (two_le_cost ha hb hfront hback)

/-- **Sequences without common ends are cut**, at a point that divides. -/
theorem exists_cut {old new : List α} (hold : old ≠ []) (hnew : new ≠ [])
    (hfront : commonFront old new = 0) (hback : commonBack old new = 0) :
    ∃ c : Cut old new, cut? old new = some c ∧ Divides old new c.x c.y := by
  obtain ⟨x, y, hmeeting, hdiv⟩ := divides_meeting hold hnew hfront hback
  refine ⟨⟨x, y, hdiv.x_le, hdiv.y_le, hdiv.pos, hdiv.lt⟩, ?_, hdiv⟩
  rw [cut?, hmeeting]
  exact dif_pos ⟨hdiv.x_le, hdiv.y_le, hdiv.pos, hdiv.lt⟩

end Tandem.Edit
