import Tandem.Edit.Frontier
import Tandem.Proofs.Edit.Common
import Mathlib.Data.Int.Notation

/-!
# Furthest points

`Within as bs d x y` says that `x` old and `y` new elements are passed by a path of cost at most
`d`, where a path pays one for each element that it drops or adds. It is stated through `common`,
not through paths, and also for points outside the box that the two sequences span.

The cost never falls along a diagonal (`Within.back`), so the points of a diagonal within a cost are
those up to a **furthest** one, and a frontier can hold them all as one number. `sweep` computes the
furthest points of one cost from those of the cost below: `Frontier.Holds` is what a frontier holds
after a round, and `holds_sweep` that a round hands it on.
-/

namespace Tandem.Edit

variable {α : Type} [DecidableEq α]

/-! ### Points within a cost -/

section Within

variable {as bs : List α} {d x y : ℕ}

/-- A path of cost at most `d` passes `x` old and `y` new elements. -/
def Within (as bs : List α) (d x y : ℕ) : Prop :=
  x + y ≤ d + 2 * common (as.take x) (bs.take y)

theorem within_zero_zero (as bs : List α) (d : ℕ) : Within as bs d 0 0 := by
  simp [Within]

/-- A path of cost `d` strays at most `d` from the main diagonal. -/
theorem Within.le_add (h : Within as bs d x y) : x ≤ d + y ∧ y ≤ d + x := by
  have hx := common_take_le_left as (bs.take y) x
  have hy := common_take_le_right (as.take x) bs y
  simp only [Within] at h
  omega

theorem Within.right (h : Within as bs d x y) : Within as bs (d + 1) (x + 1) y := by
  have hmono := common_mono (List.take_sublist_take_left (l := as) (by omega : x ≤ x + 1))
    (List.Sublist.refl (bs.take y))
  simp only [Within] at h ⊢
  omega

theorem Within.down (h : Within as bs d x y) : Within as bs (d + 1) x (y + 1) := by
  have hmono := common_mono (List.Sublist.refl (as.take x))
    (List.take_sublist_take_left (l := bs) (by omega : y ≤ y + 1))
  simp only [Within] at h ⊢
  omega

/-- The cost never falls along a diagonal. -/
theorem Within.back {m : ℕ} (h : Within as bs d (x + m) (y + m)) : Within as bs d x y := by
  induction m with
  | zero => exact h
  | succ m ih =>
    have hstep := common_take_succ_le as bs (x + m) (y + m)
    refine ih ?_
    simp only [Within, ← Nat.add_assoc] at h ⊢
    omega

/-- Elements that match are passed at no cost. -/
theorem Within.forth {m : ℕ} (h : Within as bs d x y) (ha : x + m ≤ as.length)
    (heq : slice as x m = slice bs y m) : Within as bs d (x + m) (y + m) := by
  have hlen : (slice as x m).length = m := length_slice ha
  have hadd := common_append_right (as.take x) (bs.take y) (slice as x m)
  rw [heq, ← heq, hlen] at hadd
  simp only [Within, List.take_add] at h ⊢
  simp only [slice] at hadd heq
  rw [← heq, hadd]
  omega

/-- The last step to a point that no match leads to drops or adds an element. -/
theorem Within.last_step (h : Within as bs d (x + 1) (y + 1))
    (hne : ∀ a, as[x]? = some a → bs[y]? ≠ some a) :
    ∃ e, d = e + 1 ∧ (Within as bs e x (y + 1) ∨ Within as bs e (x + 1) y) := by
  have hmax := common_take_succ_of_ne hne
  have hx := common_take_le_left as (bs.take (y + 1)) x
  have hx' := common_take_le_right (as.take x) bs (y + 1)
  have hy := common_take_le_left as (bs.take y) (x + 1)
  have hy' := common_take_le_right (as.take (x + 1)) bs y
  simp only [Within] at h ⊢
  refine ⟨d - 1, by omega, ?_⟩
  omega

end Within

/-! ### Furthest points -/

/-- Of the points of diagonal `k` within cost `d`, the furthest has passed `x` old elements. -/
structure Furthest (as bs : List α) (d : ℕ) (k : ℤ) (x : ℕ) : Prop where
  reached : ∃ y : ℕ, (x : ℤ) - y = k ∧ Within as bs d x y
  bound : ∀ x' y' : ℕ, (x' : ℤ) - y' = k → Within as bs d x' y' → x' ≤ x

/-- All points of the diagonal up to the furthest are within the cost. -/
theorem Furthest.within {as bs : List α} {d : ℕ} {k : ℤ} {x x' y' : ℕ}
    (h : Furthest as bs d k x) (hx : x' ≤ x) (hk : (x' : ℤ) - y' = k) :
    Within as bs d x' y' := by
  obtain ⟨y, hy, hwithin⟩ := h.reached
  have hx' : x = x' + (x - x') := by omega
  have hy' : y = y' + (x - x') := by omega
  rw [hx', hy'] at hwithin
  exact hwithin.back

/-- Where a path of cost `d` enters diagonal `k`: a point within that cost, and no less far than the
points one step away on the diagonals beside it. -/
structure Entered (as bs : List α) (d : ℕ) (k : ℤ) (x : ℕ) : Prop where
  reached : ∃ y : ℕ, (x : ℤ) - y = k ∧ Within as bs d x y
  below : ∀ e x' y' : ℕ, d = e + 1 → (x' : ℤ) - y' = k - 1 → Within as bs e x' y' → x' + 1 ≤ x
  above : ∀ e x' y' : ℕ, d = e + 1 → (x' : ℤ) - y' = k + 1 → Within as bs e x' y' → x' ≤ x

/-! ### Walking along a diagonal -/

theorem matching_eq_commonFront (as bs : List α) (x y : ℕ) :
    matching as.toArray bs.toArray x y = commonFront (as.drop x) (bs.drop y) := by
  fun_induction matching as.toArray bs.toArray x y with
  | case1 x y hx hy h ih =>
    simp only [List.size_toArray, List.getElem_toArray] at hx hy h
    rw [ih, List.drop_eq_getElem_cons hx, List.drop_eq_getElem_cons hy]
    simp [commonFront, h]
  | case2 x y hx hy h =>
    simp only [List.size_toArray, List.getElem_toArray] at hx hy h
    rw [List.drop_eq_getElem_cons hx, List.drop_eq_getElem_cons hy]
    simp [commonFront, h]
  | case3 x y hx hy =>
    rw [List.drop_eq_nil_of_le (by simpa using hy : bs.length ≤ y), commonFront_comm]
    simp [commonFront]
  | case4 x y hx =>
    rw [List.drop_eq_nil_of_le (by simpa using hx : as.length ≤ x)]
    simp [commonFront]

/-- The walk along a diagonal ends before elements that do not match. -/
private theorem getElem?_ne_of_matching (as bs : List α) (x y : ℕ) (a : α)
    (ha : as[x + matching as.toArray bs.toArray x y]? = some a) :
    bs[y + matching as.toArray bs.toArray x y]? ≠ some a := by
  intro hb
  have h := commonFront_drop (as.drop x) (bs.drop y)
  rw [← matching_eq_commonFront as bs x y, List.drop_drop, List.drop_drop] at h
  obtain ⟨hx, rfl⟩ := List.getElem?_eq_some_iff.mp ha
  obtain ⟨hy, heq⟩ := List.getElem?_eq_some_iff.mp hb
  rw [List.drop_eq_getElem_cons hx, List.drop_eq_getElem_cons hy] at h
  simp [commonFront, heq] at h

/-- The walk along a diagonal passes elements that match. -/
theorem slice_matching (as bs : List α) (x y : ℕ) :
    slice as x (matching as.toArray bs.toArray x y)
        = slice bs y (matching as.toArray bs.toArray x y) := by
  rw [matching_eq_commonFront]
  exact take_commonFront (as.drop x) (bs.drop y)

theorem add_matching_le {as : List α} {x : ℕ} (hx : x ≤ as.length) (bs : List α) (y : ℕ) :
    x + matching as.toArray bs.toArray x y ≤ as.length := by
  have h := commonFront_le_left (as.drop x) (bs.drop y)
  rw [← matching_eq_commonFront, List.length_drop] at h
  omega

theorem add_matching_le' {bs : List α} {y : ℕ} (as : List α) (hy : y ≤ bs.length) (x : ℕ) :
    y + matching as.toArray bs.toArray x y ≤ bs.length := by
  have h := commonFront_le_right (as.drop x) (bs.drop y)
  rw [← matching_eq_commonFront, List.length_drop] at h
  omega

theorem slide_eq {x y : ℕ} {k : ℤ} (hk : (x : ℤ) - y = k) (as bs : Array α) :
    slide as bs k x = x + matching as bs x y := by
  rw [slide, if_neg (by omega), show ((x : ℤ) - k).toNat = y by omega]

/-- Walking on from where a diagonal is entered leads to its furthest point. -/
theorem Entered.furthest_slide {as bs : List α} {d : ℕ} {k : ℤ} {x : ℕ}
    (h : Entered as bs d k x) :
    Furthest as bs d k (slide as.toArray bs.toArray k x) := by
  obtain ⟨y, hk, hwithin⟩ := h.reached
  rw [slide_eq hk]
  have hne := getElem?_ne_of_matching as bs x y
  have heq := slice_matching as bs x y
  have hle := fun hx : x ≤ as.length => add_matching_le hx bs y
  have hzero : as.length < x → matching as.toArray bs.toArray x y = 0 := by
    intro hx
    rw [matching_eq_commonFront, List.drop_eq_nil_of_le (by omega)]
    rfl
  generalize matching as.toArray bs.toArray x y = m at *
  refine ⟨⟨y + m, by omega, ?_⟩, fun x' y' hk' hwithin' => ?_⟩
  · rcases Nat.lt_or_ge as.length x with hx | hx
    · rw [hzero hx]
      exact hwithin
    · exact hwithin.forth (hle hx) heq
  · -- a point further on would make the first one past the walk's end a point within the cost
    refine Nat.le_of_not_lt fun hlt => ?_
    have hx' : x' = x + m + 1 + (x' - (x + m + 1)) := by omega
    have hy' : y' = y + m + 1 + (x' - (x + m + 1)) := by omega
    rw [hx', hy'] at hwithin'
    obtain ⟨e, hd, hstep | hstep⟩ := hwithin'.back.last_step hne
    · have := h.below e _ _ hd (by omega) hstep
      omega
    · have := h.above e _ _ hd (by omega) hstep
      omega

/-! ### What a frontier holds -/

namespace Frontier

/-- The frontier has room for the diagonals from `-(n + 1)` to `n + 1`. -/
structure Wide (v : Frontier) (n : ℕ) : Prop where
  offset_eq : v.offset = n + 1
  size_eq : v.reach.size = 2 * n + 3

theorem wide_zero (n : ℕ) : (zero n).Wide n :=
  ⟨rfl, by simp [zero]⟩

theorem get_zero (n : ℕ) (k : ℤ) : (zero n).get k = 0 := by
  simp [zero, get, Array.getD_eq_getD_getElem?, Array.getElem?_replicate]
  split <;> rfl

theorem Wide.set {v : Frontier} {n : ℕ} (h : v.Wide n) (k : ℤ) (x : ℕ) : (v.set k x).Wide n :=
  ⟨h.offset_eq, by simp [Frontier.set, h.size_eq]⟩

theorem Wide.get_set {v : Frontier} {n : ℕ} (h : v.Wide n) {k k' : ℤ} (x : ℕ)
    (hk : k.natAbs ≤ n + 1) (hk' : k'.natAbs ≤ n + 1) :
    (v.set k x).get k' = if k' = k then x else v.get k' := by
  have hoffset := h.offset_eq
  have hsize := h.size_eq
  simp only [Frontier.get, Frontier.set, Array.getD_eq_getD_getElem?,
    Array.getElem?_setIfInBounds, hoffset, hsize]
  by_cases hkk : k' = k
  · rw [if_pos hkk, hkk, if_pos rfl, if_pos (by omega), Option.getD_some]
  · rw [if_neg hkk, if_neg (by omega)]

/-- After the round of cost `d` a frontier holds the furthest points of that cost, on the diagonals
that a path of cost `d` can end on. -/
def Holds (as bs : List α) (v : Frontier) (d : ℕ) : Prop :=
  ∀ k : ℤ, k.natAbs ≤ d → (k - d) % 2 = 0 → Furthest as bs d k (v.get k)

/-- What a frontier has to hold for the round of cost `d`. -/
def Ready (as bs : List α) (v : Frontier) : ℕ → Prop
  | 0 => v.get 1 = 0
  | d + 1 => v.Holds as bs d

/-- The diagonals of a round are entered where they should be. -/
theorem Ready.entered {as bs : List α} {v : Frontier} {d : ℕ} (h : v.Ready as bs d) {k : ℤ}
    (hk : k.natAbs ≤ d) (hpar : (k - d) % 2 = 0) : Entered as bs d k (v.enter d k) := by
  cases d with
  | zero =>
    obtain rfl : k = 0 := by omega
    have hget : v.get 1 = 0 := h
    have henter : v.enter 0 0 = 0 := by simp [enter, hget]
    rw [henter]
    exact ⟨⟨0, by omega, within_zero_zero as bs 0⟩, fun e _ _ he => by omega,
      fun e _ _ he => by omega⟩
  | succ d =>
    -- the diagonals beside `k`, as far as paths of cost `d` can end on them
    have hbelow : ¬ k = -((d + 1 : ℕ) : ℤ) → Furthest as bs d (k - 1) (v.get (k - 1)) :=
      fun hne => h (k - 1) (by omega) (by omega)
    have habove : k ≠ ((d + 1 : ℕ) : ℤ) → Furthest as bs d (k + 1) (v.get (k + 1)) :=
      fun hne => h (k + 1) (by omega) (by omega)
    have hnone : ∀ x' y' : ℕ, Within as bs d x' y' → ((x' : ℤ) - y').natAbs ≤ d := by
      intro x' y' hwithin
      have := hwithin.le_add
      omega
    unfold enter
    split
    · next hcond =>
      have hfar := habove (by omega)
      obtain ⟨y, hy, hwithin⟩ := hfar.reached
      refine ⟨⟨y + 1, by omega, hwithin.down⟩, fun e x' y' he hk' hwithin' => ?_,
        fun e x' y' he hk' hwithin' => ?_⟩
      · obtain rfl : e = d := by omega
        rcases hcond with hlow | ⟨-, hlt⟩
        · have := hnone x' y' hwithin'
          omega
        · have := hnone x' y' hwithin'
          have := (hbelow (by omega)).bound x' y' hk' hwithin'
          omega
      · obtain rfl : e = d := by omega
        exact hfar.bound x' y' hk' hwithin'
    · next hcond =>
      obtain ⟨hlow, hhigh⟩ := not_or.mp hcond
      have hfar := hbelow hlow
      obtain ⟨y, hy, hwithin⟩ := hfar.reached
      refine ⟨⟨y, by omega, hwithin.right⟩, fun e x' y' he hk' hwithin' => ?_,
        fun e x' y' he hk' hwithin' => ?_⟩
      · obtain rfl : e = d := by omega
        exact Nat.succ_le_succ (hfar.bound x' y' hk' hwithin')
      · obtain rfl : e = d := by omega
        have := hnone x' y' hwithin'
        have := (habove (by omega)).bound x' y' hk' hwithin'
        omega

/-- Entering a diagonal looks only at the diagonals beside it. -/
theorem enter_congr {v w : Frontier} {d : ℕ} {k : ℤ} (hbelow : w.get (k - 1) = v.get (k - 1))
    (habove : w.get (k + 1) = v.get (k + 1)) : w.enter d k = v.enter d k := by
  simp only [enter, hbelow, habove]

end Frontier

/-! ### One sweep -/

/-- What a sweep over the diagonals `ks` finds: the first diagonal on which it meets the other
frontier, or all of them advanced, none met and the rest untouched. -/
theorem sweep_spec (as bs : Array α) {d n : ℕ} (meets : ℤ → ℕ → Bool) (ks : List ℤ) (v : Frontier)
    (hwide : v.Wide n) (hd : d ≤ n) (hks : ∀ k ∈ ks, k.natAbs ≤ d ∧ (k - d) % 2 = 0)
    (hnodup : ks.Nodup) :
    match sweep as bs d meets ks v with
    | .inl m => m.diagonal ∈ ks ∧ m.start = v.enter d m.diagonal ∧
        m.stop = slide as bs m.diagonal m.start ∧ meets m.diagonal m.stop = true
    | .inr w => w.Wide n ∧
        (∀ k ∈ ks, w.get k = slide as bs k (v.enter d k) ∧ meets k (w.get k) = false) ∧
        ∀ k : ℤ, k.natAbs ≤ n + 1 → k ∉ ks → w.get k = v.get k := by
  induction ks generalizing v with
  | nil => exact ⟨hwide, by simp, fun _ _ _ => rfl⟩
  | cons k ks ih =>
    obtain ⟨hk, hpar⟩ := hks k (by simp)
    rw [List.nodup_cons] at hnodup
    rw [sweep]
    by_cases hmeets : meets k (slide as bs k (v.enter d k)) = true
    · simp only [hmeets, if_true]
      exact ⟨by simp, trivial, trivial, trivial⟩
    · simp only [hmeets]
      have hset : ∀ k' : ℤ, k'.natAbs ≤ n + 1 →
          (v.set k (slide as bs k (v.enter d k))).get k'
            = if k' = k then slide as bs k (v.enter d k) else v.get k' :=
        fun k' hk' => hwide.get_set _ (by omega) hk'
      -- the sweep goes on to diagonals whose neighbours the new entry is not among
      have henter : ∀ k' ∈ ks,
          (v.set k (slide as bs k (v.enter d k))).enter d k' = v.enter d k' := by
        intro k' hk'
        obtain ⟨hle, hpar'⟩ := hks k' (by simp [hk'])
        refine Frontier.enter_congr ?_ ?_
        · rw [hset _ (by omega), if_neg (by omega)]
        · rw [hset _ (by omega), if_neg (by omega)]
      have hrest := ih _ (hwide.set k (slide as bs k (v.enter d k)))
        (fun k' hk' => hks k' (by simp [hk'])) hnodup.2
      revert hrest
      cases hsweep : sweep as bs d meets ks (v.set k (slide as bs k (v.enter d k))) with
      | inl m =>
        rintro ⟨hmem, hstart, hstop, hmet⟩
        simp only [if_false, Bool.false_eq_true]
        exact ⟨by simp [hmem], by rw [hstart, henter _ hmem], hstop, hmet⟩
      | inr w =>
        rintro ⟨hwide', hdone, hkeep⟩
        have hgetk : w.get k = slide as bs k (v.enter d k) := by
          rw [hkeep k (by omega) hnodup.1, hset k (by omega), if_pos rfl]
        simp only [if_false, Bool.false_eq_true]
        refine ⟨hwide', fun k' hk' => ?_, fun k' hle hk' => ?_⟩
        · rcases List.mem_cons.mp hk' with rfl | hk'
          · exact ⟨hgetk, by rw [hgetk]; simpa using hmeets⟩
          · rw [← henter k' hk']
            exact hdone k' hk'
        · rw [List.mem_cons, not_or] at hk'
          rw [hkeep k' hle hk'.2, hset k' hle, if_neg hk'.1]

/-- The diagonals of a round are those that a path of its cost can end on. -/
theorem mem_diagonals {d : ℕ} {k : ℤ} : k ∈ diagonals d ↔ k.natAbs ≤ d ∧ (k - d) % 2 = 0 := by
  simp only [diagonals, List.mem_map, List.mem_range]
  constructor
  · rintro ⟨i, hi, rfl⟩
    omega
  · rintro ⟨hle, hpar⟩
    exact ⟨((d - k) / 2).toNat, by omega, by omega⟩

theorem nodup_diagonals (d : ℕ) : (diagonals d).Nodup := by
  rw [diagonals, List.Nodup, List.pairwise_map]
  exact List.nodup_range.imp fun hne heq => hne (by omega)

/-- **A round hands a frontier on**: the sweep over its diagonals either meets the other frontier,
at a furthest point of a diagonal entered where it should be, or leaves a frontier that holds the
round's furthest points, none of which meets the other. -/
theorem holds_sweep {as bs : List α} {d n : ℕ} {v : Frontier} (meets : ℤ → ℕ → Bool)
    (hwide : v.Wide n) (hd : d ≤ n) (hready : v.Ready as bs d) :
    match sweep as.toArray bs.toArray d meets (diagonals d) v with
    | .inl m => m.diagonal.natAbs ≤ d ∧ (m.diagonal - d) % 2 = 0 ∧
        Entered as bs d m.diagonal m.start ∧
        m.stop = slide as.toArray bs.toArray m.diagonal m.start ∧
        meets m.diagonal m.stop = true
    | .inr w => w.Wide n ∧ w.Holds as bs d ∧
        ∀ k : ℤ, k.natAbs ≤ d → (k - d) % 2 = 0 → meets k (w.get k) = false := by
  have hspec := sweep_spec as.toArray bs.toArray meets (diagonals d) v hwide hd
    (fun k hk => mem_diagonals.mp hk) (nodup_diagonals d)
  revert hspec
  cases sweep as.toArray bs.toArray d meets (diagonals d) v with
  | inl m =>
    rintro ⟨hmem, hstart, hstop, hmet⟩
    obtain ⟨hle, hpar⟩ := mem_diagonals.mp hmem
    exact ⟨hle, hpar, hstart ▸ hready.entered hle hpar, hstop, hmet⟩
  | inr w =>
    rintro ⟨hwide', hdone, -⟩
    refine ⟨hwide', fun k hle hpar => ?_, fun k hle hpar => ?_⟩
    · rw [(hdone k (mem_diagonals.mpr ⟨hle, hpar⟩)).1]
      exact (hready.entered hle hpar).furthest_slide
    · exact (hdone k (mem_diagonals.mpr ⟨hle, hpar⟩)).2

end Tandem.Edit
