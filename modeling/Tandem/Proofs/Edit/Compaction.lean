import Tandem.Proofs.Edit.Place

/-!
# Compaction moves nothing out of place

Compaction works on a script by a few local moves: a deletion and an addition trade places, runs of
one kind that touch become one, kept runs that touch become one, and an addition slides along kept
elements. `Reshapes xs ys` says that `ys` does the work of `xs` wherever `xs` fits by rank: it fits
too, and ends at the same place. Each move reshapes (`reshapes_swap_delete` and so on), reshaping
goes through in any surroundings, and so `compact` reshapes the script as a whole
(`reshapes_compact`).

The positions on the sides that changes do not touch are part of what is kept: they are wrong after
a trade, but stay the same function of the rank (`byRank`).
-/

namespace Tandem.Edit

theorem Op.reverse_keep (o n len : ℕ) : (Op.keep o n len).reverse = Op.keep o n len := by
  unfold Op.keep
  split <;> rfl

/-! ### Reshaping -/

section Reshaping

variable {α : Type} (olds news : List α) (others : Change → ℕ → ℕ)

/-- Wherever `xs` fits by rank, `ys` fits too and ends at the same place. -/
def Reshapes (xs ys : List Op) : Prop :=
  ∀ p : Place, Fits olds news (byRank others) p xs →
    Fits olds news (byRank others) p ys ∧ p.walk ys = p.walk xs

variable {olds news others} {xs ys zs : List Op}

theorem Reshapes.refl (xs : List Op) : Reshapes olds news others xs xs :=
  fun _ h => ⟨h, rfl⟩

theorem Reshapes.trans (hxy : Reshapes olds news others xs ys)
    (hyz : Reshapes olds news others ys zs) : Reshapes olds news others xs zs := by
  intro p h
  obtain ⟨hy, hwalk⟩ := hxy p h
  obtain ⟨hz, hwalk'⟩ := hyz p hy
  exact ⟨hz, hwalk'.trans hwalk⟩

/-- Reshaping goes through in any surroundings. -/
theorem Reshapes.inside (h : Reshapes olds news others xs ys) (before after : List Op) :
    Reshapes olds news others (before ++ xs ++ after) (before ++ ys ++ after) := by
  intro p hp
  rw [List.append_assoc, fits_append, fits_append] at hp
  obtain ⟨hbefore, hxs, hafter⟩ := hp
  obtain ⟨hys, hwalk⟩ := h _ hxs
  rw [List.append_assoc, fits_append, fits_append, hwalk]
  refine ⟨⟨hbefore, hys, hafter⟩, ?_⟩
  simp only [List.append_assoc, Place.walk_append, hwalk]

/-! ### The moves -/

/-- A deletion moves down past an addition. -/
theorem reshapes_swap_delete (o l n o' n' l' : ℕ) :
    Reshapes olds news others [.delete o l n, .insert o' n' l']
      [.insert o' n' l', .delete o l n] := by
  rintro p ⟨⟨ho, hl, hin, hn⟩, ⟨hn', hl', hin', ho'⟩, -⟩
  exact ⟨⟨⟨hn', hl', hin', ho'⟩, ⟨ho, hl, hin, hn⟩, trivial⟩, rfl⟩

/-- An addition moves down past a deletion. -/
theorem reshapes_swap_insert (o l n o' n' l' : ℕ) :
    Reshapes olds news others [.insert o' n' l', .delete o l n]
      [.delete o l n, .insert o' n' l'] := by
  rintro p ⟨⟨hn', hl', hin', ho'⟩, ⟨ho, hl, hin, hn⟩, -⟩
  exact ⟨⟨⟨ho, hl, hin, hn⟩, ⟨hn', hl', hin', ho'⟩, trivial⟩, rfl⟩

/-- Deletions that touch become one, at the first one's positions. -/
theorem reshapes_merge_delete (o l n o' l' n' : ℕ) :
    Reshapes olds news others [.delete o l n, .delete o' l' n'] [.delete o (l + l') n] := by
  rintro p ⟨⟨ho, hl, hin, hn⟩, ⟨ho', hl', hin', -⟩, -⟩
  simp only [Place.old, Place.step_delete] at ho ho'
  refine ⟨⟨⟨ho, by omega, by omega, hn⟩, trivial⟩, ?_⟩
  simp [Nat.add_assoc]

/-- Additions that touch become one, at the first one's positions. -/
theorem reshapes_merge_insert (o n l o' n' l' : ℕ) :
    Reshapes olds news others [.insert o n l, .insert o' n' l'] [.insert o n (l + l')] := by
  rintro p ⟨⟨hn, hl, hin, ho⟩, ⟨hn', hl', hin', -⟩, -⟩
  simp only [Place.new, Place.step_insert] at hn hn'
  refine ⟨⟨⟨hn, by omega, by omega, ho⟩, trivial⟩, ?_⟩
  simp [Nat.add_assoc]

/-- Kept runs that touch become one. -/
theorem reshapes_merge_equal (o n l o' n' l' : ℕ) :
    Reshapes olds news others [.equal o n l, .equal o' n' l'] [.equal o n (l + l')] := by
  rintro p ⟨⟨ho, hn, hl, hino, hinn, heq⟩, ⟨ho', hn', hl', hino', hinn', heq'⟩, -⟩
  have hoo : o' = o + l := by rw [ho', ho]; simp only [Place.old, Place.step_equal]; omega
  have hnn : n' = n + l := by rw [hn', hn]; simp only [Place.new, Place.step_equal]; omega
  subst hoo hnn
  refine ⟨⟨⟨ho, hn, by omega, by omega, by omega, ?_⟩, trivial⟩, ?_⟩
  · rw [slice_add, slice_add, heq, heq']
  · simp [Nat.add_assoc]

/-- A script with a kept run of no elements fits nowhere, so it may be reshaped at will. -/
theorem reshapes_of_mem_equal_zero {o n : ℕ} (h : Op.equal o n 0 ∈ xs) :
    Reshapes olds news others xs ys := by
  intro p hp
  exact absurd (hp.len_pos h) (Nat.lt_irrefl 0)

/-- A kept run is two kept runs that touch. -/
theorem reshapes_split_equal (o n : ℕ) {l l' : ℕ} (hl : 0 < l) (hl' : 0 < l') :
    Reshapes olds news others [.equal o n (l + l')] [.equal o n l, .equal (o + l) (n + l) l'] := by
  rintro p ⟨⟨ho, hn, -, hino, hinn, heq⟩, -⟩
  obtain ⟨hfirst, hsecond⟩ := slice_eq_part hino hinn heq
  refine ⟨⟨⟨ho, hn, hl, by omega, by omega, hfirst⟩, ⟨?_, ?_, hl', by omega, by omega, hsecond⟩,
    trivial⟩, ?_⟩
  · rw [ho]; simp only [Place.old, Place.step_equal]; omega
  · rw [hn]; simp only [Place.new, Place.step_equal]; omega
  · simp [Nat.add_assoc]

/-- An addition slides up past kept elements that it ends in. -/
theorem reshapes_slide_up (n old : ℕ) {o s new len : ℕ} (hs : s ≤ len)
    (h : slice olds o s = slice news (new + len - s) s) :
    Reshapes olds news others [.equal o n s, .insert old new len]
      [.insert (old - s) (new - s) len, .equal o (new + len - s) s] := by
  rintro p ⟨⟨ho, hn, hpos, hino, hinn, heq⟩, ⟨hnew, hlen, hin, hold⟩, -⟩
  simp only [Place.old, Place.new, byRank, Place.rank, Place.step_equal] at ho hn hnew hold
  refine ⟨⟨⟨?_, hlen, by omega, ?_⟩, ⟨ho, ?_, hpos, hino, by omega, h⟩, trivial⟩, rfl⟩
  · simp only [Place.new]; omega
  · simp only [byRank, Place.rank]; omega
  · simp only [Place.new, Place.step_insert]; omega

/-- An addition slides down past kept elements that it begins with. -/
theorem reshapes_slide_down (n old : ℕ) {o s new len : ℕ} (hs : s ≤ len)
    (h : slice olds o s = slice news new s) :
    Reshapes olds news others [.insert old new len, .equal o n s]
      [.equal o new s, .insert (old + s) (new + s) len] := by
  rintro p ⟨⟨hnew, hlen, hin, hold⟩, ⟨ho, hn, hpos, hino, hinn, heq⟩, -⟩
  simp only [Place.old, Place.new, byRank, Place.rank, Place.step_insert] at ho hn hnew hold
  refine ⟨⟨⟨ho, hnew, hpos, hino, by omega, h⟩, ⟨?_, hlen, by omega, ?_⟩, trivial⟩, rfl⟩
  · simp only [Place.new, Place.step_equal]; omega
  · simp only [byRank, Place.rank, Place.step_equal]; omega

/-! ### Sliding as far as the sequences allow -/

variable [DecidableEq α]

/-- An addition can slide up past as many kept elements as it ends in. -/
theorem le_slackUp_iff {o l new len s : ℕ} (ho : o + l ≤ olds.length)
    (hn : new + len ≤ news.length) :
    s ≤ slackUp olds news o l new len ↔
      s ≤ l ∧ s ≤ len ∧ slice olds (o + l - s) s = slice news (new + len - s) s := by
  rw [slackUp, le_commonBack_iff, length_slice ho, length_slice hn, drop_slice, drop_slice]
  refine and_congr_right fun hl => and_congr_right fun hlen => ?_
  rw [Nat.sub_sub_self hl, Nat.sub_sub_self hlen, Nat.add_sub_assoc hl, Nat.add_sub_assoc hlen]

/-- An addition can slide down past as many kept elements as it begins with. -/
theorem le_slackDown_iff {o l new len s : ℕ} (ho : o + l ≤ olds.length)
    (hn : new + len ≤ news.length) :
    s ≤ slackDown olds news o l new len ↔
      s ≤ l ∧ s ≤ len ∧ slice olds o s = slice news new s := by
  rw [slackDown, le_commonFront_iff, length_slice ho, length_slice hn]
  refine and_congr_right fun hl => and_congr_right fun hlen => ?_
  rw [take_slice hl, take_slice hlen]

/-- An addition slides up past the end of a kept run, or past all of it. -/
theorem reshapes_up (n old : ℕ) {o l new len s : ℕ} (hs : s ≠ 0)
    (h : s ≤ slackUp olds news o l new len) :
    Reshapes olds news others [.equal o n l, .insert old new len]
      (Op.keep o n (l - s) ++
        [.insert (old - s) (new - s) len, .equal (o + l - s) (new + len - s) s]) := by
  intro p hp
  obtain ⟨⟨-, -, -, hino, -⟩, ⟨-, -, hin, -⟩, -⟩ := id hp
  obtain ⟨hl, hlen, heq⟩ := (le_slackUp_iff hino hin).mp h
  rw [Nat.add_sub_assoc hl] at heq ⊢
  unfold Op.keep
  split
  · next hall =>
    obtain rfl : s = l := by omega
    rw [Nat.sub_self] at heq ⊢
    exact reshapes_slide_up n old hlen heq p hp
  · next hpart =>
    have hsplit : Reshapes olds news others _ _ := (reshapes_split_equal o n
      (by omega : 0 < l - s) (by omega : 0 < s)).inside [] [.insert old new len]
    have hslide : Reshapes olds news others _ _ :=
      (reshapes_slide_up (n + (l - s)) old hlen heq).inside [.equal o n (l - s)] []
    rw [Nat.sub_add_cancel hl] at hsplit
    exact hsplit.trans hslide p hp

/-- An addition slides down past the front of a kept run, or past all of it. -/
theorem reshapes_down (n old : ℕ) {o l new len s : ℕ} (hs : s ≠ 0)
    (h : s ≤ slackDown olds news o l new len) :
    Reshapes olds news others [.insert old new len, .equal o n l]
      ([.equal o new s, .insert (old + s) (new + s) len] ++
        Op.keep (o + s) (n + s) (l - s)) := by
  intro p hp
  obtain ⟨⟨-, -, hin, -⟩, ⟨-, -, -, hino, -⟩, -⟩ := id hp
  obtain ⟨hl, hlen, heq⟩ := (le_slackDown_iff hino hin).mp h
  unfold Op.keep
  split
  · next hall =>
    obtain rfl : s = l := by omega
    exact reshapes_slide_down n old hlen heq p hp
  · next hpart =>
    have hsplit : Reshapes olds news others _ _ := (reshapes_split_equal o n
      (by omega : 0 < s) (by omega : 0 < l - s)).inside [.insert old new len] []
    have hslide : Reshapes olds news others _ _ :=
      (reshapes_slide_down n old hlen heq).inside [] [.equal (o + s) (n + s) (l - s)]
    rw [Nat.add_sub_cancel' hl] at hsplit
    exact hsplit.trans hslide p hp

/-! ### Moving one operation -/

omit [DecidableEq α] in
/-- Kept elements below an addition join those that come next. -/
theorem reshapes_joinBelow (o n l : ℕ) (after : List Op) :
    Reshapes olds news others (.equal o n l :: after) (joinBelow o n l after) := by
  unfold joinBelow
  split
  · next o' n' l' rest =>
    intro p hp
    obtain ⟨⟨ho, hn, -⟩, ⟨ho', hn', -⟩, -⟩ := id hp
    have hoo : o' - l = o := by rw [ho', ho]; simp only [Place.old, Place.step_equal]; omega
    have hnn : n' - l = n := by rw [hn', hn]; simp only [Place.new, Place.step_equal]; omega
    rw [hoo, hnn, Nat.add_comm l' l]
    exact (reshapes_merge_equal o n l o' n' l').inside [] rest p hp
  · exact Reshapes.refl _

omit [DecidableEq α] in
/-- Kept elements above an addition join those that come before. -/
theorem reshapes_joinAbove (o n l : ℕ) (before : List Op) :
    Reshapes olds news others (before.reverse ++ [.equal o n l])
      (joinAbove o n l before).reverse := by
  unfold joinAbove
  split
  · next o' n' l' rest =>
    have hmerge : Reshapes olds news others _ _ :=
      (reshapes_merge_equal o' n' l' o n l).inside rest.reverse []
    simpa using hmerge
  · simpa using Reshapes.refl _

omit [DecidableEq α] in
/-- A move on an operation and the one before it, in a script seen from the former. -/
theorem Reshapes.above {prev here : Op} {moved : List Op}
    (h : Reshapes olds news others [prev, here] moved) (before after : List Op) :
    Reshapes olds news others ((prev :: before).reverse ++ here :: after)
      (before.reverse ++ moved ++ after) := by
  simpa using h.inside before.reverse after

omit [DecidableEq α] in
/-- A move on an operation and the one after it, in a script seen from the former. -/
theorem Reshapes.below {here next : Op} {moved : List Op}
    (h : Reshapes olds news others [here, next] moved) (before after : List Op) :
    Reshapes olds news others (before.reverse ++ here :: next :: after)
      (before.reverse ++ moved ++ after) := by
  simpa using h.inside before.reverse after

/-- An addition slides up past kept elements, which join those that come next. -/
theorem reshapes_rise (n old : ℕ) {o l new len s : ℕ} (hs : s ≠ 0)
    (h : s ≤ slackUp olds news o l new len) (before after : List Op) :
    Reshapes olds news others ((.equal o n l :: before).reverse ++ .insert old new len :: after)
      ((Op.keep o n (l - s) ++ before).reverse ++
        .insert (old - s) (new - s) len :: joinBelow (o + l - s) (new + len - s) s after) := by
  have hmove : Reshapes olds news others _ _ := (reshapes_up n old hs h).above before after
  have hjoin : Reshapes olds news others _ _ := (reshapes_joinBelow (o + l - s) (new + len - s) s
    after).inside (before.reverse ++ Op.keep o n (l - s) ++ [.insert (old - s) (new - s) len]) []
  simp only [List.append_assoc, List.cons_append, List.nil_append, List.append_nil] at hmove hjoin
  simpa only [List.reverse_append, Op.reverse_keep, List.append_assoc] using hmove.trans hjoin

/-- An addition slides down past kept elements, which join those that come before. -/
theorem reshapes_sink (n old : ℕ) {o l new len s : ℕ} (hs : s ≠ 0)
    (h : s ≤ slackDown olds news o l new len) (before after : List Op) :
    Reshapes olds news others (before.reverse ++ .insert old new len :: .equal o n l :: after)
      ((joinAbove o new s before).reverse ++
        .insert (old + s) (new + s) len :: (Op.keep (o + s) (n + s) (l - s) ++ after)) := by
  have hmove : Reshapes olds news others _ _ := (reshapes_down n old hs h).below before after
  have hjoin : Reshapes olds news others _ _ := (reshapes_joinAbove o new s before).inside []
    (.insert (old + s) (new + s) len :: (Op.keep (o + s) (n + s) (l - s) ++ after))
  simp only [List.append_assoc, List.cons_append, List.nil_append] at hmove hjoin
  exact hmove.trans hjoin

/-- Moving an operation up reshapes the script. -/
theorem Cursor.reshapes_up (before : List Op) (here : Op) (after : List Op) :
    Reshapes olds news others (before.reverse ++ here :: after)
      (Cursor.up olds news before here after).toList := by
  fun_induction Cursor.up olds news before here after with
  | case1 _ o n => exact reshapes_of_mem_equal_zero (o := o) (n := n) (by simp)
  | case2 => exact .refl _
  | case3 after o n l before old new len s hs moved below hl ih =>
    have hrise : Reshapes olds news others _ _ :=
      reshapes_rise n old hs (Nat.le_refl s) before after
    rw [Op.keep, if_pos (by omega)] at hrise
    exact hrise.trans ih
  | case4 after o n l before old new len s hs moved below hl ih =>
    have hle : s ≤ l := slackUp_le ..
    have hrise : Reshapes olds news others _ _ :=
      reshapes_rise n old hs (Nat.le_refl s) before after
    rw [Op.keep, if_neg (by omega)] at hrise
    exact hrise.trans ih
  | case5 _ o n => exact reshapes_of_mem_equal_zero (o := o) (n := n) (by simp)
  | case6 => exact .refl _
  | case7 after o l n before old new len ih =>
    exact .trans (by simpa using (reshapes_swap_delete o l n old new len).above before after) ih
  | case8 after o n l before old len new ih =>
    exact .trans (by simpa using (reshapes_swap_insert old len new o n l).above before after) ih
  | case9 after o n l before old new len ih =>
    exact .trans (by simpa using (reshapes_merge_insert o n l old new len).above before after) ih
  | case10 after o l n before old len new ih =>
    exact .trans (by simpa using (reshapes_merge_delete o l n old len new).above before after) ih
  | case11 => exact .refl _

/-- Moving an operation down reshapes the script. -/
theorem Cursor.reshapes_down (before : List Op) (here : Op) (after : List Op) :
    Reshapes olds news others (before.reverse ++ here :: after)
      (Cursor.down olds news before here after).toList := by
  fun_induction Cursor.down olds news before here after with
  | case1 before old new len o n => exact reshapes_of_mem_equal_zero (o := o) (n := n) (by simp)
  | case2 => exact .refl _
  | case3 before old new len o n l after s hs moved above hl ih =>
    have hsink : Reshapes olds news others _ _ :=
      reshapes_sink n old hs (Nat.le_refl s) before after
    rw [Op.keep, if_pos (by omega)] at hsink
    exact hsink.trans ih
  | case4 before old new len o n l after s hs moved above hl ih =>
    have hle : s ≤ l := slackDown_le ..
    have hsink : Reshapes olds news others _ _ :=
      reshapes_sink n old hs (Nat.le_refl s) before after
    rw [Op.keep, if_neg (by omega)] at hsink
    exact hsink.trans ih
  | case5 before old len new o n => exact reshapes_of_mem_equal_zero (o := o) (n := n) (by simp)
  | case6 => exact .refl _
  | case7 before old new len o l n after ih =>
    exact .trans (by simpa using (reshapes_swap_insert o l n old new len).below before after) ih
  | case8 before old len new o n l after ih =>
    exact .trans (by simpa using (reshapes_swap_delete old len new o n l).below before after) ih
  | case9 before o n l old new len after ih =>
    exact .trans (by simpa using (reshapes_merge_insert o n l old new len).below before after) ih
  | case10 before o l n old len new after ih =>
    exact .trans (by simpa using (reshapes_merge_delete o l n old len new).below before after) ih
  | case11 => exact .refl _

theorem Cursor.reshapes_upDown (before : List Op) (here : Op) (after : List Op) :
    Reshapes olds news others (before.reverse ++ here :: after)
      (Cursor.upDown olds news before here after).toList :=
  (Cursor.reshapes_up before here after).trans (Cursor.reshapes_down _ _ _)

/-! ### The whole of compaction -/

/-- Settling the changes of a kind reshapes the script. -/
theorem reshapes_settle (kind : Change) (before ops : List Op) :
    Reshapes olds news others (before.reverse ++ ops) (settle olds news kind before ops) := by
  fun_induction settle olds news kind before ops with
  | case1 before => simpa using Reshapes.refl _
  | case2 before op after h c ih =>
    have hmove : Reshapes olds news others (before.reverse ++ op :: after)
        (c.before.reverse ++ c.here :: c.after) := Cursor.reshapes_upDown before op after
    exact hmove.trans (by simpa using ih)
  | case3 before op after h ih => simpa using ih

/-- **Compaction reshapes the script**: whatever fits by rank, its compacted form fits too, and it
keeps, drops and adds as many elements. -/
theorem reshapes_compact (ops : List Op) :
    Reshapes olds news others ops (compact olds news ops) :=
  (reshapes_settle .deletion [] ops).trans (reshapes_settle .addition [] _)

end Reshaping

end Tandem.Edit
