import Tandem.Proofs.Edit.Compaction

/-!
# Additions slide in portions

An addition that slides along kept elements goes as far as it can in one step, and then perhaps
further: what it ends in has changed on the way. Where it comes to rest does not depend on the steps
it takes: it may slide any part of the way first (`Cursor.up_of_le_slackUp`,
`Cursor.down_of_le_slackDown`).

From this it follows that what an addition does at the front of a script is undone. With nothing but
kept elements before it, it may slide up, and use them up or not; on its way down it passes them
again, and the script is the same as if it had never gone up (`Cursor.upDown_equal`).
-/

namespace Tandem.Edit

/-! ### Joining in portions -/

theorem joinBelow_joinBelow (o n s r : ℕ) (after : List Op) :
    joinBelow (o - s - r) (n - s - r) r (joinBelow (o - s) (n - s) s after)
      = joinBelow (o - (s + r)) (n - (s + r)) (s + r) after := by
  rcases after with - | ⟨- | - | -, after⟩ <;> simp [joinBelow, Nat.sub_sub, Nat.add_assoc]

theorem joinAbove_joinAbove (o n s r : ℕ) (before : List Op) :
    joinAbove (o + s) (n + s) r (joinAbove o n s before) = joinAbove o n (s + r) before := by
  rcases before with - | ⟨- | - | -, before⟩ <;> simp [joinAbove, Nat.add_assoc]

/-- The two parts of a kept run are the run. -/
theorem joinAbove_keep (o n : ℕ) {l s : ℕ} (h : s ≤ l) :
    joinAbove (o + l - s) (n + l - s) s (Op.keep o n (l - s)) = [.equal o n l] := by
  unfold Op.keep
  split <;> simp only [joinAbove, List.cons.injEq, Op.equal.injEq, and_true, true_and] <;> omega

/-! ### Single steps -/

variable {α : Type} [DecidableEq α] {olds news : List α}

@[simp] theorem Cursor.up_nil (here : Op) (after : List Op) :
    Cursor.up olds news [] here after = ⟨[], here, after⟩ := by
  rw [Cursor.up] <;> simp

@[simp] theorem Cursor.down_nil (before : List Op) (here : Op) :
    Cursor.down olds news before here [] = ⟨before, here, []⟩ := by
  rw [Cursor.down] <;> simp

@[simp] theorem Cursor.up_equal (before : List Op) (o n l : ℕ) (after : List Op) :
    Cursor.up olds news before (.equal o n l) after = ⟨before, .equal o n l, after⟩ := by
  rw [Cursor.up] <;> simp

@[simp] theorem Cursor.down_equal (before : List Op) (o n l : ℕ) (after : List Op) :
    Cursor.down olds news before (.equal o n l) after = ⟨before, .equal o n l, after⟩ := by
  rw [Cursor.down] <;> simp

/-- An addition with kept elements before it that it can slide up past. -/
theorem Cursor.up_insert_equal (n old : ℕ) {o l new len s : ℕ} (before after : List Op)
    (hs : s ≠ 0) (h : s = slackUp olds news o l new len) :
    Cursor.up olds news (.equal o n l :: before) (.insert old new len) after
      = Cursor.up olds news (Op.keep o n (l - s) ++ before) (.insert (old - s) (new - s) len)
          (joinBelow (o + l - s) (new + len - s) s after) := by
  have hle : s ≤ l := h ▸ slackUp_le ..
  rw [Cursor.up, ← h, Op.keep]
  simp only [if_neg hs]
  split
  · rw [if_pos (by omega), List.nil_append]
  · rw [if_neg (by omega), List.singleton_append]

/-- An addition with kept elements after it that it can slide down past. -/
theorem Cursor.down_insert_equal (n old : ℕ) {o l new len s : ℕ} (before after : List Op)
    (hs : s ≠ 0) (h : s = slackDown olds news o l new len) :
    Cursor.down olds news before (.insert old new len) (.equal o n l :: after)
      = Cursor.down olds news (joinAbove o new s before) (.insert (old + s) (new + s) len)
          (Op.keep (o + s) (n + s) (l - s) ++ after) := by
  have hle : s ≤ l := h ▸ slackDown_le ..
  rw [Cursor.down, ← h, Op.keep]
  simp only [if_neg hs]
  split
  · rw [if_pos (by omega), List.nil_append]
  · rw [if_neg (by omega), List.singleton_append]

/-! ### Portions -/

/-- **Sliding up in portions.** An addition that slides up as far as it can may as well slide part
of the way first. -/
theorem Cursor.up_of_le_slackUp (n old : ℕ) {o l new len s : ℕ} (before after : List Op)
    (hs : s ≠ 0) (h : s ≤ slackUp olds news o l new len) (ho : o + l ≤ olds.length)
    (hn : new + len ≤ news.length) (hl : l ≤ new) :
    Cursor.up olds news (.equal o n l :: before) (.insert old new len) after
      = Cursor.up olds news (Op.keep o n (l - s) ++ before) (.insert (old - s) (new - s) len)
          (joinBelow (o + l - s) (new + len - s) s after) := by
  induction l using Nat.strongRecOn generalizing s old new after with
  | ind l ih =>
    obtain ⟨hle, hlen, heq⟩ := (le_slackUp_iff ho hn).mp (Nat.le_refl _)
    rw [up_insert_equal n old before after (by omega) rfl]
    generalize slackUp olds news o l new len = t at *
    rcases Nat.eq_or_lt_of_le h with rfl | hlt
    · rfl
    -- it can slide by `r` more, and then perhaps further, as it does from where it gets at once
    obtain ⟨r, rfl⟩ := Nat.exists_eq_add_of_le h
    have hposO : o + (l - s) - r = o + l - (s + r) := by omega
    have hposN : new - s + len - r = new + len - (s + r) := by omega
    have hrest : slice olds (o + l - (s + r)) r = slice news (new + len - (s + r)) r := by
      rw [Nat.add_comm s r] at heq ⊢
      exact (slice_eq_part (by omega) (by omega) heq).1
    have hslack : r ≤ slackUp olds news o (l - s) (new - s) len :=
      (le_slackUp_iff (by omega) (by omega)).mpr ⟨by omega, by omega, by rwa [hposO, hposN]⟩
    have hkeep : Op.keep o n (l - s) = [.equal o n (l - s)] := if_neg (by omega)
    rw [hkeep, List.singleton_append, ih (l - s) (by omega) (old - s) _ (by omega) hslack
      (by omega) (by omega) (by omega), hposO, hposN, ← joinBelow_joinBelow]
    simp only [Nat.sub_sub]

/-- **Sliding down in portions.** An addition that slides down as far as it can may as well slide
part of the way first. -/
theorem Cursor.down_of_le_slackDown (n old : ℕ) {o l new len s : ℕ} (before after : List Op)
    (hs : s ≠ 0) (h : s ≤ slackDown olds news o l new len) (ho : o + l ≤ olds.length)
    (hn : new + len + l ≤ news.length) :
    Cursor.down olds news before (.insert old new len) (.equal o n l :: after)
      = Cursor.down olds news (joinAbove o new s before) (.insert (old + s) (new + s) len)
          (Op.keep (o + s) (n + s) (l - s) ++ after) := by
  induction l using Nat.strongRecOn generalizing s o n old new before with
  | ind l ih =>
    have hn' : new + len ≤ news.length := by omega
    obtain ⟨hle, hlen, heq⟩ := (le_slackDown_iff ho hn').mp (Nat.le_refl _)
    rw [down_insert_equal n old before after (by omega) rfl]
    generalize slackDown olds news o l new len = t at *
    rcases Nat.eq_or_lt_of_le h with rfl | hlt
    · rfl
    obtain ⟨r, rfl⟩ := Nat.exists_eq_add_of_le h
    have hrest : slice olds (o + s) r = slice news (new + s) r :=
      (slice_eq_part (by omega) (by omega) heq).2
    have hslack : r ≤ slackDown olds news (o + s) (l - s) (new + s) len :=
      (le_slackDown_iff (by omega) (by omega)).mpr ⟨by omega, by omega, hrest⟩
    have hkeep : Op.keep (o + s) (n + s) (l - s) = [.equal (o + s) (n + s) (l - s)] :=
      if_neg (by omega)
    rw [hkeep, List.singleton_append, ih (l - s) (by omega) (n + s) (old + s) _ (by omega) hslack
      (by omega) (by omega), joinAbove_joinAbove]
    simp only [Nat.sub_sub, Nat.add_assoc]

/-! ### There and back -/

variable {others : Change → ℕ → ℕ} {p : Place}

omit [DecidableEq α] in
/-- Kept elements put in front of a script that fits join those that come first. -/
theorem exists_joinBelow_eq {cross : Change → Place → ℕ} {after : List Op}
    (h : Fits olds news cross p after) (hold : p.old ≤ olds.length) (hnew : p.new ≤ news.length)
    (s : ℕ) :
    ∃ l rest, after = Op.keep p.old p.new l ++ rest ∧ p.old + l ≤ olds.length ∧
      p.new + l ≤ news.length ∧
      joinBelow (p.old - s) (p.new - s) s after
        = .equal (p.old - s) (p.new - s) (l + s) :: rest := by
  rcases after with - | ⟨⟨o, n, l⟩ | ⟨o, l, n⟩ | ⟨o, n, l⟩, after⟩
  · exact ⟨0, [], rfl, hold, hnew, by simp [joinBelow]⟩
  · obtain ⟨⟨rfl, rfl, hl, hino, hinn, -⟩, -⟩ := h
    exact ⟨l, after, by rw [Op.keep, if_neg (by omega)]; rfl, hino, hinn, rfl⟩
  · exact ⟨0, .delete o l n :: after, rfl, hold, hnew, by simp [joinBelow]⟩
  · exact ⟨0, .insert o n l :: after, rfl, hold, hnew, by simp [joinBelow]⟩

omit [DecidableEq α] in
/-- What kept elements and an addition right after them say if they fit. -/
theorem Fits.equal_insert {o n l old new len : ℕ} {after : List Op}
    (h : Fits olds news (byRank others) p (.equal o n l :: .insert old new len :: after)) :
    o + l ≤ olds.length ∧ new + len ≤ news.length ∧ n + l = new ∧ l ≤ old ∧
      ∃ q : Place, q.old = o + l ∧ q.new = new + len ∧ Fits olds news (byRank others) q after := by
  obtain ⟨⟨ho, hn, -, hino, -⟩, ⟨hnew, -, hin, hold⟩, hafter⟩ := h
  simp only [Place.old, Place.new, Place.step_equal, byRank] at ho hn hnew hold
  refine ⟨hino, hin, by omega, by omega, _, ?_, ?_, hafter⟩
  · simp only [Place.old, Place.step_equal, Place.step_insert]
    omega
  · simp only [Place.new, Place.step_equal, Place.step_insert]
    omega

/-- An addition that has slid up along the first kept elements finds its way down again. -/
theorem Cursor.down_rise {o n l old new len s : ℕ} {after : List Op}
    (h : Fits olds news (byRank others) p (.equal o n l :: .insert old new len :: after))
    (hs : s ≠ 0) (hslack : s ≤ slackUp olds news o l new len) :
    Cursor.down olds news (Op.keep o n (l - s)) (.insert (old - s) (new - s) len)
        (joinBelow (o + l - s) (new + len - s) s after)
      = Cursor.down olds news [.equal o n l] (.insert old new len) after := by
  obtain ⟨-, -, -, -, hinn, heq⟩ := h.1
  obtain ⟨hino, hin, hnew, hold, q, hqo, hqn, hafter⟩ := h.equal_insert
  obtain ⟨hl, hlen, -⟩ := (le_slackUp_iff hino hin).mp hslack
  obtain ⟨l', rest, rfl, hino', hinn', hjoin⟩ := exists_joinBelow_eq hafter (by omega) (by omega) s
  rw [hqo, hqn] at hjoin ⊢
  -- the kept elements stand right before the addition in the new sequence, too, and so the last of
  -- them are what it begins with once it has slid past them
  have hback : slice olds (o + l - s) s = slice news (new - s) s := by
    have hsplit : l = l - s + s := by omega
    rw [hsplit] at heq
    have hpart := (slice_eq_part (by omega) (by omega) heq).2
    rwa [← Nat.add_sub_assoc hl, ← Nat.add_sub_assoc hl, hnew] at hpart
  have hslack' : s ≤ slackDown olds news (o + l - s) (l' + s) (new - s) len :=
    (le_slackDown_iff (by omega) (by omega)).mpr ⟨by omega, hlen, hback⟩
  rw [hjoin, down_of_le_slackDown _ _ _ _ hs hslack' (by omega) (by omega),
    Nat.sub_add_cancel (by omega : s ≤ old), Nat.sub_add_cancel (by omega : s ≤ new),
    Nat.sub_add_cancel (by omega : s ≤ o + l), Nat.sub_add_cancel (by omega : s ≤ new + len),
    Nat.add_sub_cancel, ← hnew, joinAbove_keep o n hl]

/-- **What an addition does at the front is undone.** If nothing but kept elements comes before it,
moving it up and then down is the same as moving it down. -/
theorem Cursor.upDown_equal {o n l old new len : ℕ} {after : List Op}
    (h : Fits olds news (byRank others) p (.equal o n l :: .insert old new len :: after)) :
    Cursor.upDown olds news [.equal o n l] (.insert old new len) after
      = Cursor.down olds news [.equal o n l] (.insert old new len) after := by
  induction l using Nat.strongRecOn generalizing old new after with
  | ind l ih =>
    have hl : l ≠ 0 := Nat.ne_of_gt h.1.2.2.1
    rcases Nat.eq_zero_or_pos (slackUp olds news o l new len) with hzero | hpos
    · rw [upDown, up]
      simp only [hzero, if_true, if_neg hl]
    have hs : slackUp olds news o l new len ≠ 0 := by omega
    have hfits := (reshapes_rise n old hs (Nat.le_refl _) [] after p h).1
    rw [← down_rise h hs (Nat.le_refl _), upDown, up_insert_equal n old [] after hs rfl]
    generalize slackUp olds news o l new len = s at *
    rw [List.append_nil] at hfits ⊢
    unfold Op.keep at hfits ⊢
    split at hfits
    · next hall => rw [if_pos hall, up_nil]
    · next hpart =>
      rw [if_neg hpart]
      exact ih (l - s) (by omega) hfits

end Tandem.Edit
