import Mathlib.Tactic
import Tandem.Proofs.Edit.Shift
import Tandem.Proofs.Edit.Sliding

/-!
# Hunks behind a common front

Elements that two sequences share at the front change nothing about the hunks but where they stand
(`hunks_append_left`). The script only has more to keep at its front (`script_append_left`), but
this gives additions room there: where one has used up all kept elements before it and stops, it can
go on behind a common front, and may use that up, too.

So the two runs of compaction are compared after a change has moved up *and* down, not step by step.
While there are other operations before it, a change moves in the same way in both runs; kept
elements at the front are passed in portions, as far as they reach in the shorter sequences first
(`Cursor.up_lead_slide`). What comes after that is undone on the way down (`Cursor.upDown_equal`),
and all moves down are the same (`Cursor.down_lead`).
-/

namespace Tandem.Edit

/-! ### Scripts seen from one operation -/

/-- A script behind a common front, its operations listed nearest first. -/
def leadBefore (d : ℕ) (before : List Op) : List Op := (lead d before.reverse).reverse

/-- A script seen from one of its operations, behind a common front. -/
def Cursor.lead (d : ℕ) (c : Cursor) : Cursor :=
  ⟨leadBefore d c.before, c.here.shift d, c.after.map (Op.shift d)⟩

variable {d : ℕ}

@[simp] theorem leadBefore_nil (d : ℕ) : leadBefore d [] = [.equal 0 0 d] := rfl

@[simp] theorem leadBefore_singleton (d o n l : ℕ) :
    leadBefore d [.equal o n l] = [.equal 0 0 (d + l)] := rfl

theorem lead_append {ops : List Op} (h : ops ≠ []) (ops' : List Op) :
    lead d (ops ++ ops') = lead d ops ++ ops'.map (Op.shift d) := by
  rcases ops with - | ⟨- | - | -, ops⟩
  · exact absurd rfl h
  all_goals simp [lead]

theorem leadBefore_cons {op : Op} {before : List Op}
    (h : before ≠ [] ∨ ∀ o n l, op ≠ .equal o n l) :
    leadBefore d (op :: before) = op.shift d :: leadBefore d before := by
  rcases eq_or_ne before [] with rfl | hne
  · cases op with
    | equal o n l => exact absurd rfl ((h.resolve_left fun hne => hne rfl) o n l)
    | delete o l n => rfl
    | insert o n l => rfl
  · rw [leadBefore, List.reverse_cons, lead_append (by simpa using hne)]
    simp [leadBefore]

@[simp] theorem leadBefore_delete (o l n : ℕ) (before : List Op) :
    leadBefore d (.delete o l n :: before) = .delete (o + d) l (n + d) :: leadBefore d before :=
  leadBefore_cons (.inr fun _ _ _ heq => by cases heq)

@[simp] theorem leadBefore_insert (o n l : ℕ) (before : List Op) :
    leadBefore d (.insert o n l :: before) = .insert (o + d) (n + d) l :: leadBefore d before :=
  leadBefore_cons (.inr fun _ _ _ heq => by cases heq)

/-- Joining kept elements before, behind a common front. -/
theorem joinAbove_leadBefore (d o n l : ℕ) (before : List Op) :
    joinAbove (o + d) (n + d) l (leadBefore d before) = leadBefore d (joinAbove o n l before) := by
  rcases before with - | ⟨⟨o', n', l'⟩ | - | -, before⟩
  · rfl
  · rcases eq_or_ne before [] with rfl | hne
    · simp [joinAbove, Nat.add_assoc]
    · simp [joinAbove, leadBefore_cons (.inl hne)]
  · rw [leadBefore_delete]
    simp [joinAbove, leadBefore_cons]
  · rw [leadBefore_insert]
    simp [joinAbove, leadBefore_cons]

/-! ### Moving down -/

section CommonFront

variable {α : Type} [DecidableEq α] (olds news front : List α)

@[simp] theorem slackDown_append_left (o l new len : ℕ) :
    slackDown (front ++ olds) (front ++ news) (o + front.length) l (new + front.length) len
      = slackDown olds news o l new len := by
  simp only [slackDown, slice_append_left]

/-- **Moving down behind a common front.** -/
theorem Cursor.down_lead (before : List Op) (here : Op) (after : List Op) :
    Cursor.down (front ++ olds) (front ++ news) (leadBefore front.length before)
        (here.shift front.length) (after.map (Op.shift front.length))
      = (Cursor.down olds news before here after).lead front.length := by
  fun_induction Cursor.down olds news before here after with
  | case1 before old new len o n after s hs ih =>
    rw [← ih, List.map_cons, Op.shift_equal, Op.shift_insert, Cursor.down]
    simp [s, hs]
  | case2 before old new len o n l after s hs hl =>
    rw [List.map_cons, Op.shift_equal, Op.shift_insert, Cursor.down]
    simp [s, hs, hl, Cursor.lead]
  | case3 before old new len o n l after s hs moved above hl ih =>
    rw [← ih, List.map_cons, Op.shift_equal, Op.shift_insert, Cursor.down]
    simp only [slackDown_append_left]
    rw [if_neg hs, if_pos hl, joinAbove_leadBefore, Nat.add_right_comm old, Nat.add_right_comm new]
    rfl
  | case4 before old new len o n l after s hs moved above hl ih =>
    rw [← ih, List.map_cons, Op.shift_equal, Op.shift_insert, Cursor.down]
    simp [s, hs, hl, moved, above, joinAbove_leadBefore, Nat.add_right_comm]
  | case5 before old len new o n after ih =>
    rw [← ih, List.map_cons, Op.shift_equal, Op.shift_delete, Cursor.down]
    simp
  | case6 before old len new o n l after hl =>
    rw [List.map_cons, Op.shift_equal, Op.shift_delete, Cursor.down]
    simp [hl, Cursor.lead]
  | case7 before old new len o l n after ih =>
    rw [← ih, List.map_cons, Op.shift_insert, Op.shift_delete, Cursor.down, leadBefore_delete]
  | case8 before old len new o n l after ih =>
    rw [← ih, List.map_cons, Op.shift_insert, Op.shift_delete, Cursor.down, leadBefore_insert]
  | case9 before o n l old new len after ih =>
    rw [← ih, List.map_cons, Op.shift_insert, Op.shift_insert, Cursor.down, Op.shift_insert]
  | case10 before o l n old len new after ih =>
    rw [← ih, List.map_cons, Op.shift_delete, Op.shift_delete, Cursor.down, Op.shift_delete]
  | case11 before here after =>
    rcases after with - | ⟨next, after⟩
    · simp [Cursor.lead]
    · cases here with
      | equal o n l => simp [Cursor.lead]
      | delete o l n => exfalso; cases next <;> grind
      | insert o n l => exfalso; cases next <;> grind

/-! ### Moving up and down -/

variable {olds news front} {others : Change → ℕ → ℕ} {p : Place}

/-- How far an addition can slide up does not depend on what comes before the kept elements. -/
theorem le_slackUp_append_left {o l o' l' new len s : ℕ} (ho : o + l ≤ olds.length)
    (hn : new + len ≤ news.length) (hl : l ≤ l') (hend : o' + l' = o + l + front.length)
    (hs : s ≤ l) :
    s ≤ slackUp (front ++ olds) (front ++ news) o' l' (new + front.length) len ↔
      s ≤ slackUp olds news o l new len := by
  rw [le_slackUp_iff ho hn, le_slackUp_iff (by rw [List.length_append]; omega)
    (by rw [List.length_append]; omega), hend, Nat.add_right_comm new]
  simp only [hs, Nat.le_trans hs hl, true_and]
  refine and_congr_right fun hlen => ?_
  rw [Nat.sub_add_comm (by omega : s ≤ o + l), Nat.sub_add_comm (by omega : s ≤ new + len),
    slice_append_left, slice_append_left]

omit [DecidableEq α] in
/-- Joining kept elements after, further on. -/
theorem joinBelow_shift {cross : Change → Place → ℕ} {after : List Op}
    (h : Fits olds news cross p after) {o n s : ℕ} (hold : s ≤ p.old) (hnew : s ≤ p.new) (d : ℕ) :
    joinBelow (o + d) (n + d) s (after.map (Op.shift d))
      = (joinBelow o n s after).map (Op.shift d) := by
  rcases after with - | ⟨⟨o', n', l'⟩ | - | -, after⟩
  · rfl
  · obtain ⟨⟨rfl, rfl, -⟩, -⟩ := h
    simp [joinBelow, Nat.sub_add_comm hold, Nat.sub_add_comm hnew]
  · rfl
  · rfl

/-- The kept elements right before, behind a common front: they end where they did and may start
earlier, and taking some of them away from the end leaves what it left. -/
theorem exists_leadBefore_equal {d : ℕ} (hd : d ≠ 0) {o n : ℕ} (l : ℕ) {before : List Op}
    (hfirst : before = [] → o = 0 ∧ n = 0) :
    ∃ o' n' l' before', leadBefore d (.equal o n l :: before) = .equal o' n' l' :: before' ∧
      l ≤ l' ∧ o' + l' = o + l + d ∧ n' + l' = n + l + d ∧
      ∀ s ≤ l,
        leadBefore d (Op.keep o n (l - s) ++ before) = Op.keep o' n' (l' - s) ++ before' := by
  rcases before with - | ⟨op, before⟩
  · obtain ⟨rfl, rfl⟩ := hfirst rfl
    refine ⟨0, 0, d + l, [], rfl, by omega, by omega, by omega, fun s hs => ?_⟩
    rw [Op.keep, Op.keep, if_neg (by omega : d + l - s ≠ 0)]
    split
    · next hall => simp [show d + l - s = d by omega]
    · simp [Nat.add_sub_assoc hs]
  · have hcons : op :: before ≠ [] := List.cons_ne_nil _ _
    refine ⟨o + d, n + d, l, leadBefore d (op :: before), leadBefore_cons (.inl hcons),
      Nat.le_refl l, by omega, by omega, fun s hs => ?_⟩
    unfold Op.keep
    split
    · rfl
    · exact leadBefore_cons (.inl hcons)

omit [DecidableEq α] in
theorem Fits.of_reverse_cons {cross : Change → Place → ℕ} {op : Op} {before rest : List Op}
    (h : Fits olds news cross p ((op :: before).reverse ++ rest)) :
    Fits olds news cross (p.walk before.reverse) (op :: rest) := by
  rw [List.reverse_cons, List.append_assoc, List.singleton_append, fits_append] at h
  exact h.2

omit [DecidableEq α] in
/-- Kept elements that come first are the first of both sequences. -/
theorem Fits.first {cross : Change → Place → ℕ} {o n l : ℕ} {before rest : List Op}
    (h : Fits olds news cross .start ((Op.equal o n l :: before).reverse ++ rest)) :
    before = [] → o = 0 ∧ n = 0 := by
  rintro rfl
  exact ⟨h.1.1, h.1.2.1⟩

/-- **Sliding up behind a common front.** The addition can slide as far as it could without, though
not always only so far. -/
theorem Cursor.up_lead_slide (hfront : front ≠ []) {o n l old new len s : ℕ}
    {before after : List Op}
    (h : Fits olds news (byRank others) .start
      ((Op.equal o n l :: before).reverse ++ .insert old new len :: after))
    (hs : s ≠ 0) (hslack : s ≤ slackUp olds news o l new len) :
    Cursor.up (front ++ olds) (front ++ news) (leadBefore front.length (.equal o n l :: before))
        ((Op.insert old new len).shift front.length) (after.map (Op.shift front.length))
      = Cursor.up (front ++ olds) (front ++ news)
          (leadBefore front.length (Op.keep o n (l - s) ++ before))
          ((Op.insert (old - s) (new - s) len).shift front.length)
          ((joinBelow (o + l - s) (new + len - s) s after).map (Op.shift front.length)) := by
  obtain ⟨hino, hin, hnew, hold, q, hqo, hqn, hafter⟩ := h.of_reverse_cons.equal_insert
  obtain ⟨hle, hlen, -⟩ := (le_slackUp_iff hino hin).mp hslack
  have hd : front.length ≠ 0 := by simpa using hfront
  obtain ⟨o', n', l', before', heq, hl', ho', hn', hkeep⟩ := exists_leadBefore_equal hd l h.first
  have hslack' := (le_slackUp_append_left hino hin hl' ho' hle).mpr hslack
  rw [heq, hkeep s hle, Op.shift_insert, Op.shift_insert, up_of_le_slackUp _ _ _ _ hs hslack'
    (by rw [List.length_append]; omega) (by rw [List.length_append]; omega) (by omega), ho',
    ← joinBelow_shift hafter (by omega) (by omega)]
  simp only [Nat.sub_add_comm (by omega : s ≤ old), Nat.sub_add_comm (by omega : s ≤ new),
    Nat.sub_add_comm (by omega : s ≤ o + l), Nat.sub_add_comm (by omega : s ≤ new + len),
    Nat.add_right_comm new]

/-- Where an addition cannot slide up, it cannot behind a common front. -/
theorem Cursor.up_lead_insert (hfront : front ≠ []) {o n l old new len : ℕ}
    {before after : List Op}
    (h : Fits olds news (byRank others) .start
      ((Op.equal o n l :: before).reverse ++ .insert old new len :: after))
    (hslack : slackUp olds news o l new len = 0) :
    Cursor.up (front ++ olds) (front ++ news) (leadBefore front.length (.equal o n l :: before))
        ((Op.insert old new len).shift front.length) (after.map (Op.shift front.length))
      = Cursor.lead front.length ⟨.equal o n l :: before, .insert old new len, after⟩ := by
  obtain ⟨hino, hin, -⟩ := h.of_reverse_cons.equal_insert
  have hl : 0 < l := h.len_pos (by simp : Op.equal o n l ∈ _)
  have hd : front.length ≠ 0 := by simpa using hfront
  obtain ⟨o', n', l', before', heq, hl', ho', -⟩ := exists_leadBefore_equal hd l h.first
  have hslack' : slackUp (front ++ olds) (front ++ news) o' l' (new + front.length) len = 0 := by
    have hone := le_slackUp_append_left hino hin hl' ho' (s := 1) hl
    omega
  rw [Cursor.lead, heq, Op.shift_insert, up]
  simp only [hslack', if_true, if_neg (by omega : l' ≠ 0)]

/-- A deletion stops at kept elements, behind a common front as without. -/
theorem Cursor.up_lead_delete (hfront : front ≠ []) {o n l old len new : ℕ} {before : List Op}
    (hl : l ≠ 0) (hfirst : before = [] → o = 0 ∧ n = 0) (after : List Op) :
    Cursor.up (front ++ olds) (front ++ news) (leadBefore front.length (.equal o n l :: before))
        ((Op.delete old len new).shift front.length) (after.map (Op.shift front.length))
      = Cursor.lead front.length ⟨.equal o n l :: before, .delete old len new, after⟩ := by
  have hd : front.length ≠ 0 := by simpa using hfront
  obtain ⟨o', n', l', before', heq, hl', -⟩ := exists_leadBefore_equal hd l hfirst
  rw [Cursor.lead, heq, Op.shift_delete, up]
  simp only [if_neg (by omega : l' ≠ 0)]

/-- **Moving up and down behind a common front.** The induction is on the moves up in the shorter
sequences, each of which is one in the longer ones; what is left to move there, once nothing comes
before in the shorter ones, does not matter. -/
theorem Cursor.upDown_lead (hfront : front ≠ []) {before after : List Op} {here : Op}
    (h : Fits olds news (byRank others) .start (before.reverse ++ here :: after)) :
    Cursor.upDown (front ++ olds) (front ++ news) (leadBefore front.length before)
        (here.shift front.length) (after.map (Op.shift front.length))
      = (Cursor.upDown olds news before here after).lead front.length := by
  have hd : front.length ≠ 0 := by simpa using hfront
  simp only [Cursor.upDown]
  fun_induction Cursor.up olds news before here after with
  | case1 after o n before old new len s hs ih =>
    exact absurd (h.len_pos (by simp : Op.equal o n 0 ∈ _)) (Nat.lt_irrefl 0)
  | case2 after o n l before old new len s hs hl =>
    rw [up_lead_insert hfront h hs]
    exact down_lead olds news front (.equal o n l :: before) (.insert old new len) after
  | case3 after o n l before old new len s hs moved below hl ih =>
    have hrise := (reshapes_rise n old hs (Nat.le_refl s) before after .start h).1
    have hslide := up_lead_slide hfront h hs (Nat.le_refl s)
    rw [Op.keep, if_pos (by omega), List.nil_append] at hrise hslide
    rw [hslide]
    exact ih hrise
  | case4 after o n l before old new len s hs moved below hl ih =>
    have hle : s ≤ l := slackUp_le ..
    have hrise := (reshapes_rise n old hs (Nat.le_refl s) before after .start h).1
    have hslide := up_lead_slide hfront h hs (Nat.le_refl s)
    rw [Op.keep, if_neg (by omega), List.singleton_append] at hrise hslide
    rw [hslide]
    exact ih hrise
  | case5 after o n before old len new ih =>
    exact absurd (h.len_pos (by simp : Op.equal o n 0 ∈ _)) (Nat.lt_irrefl 0)
  | case6 after o n l before old len new hl =>
    rw [up_lead_delete hfront hl h.first]
    exact down_lead olds news front (.equal o n l :: before) (.delete old len new) after
  | case7 after o l n before old new len ih =>
    have hswap := ((reshapes_swap_delete o l n old new len).above before after .start h).1
    rw [leadBefore_delete, Op.shift_insert, up]
    exact ih (by simpa using hswap)
  | case8 after o n l before old len new ih =>
    have hswap := ((reshapes_swap_insert old len new o n l).above before after .start h).1
    rw [leadBefore_insert, Op.shift_delete, up]
    exact ih (by simpa using hswap)
  | case9 after o n l before old new len ih =>
    have hmerge := ((reshapes_merge_insert o n l old new len).above before after .start h).1
    rw [leadBefore_insert, Op.shift_insert, up]
    exact ih (by simpa using hmerge)
  | case10 after o l n before old len new ih =>
    have hmerge := ((reshapes_merge_delete o l n old len new).above before after .start h).1
    rw [leadBefore_delete, Op.shift_delete, up]
    exact ih (by simpa using hmerge)
  | case11 after before here =>
    rcases before with - | ⟨prev, before⟩
    · cases here with
      | equal o n l =>
        have hdown := down_lead olds news front [] (.equal o n l) after
        simpa using hdown
      | delete o l n =>
        have hdown := down_lead olds news front [] (.delete o l n) after
        rw [leadBefore_nil, Op.shift_delete] at hdown ⊢
        rw [up]
        simpa only [if_neg hd] using hdown
      | insert o n l =>
        -- the one place where the two runs part, until the way down
        have hdown := down_lead olds news front [] (.insert o n l) after
        exact (upDown_equal (fits_lead hfront h)).trans hdown
    · cases here with
      | equal o n l =>
        have hdown := down_lead olds news front (prev :: before) (.equal o n l) after
        simpa using hdown
      | delete o l n => exfalso; cases prev <;> grind
      | insert o n l => exfalso; cases prev <;> grind

/-! ### The whole of compaction -/

/-- **Settling behind a common front.** The front has been passed, and the kept elements that it
joins, if there are any, with it. -/
theorem settle_lead (hfront : front ≠ []) (kind : Change) (before ops : List Op)
    (hfirst : before ≠ [] ∨ ∀ o n l, ops.head? ≠ some (.equal o n l))
    (h : Fits olds news (byRank others) .start (before.reverse ++ ops)) :
    settle (front ++ olds) (front ++ news) kind (leadBefore front.length before)
        (ops.map (Op.shift front.length))
      = lead front.length (settle olds news kind before ops) := by
  fun_induction settle olds news kind before ops with
  | case1 before => simp [settle, leadBefore]
  | case2 before op after hkind c ih =>
    have hup := Cursor.upDown_lead hfront h
    have hfits := (Cursor.reshapes_upDown before op after .start h).1
    have hhere : c.here.isOf kind = true :=
      (Cursor.tally_down _ _ _ _ _ _ (Cursor.tally_up olds news kind before op after hkind).1).1
    rw [List.map_cons, settle, if_pos (by simpa using hkind)]
    simp only [hup]
    rw [← ih (.inl (List.cons_ne_nil _ _)) (by simpa [Cursor.toList] using hfits),
      leadBefore_cons (.inr ?_)]
    · rfl
    · rintro o n l heq
      simp [heq] at hhere
  | case3 before op after hkind ih =>
    have hop : before ≠ [] ∨ ∀ o n l, op ≠ .equal o n l := by simpa using hfirst
    rw [List.map_cons, settle, if_neg (by simpa using hkind), ← leadBefore_cons hop]
    exact ih (.inl (List.cons_ne_nil _ _)) (by simpa using h)

/-- Settling a whole script behind a common front. -/
theorem settle_nil_lead (hfront : front ≠ []) (kind : Change) {ops : List Op}
    (h : Fits olds news (byRank others) .start ops) :
    settle (front ++ olds) (front ++ news) kind [] (lead front.length ops)
      = lead front.length (settle olds news kind [] ops) := by
  by_cases hfirst : ∀ o n l, ops.head? ≠ some (.equal o n l)
  · rw [lead_of_ne hfirst, settle, if_neg (by simp)]
    exact settle_lead hfront kind [] ops (.inr hfirst) h
  · push Not at hfirst
    obtain ⟨o, n, l, hhead⟩ := hfirst
    obtain ⟨ops, rfl⟩ := List.head?_eq_some_iff.mp hhead
    rw [lead, settle, settle, if_neg (by simp), if_neg (by simp)]
    exact settle_lead hfront kind [.equal o n l] ops (.inl (List.cons_ne_nil _ _)) h

/-- **Compaction behind a common front.** -/
theorem compact_lead (hfront : front ≠ []) {ops : List Op}
    (h : Fits olds news (byRank others) .start ops) :
    compact (front ++ olds) (front ++ news) (lead front.length ops)
      = lead front.length (compact olds news ops) := by
  have hfits := (reshapes_settle .deletion [] ops .start h).1
  rw [compact, compact, settle_nil_lead hfront .deletion h, settle_nil_lead hfront .addition hfits]

/-- **The hunks behind a common front** are those of what comes after it, further on. -/
theorem hunks_append_left (front olds news : List α) :
    hunks (front ++ olds) (front ++ news) = (hunks olds news).map (Hunk.shift front.length) := by
  rcases eq_or_ne front [] with rfl | hfront
  · have hzero : Hunk.shift 0 = id := funext fun h => by cases h <;> rfl
    simp [hzero]
  · have hfits := fits_byRank_self (fits_script_start olds news).1
    rw [hunks, hunks, script_append_left hfront, compact_lead hfront hfits, gather_lead]

end CommonFront

end Tandem.Edit
