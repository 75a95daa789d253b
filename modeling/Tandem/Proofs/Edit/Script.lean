import Tandem.Proofs.Edit.Place
import Tandem.Proofs.Edit.Meeting

/-!
# What a script is made of

`script` recurses through a cut that a search finds. `script_induction` says once what it can do: it
does nothing, drops all, adds all, joins the scripts of the two parts that a dividing point leaves,
or keeps a common front and a common back around a script for what lies between. That it never
replaces all of two sequences is `exists_cut`. Both statements about scripts are proved from it:

* `fits_script`: a script does what it says, at true positions;
* `kept_script`: a script keeps as much as can be kept.
-/

namespace Tandem.Edit

variable {α : Type} [DecidableEq α]

/-- The script for two sequences without common ends. -/
def between (i j : ℕ) (old new : List α) : List Op :=
  if old.isEmpty && new.isEmpty then []
  else if new.isEmpty then [.delete i old.length j]
  else if old.isEmpty then [.insert i j new.length]
  else match cut? old new with
    | some c =>
      script i j (old.take c.x) (new.take c.y) ++
        script (i + c.x) (j + c.y) (old.drop c.x) (new.drop c.y)
    | none => replaceAll i j old new

/-- The script for two sequences without a common front. -/
def afterFront (i j : ℕ) (old new : List α) : List Op :=
  let back := commonBack old new
  let old' := old.take (old.length - back)
  let new' := new.take (new.length - back)
  between i j old' new' ++ Op.keep (i + old'.length) (j + new'.length) back

/-- A script keeps the common front. -/
theorem script_eq_afterFront (i j : ℕ) (old new : List α) :
    script i j old new = Op.keep i j (commonFront old new) ++
      afterFront (i + commonFront old new) (j + commonFront old new)
        (old.drop (commonFront old new)) (new.drop (commonFront old new)) := by
  rw [script.eq_1, List.append_assoc]
  rfl

/-- A script keeps the common ends around the script for what lies between. -/
theorem exists_script_eq (i j : ℕ) (old new : List α) :
    ∃ front back mid mid' : List α, old = front ++ mid ++ back ∧ new = front ++ mid' ++ back ∧
      commonFront mid mid' = 0 ∧ commonBack mid mid' = 0 ∧
      script i j old new = Op.keep i j front.length ++
        between (i + front.length) (j + front.length) mid mid' ++
        Op.keep (i + front.length + mid.length) (j + front.length + mid'.length) back.length := by
  have hscript := script_eq_afterFront i j old new
  simp only [afterFront] at hscript
  -- the two lengths become variables, so that only what is known of them is left
  have hf := take_commonFront old new
  have hfl := commonFront_le_left old new
  have hf0 := commonFront_drop old new
  generalize commonFront old new = f at *
  have hb := drop_commonBack (old.drop f) (new.drop f)
  have hbl := commonBack_le_left (old.drop f) (new.drop f)
  have hb0 := commonBack_take (old.drop f) (new.drop f)
  have hbf := commonFront_take_le (old.drop f) (new.drop f)
    ((old.drop f).length - commonBack (old.drop f) (new.drop f))
    ((new.drop f).length - commonBack (old.drop f) (new.drop f))
  generalize commonBack (old.drop f) (new.drop f) = b at *
  have hlen : (old.take f).length = f := by rw [List.length_take, Nat.min_eq_left hfl]
  have hlen' : ((old.drop f).drop ((old.drop f).length - b)).length = b := by
    rw [List.length_drop]
    omega
  refine ⟨old.take f, (old.drop f).drop ((old.drop f).length - b),
    (old.drop f).take ((old.drop f).length - b), (new.drop f).take ((new.drop f).length - b),
    ?_, ?_, by omega, hb0, ?_⟩
  · rw [List.append_assoc, List.take_append_drop, List.take_append_drop]
  · rw [hb, hf, List.append_assoc, List.take_append_drop, List.take_append_drop]
  · rw [hlen, hlen', hscript, List.append_assoc]

/-! ### The induction principle -/

/-- **Induction over scripts.** What is kept, dropped, added and cut, one case for each. -/
theorem script_induction {motive : ℕ → ℕ → List α → List α → List Op → Prop}
    (nothing : ∀ i j, motive i j [] [] [])
    (drop : ∀ i j old, old ≠ [] → motive i j old [] [.delete i old.length j])
    (add : ∀ i j new, new ≠ [] → motive i j [] new [.insert i j new.length])
    (divide : ∀ i j old new x y ops ops', Divides old new x y →
      motive i j (old.take x) (new.take y) ops →
      motive (i + x) (j + y) (old.drop x) (new.drop y) ops' →
      motive i j old new (ops ++ ops'))
    (trim : ∀ i j front back old new ops,
      motive (i + front.length) (j + front.length) old new ops →
      motive i j (front ++ old ++ back) (front ++ new ++ back)
        (Op.keep i j front.length ++ ops ++
          Op.keep (i + front.length + old.length) (j + front.length + new.length) back.length))
    (i j : ℕ) (old new : List α) : motive i j old new (script i j old new) := by
  induction hsize : old.length + new.length using Nat.strongRecOn generalizing i j old new with
  | ind size ih =>
    obtain ⟨front, back, mid, mid', hold, hnew, hfront0, hback0, hscript⟩ :=
      exists_script_eq i j old new
    rw [hscript]
    subst hold hnew
    refine trim i j front back mid mid' _ ?_
    simp only [List.length_append] at hsize
    unfold between
    split
    · next h =>
      simp only [Bool.and_eq_true, List.isEmpty_iff] at h
      rw [h.1, h.2]
      exact nothing _ _
    · next h =>
      simp only [Bool.and_eq_true, List.isEmpty_iff, not_and] at h
      split
      · next h' =>
        rw [List.isEmpty_iff] at h'
        subst h'
        exact drop _ _ mid fun hmid => h hmid rfl
      · next hmid' =>
        rw [List.isEmpty_iff] at hmid'
        split
        · next h' =>
          rw [List.isEmpty_iff] at h'
          subst h'
          exact add _ _ mid' hmid'
        · next hmid =>
          rw [List.isEmpty_iff] at hmid
          obtain ⟨c, hcut, hdiv⟩ := exists_cut hmid hmid' hfront0 hback0
          rw [hcut]
          have hpos := hdiv.pos
          have hlt := hdiv.lt
          have hx := hdiv.x_le
          have hy := hdiv.y_le
          -- neither part is the whole, as the point is at neither corner
          refine divide _ _ mid mid' c.x c.y _ _ hdiv ?_ ?_
          · refine ih _ ?_ _ _ _ _ rfl
            simp only [List.length_take]
            omega
          · refine ih _ ?_ _ _ _ _ rfl
            simp only [List.length_drop]
            omega

/-! ### Scripts do what they say -/

@[simp] theorem walk_keep (p : Place) (i j len : ℕ) :
    p.walk (Op.keep i j len) = ⟨p.kept + len, p.gone, p.come⟩ := by
  unfold Op.keep
  split
  · next h => rw [h]; rfl
  · rfl

omit [DecidableEq α] in
theorem fits_keep {olds news : List α} {cross : Change → Place → ℕ} {p : Place} {part : List α}
    (hold : slice olds p.old part.length = part) (hnew : slice news p.new part.length = part) :
    Fits olds news cross p (Op.keep p.old p.new part.length) := by
  unfold Op.keep
  split
  · exact fits_nil p
  · next h =>
    have hpos : 0 < part.length := Nat.pos_of_ne_zero h
    exact ⟨⟨rfl, rfl, hpos, add_le_of_slice hold hpos, add_le_of_slice hnew hpos,
      hold.trans hnew.symm⟩, trivial⟩

/-- **A script does what it says, at true positions**: read from a place where its two sequences
stand, it fits the places it leads through, and leads to where they end. -/
theorem fits_script {olds news : List α} (i j : ℕ) (old new : List α) (p : Place)
    (hi : p.old = i) (hj : p.new = j) (hold : slice olds i old.length = old)
    (hnew : slice news j new.length = new) :
    Fits olds news (fun kind p => p.other kind) p (script i j old new) ∧
      (p.walk (script i j old new)).old = i + old.length ∧
      (p.walk (script i j old new)).new = j + new.length := by
  revert p
  refine script_induction (motive := fun i j old new ops => slice olds i old.length = old →
    slice news j new.length = new → ∀ p : Place, p.old = i → p.new = j →
      Fits olds news (fun kind p => p.other kind) p ops ∧
        (p.walk ops).old = i + old.length ∧ (p.walk ops).new = j + new.length)
    ?nothing ?drop ?add ?divide ?trim i j old new hold hnew
  case nothing =>
    rintro i j - - p rfl rfl
    exact ⟨trivial, rfl, rfl⟩
  case drop =>
    rintro i j old hne hold - p rfl rfl
    have hpos := List.length_pos_iff.mpr hne
    exact ⟨⟨⟨rfl, hpos, add_le_of_slice hold hpos, rfl⟩, trivial⟩, by simp [Place.old]; omega,
      by simp [Place.new]⟩
  case add =>
    rintro i j new hne - hnew p rfl rfl
    have hpos := List.length_pos_iff.mpr hne
    exact ⟨⟨⟨rfl, hpos, add_le_of_slice hnew hpos, rfl⟩, trivial⟩, by simp [Place.old],
      by simp [Place.new]; omega⟩
  case divide =>
    rintro i j old new x y ops ops' hdiv ih ih' hold hnew p rfl rfl
    rw [← List.take_append_drop x old] at hold
    rw [← List.take_append_drop y new] at hnew
    obtain ⟨hold, hold'⟩ := slice_append hold
    obtain ⟨hnew, hnew'⟩ := slice_append hnew
    obtain ⟨hfits, hwo, hwn⟩ := ih hold hnew p rfl rfl
    rw [List.length_take, Nat.min_eq_left hdiv.x_le] at hold' hwo
    rw [List.length_take, Nat.min_eq_left hdiv.y_le] at hnew' hwn
    obtain ⟨hfits', hwo', hwn'⟩ := ih' hold' hnew' _ hwo hwn
    refine ⟨(fits_append _ _ _).mpr ⟨hfits, hfits'⟩, ?_, ?_⟩
    · rw [Place.walk_append, hwo', List.length_drop, Nat.add_assoc, Nat.add_sub_cancel' hdiv.x_le]
    · rw [Place.walk_append, hwn', List.length_drop, Nat.add_assoc, Nat.add_sub_cancel' hdiv.y_le]
  case trim =>
    rintro i j front back old new ops ih hold hnew p rfl rfl
    obtain ⟨hold, hback⟩ := slice_append hold
    obtain ⟨hnew, hback'⟩ := slice_append hnew
    obtain ⟨hfront, hold⟩ := slice_append hold
    obtain ⟨hfront', hnew⟩ := slice_append hnew
    simp only [List.length_append] at hback hback'
    obtain ⟨hfits, hwo, hwn⟩ := ih hold hnew ⟨p.kept + front.length, p.gone, p.come⟩
      (by simp only [Place.old]; omega) (by simp only [Place.new]; omega)
    rw [List.append_assoc, fits_append, fits_append, walk_keep]
    refine ⟨⟨fits_keep hfront hfront', hfits, ?_⟩, ?_, ?_⟩
    · rw [← hwo, ← hwn]
      refine fits_keep ?_ ?_
      · rwa [hwo, Nat.add_assoc]
      · rwa [hwn, Nat.add_assoc]
    · simp only [Place.walk_append, walk_keep, List.length_append]
      simp only [Place.old] at hwo ⊢
      omega
    · simp only [Place.walk_append, walk_keep, List.length_append]
      simp only [Place.new] at hwn ⊢
      omega

/-- The script for two sequences leads from their beginnings to their ends. -/
theorem fits_script_start (old new : List α) :
    Fits old new (fun kind p => p.other kind) .start (script 0 0 old new) ∧
      (Place.start.walk (script 0 0 old new)).old = old.length ∧
      (Place.start.walk (script 0 0 old new)).new = new.length := by
  have hwhole : ∀ xs : List α, slice xs 0 xs.length = xs := fun xs => by simp [slice]
  simpa using fits_script 0 0 old new .start rfl rfl (hwhole old) (hwhole new)

/-- **A script keeps as much as can be kept.** -/
theorem kept_script (i j : ℕ) (old new : List α) (p : Place) :
    (p.walk (script i j old new)).kept = p.kept + common old new := by
  revert p
  refine script_induction (motive := fun _ _ old new ops =>
    ∀ p : Place, (p.walk ops).kept = p.kept + common old new)
    ?nothing ?drop ?add ?divide ?trim i j old new
  case nothing => intro _ _ p; simp
  case drop => intro _ _ old _ p; simp
  case add => intro _ _ new _ p; simp
  case divide =>
    intro _ _ old new x y ops ops' hdiv ih ih' p
    rw [Place.walk_append, ih', ih, hdiv.common_eq, Nat.add_assoc]
  case trim =>
    intro _ _ front back old new ops ih p
    rw [Place.walk_append, Place.walk_append, walk_keep, walk_keep, ih, common_append_right,
      common_append_left]
    simp only
    omega

end Tandem.Edit
