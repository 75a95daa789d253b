import Tandem.Edit.Hunk
import Tandem.Proofs.Edit.Place
import Tandem.Proofs.Edit.Stretch

/-!
# Hunks laid along two sequences

A list of hunks is **laid** along two sequences (`Laid`) when, from one hunk to the next, equal
elements are passed on both sides, the hunk stands at the place reached, and after the last one the
sequences agree to their ends. Between any two hunks an element at least is passed.

Everything that a reader of the hunks can rely on follows from this alone:

* the stretches that are gone ascend in the old sequence, and those that have come in the new one
  (`Laid.ascending_gone`, `Laid.ascending_come`);
* without them the two sequences are the same (`Laid.without_eq`);
* each hunk stands at the place that the hunks before it lead to (`Laid.split`);
* an element that both sequences keep lies between any two hunks (`Laid.apart`).

What a lone deletion or addition says of the side it does not touch is a parameter, as in `Fits`.
-/

namespace Tandem.Edit

/-! ### Stretches of hunks -/

namespace Hunk

/-- The old elements that are gone. -/
def gone : Hunk → List Stretch
  | .delete old len _ => [⟨old, len⟩]
  | .insert .. => []
  | .change old oldLen _ _ => [⟨old, oldLen⟩]

/-- The new elements that have come. -/
def come : Hunk → List Stretch
  | .delete .. => []
  | .insert _ new len => [⟨new, len⟩]
  | .change _ _ new newLen => [⟨new, newLen⟩]

end Hunk

/-- All old elements that are gone. -/
def goneIn (hs : List Hunk) : List Stretch := hs.flatMap Hunk.gone

/-- All new elements that have come. -/
def comeIn (hs : List Hunk) : List Stretch := hs.flatMap Hunk.come

@[simp] theorem goneIn_nil : goneIn [] = [] := rfl

@[simp] theorem comeIn_nil : comeIn [] = [] := rfl

@[simp] theorem goneIn_cons (h : Hunk) (hs : List Hunk) :
    goneIn (h :: hs) = h.gone ++ goneIn hs := rfl

@[simp] theorem comeIn_cons (h : Hunk) (hs : List Hunk) :
    comeIn (h :: hs) = h.come ++ comeIn hs := rfl

@[simp] theorem goneIn_append (hs hs' : List Hunk) :
    goneIn (hs ++ hs') = goneIn hs ++ goneIn hs' := List.flatMap_append

@[simp] theorem comeIn_append (hs hs' : List Hunk) :
    comeIn (hs ++ hs') = comeIn hs ++ comeIn hs' := List.flatMap_append

namespace Place

/-- The place after keeping `m` more elements. -/
def keep (p : Place) (m : ℕ) : Place := ⟨p.kept + m, p.gone, p.come⟩

/-- The place after a hunk. -/
def past (p : Place) (h : Hunk) : Place := ⟨p.kept, p.gone + total h.gone, p.come + total h.come⟩

@[simp] theorem old_keep (p : Place) (m : ℕ) : (p.keep m).old = p.old + m := by
  simp only [keep, old]
  omega

@[simp] theorem new_keep (p : Place) (m : ℕ) : (p.keep m).new = p.new + m := by
  simp only [keep, new]
  omega

@[simp] theorem old_past (p : Place) (h : Hunk) : (p.past h).old = p.old + total h.gone := by
  simp only [past, old]
  omega

@[simp] theorem new_past (p : Place) (h : Hunk) : (p.past h).new = p.new + total h.come := by
  simp only [past, new]
  omega

end Place

/-! ### Being laid -/

section Laid

variable {α : Type} (olds news : List α) (others : Change → ℕ → ℕ)

/-- From the place `p` on, the next `m` elements of the two sequences are equal. -/
structure Unchanged (p : Place) (m : ℕ) : Prop where
  old_le : p.old + m ≤ olds.length
  new_le : p.new + m ≤ news.length
  slice_eq : slice olds p.old m = slice news p.new m

/-- The hunk stands at the place `p`. -/
def Hunk.Fits (p : Place) : Hunk → Prop
  | .delete old len new => old = p.old ∧ 0 < len ∧ old + len ≤ olds.length ∧
      new = p.kept + others .deletion p.gone
  | .insert old new len => new = p.new ∧ 0 < len ∧ new + len ≤ news.length ∧
      old = p.kept + others .addition p.come
  | .change old oldLen new newLen => old = p.old ∧ 0 < oldLen ∧ old + oldLen ≤ olds.length ∧
      new = p.new ∧ 0 < newLen ∧ new + newLen ≤ news.length

/-- An element that both sequences keep comes after the hunks `before` and ahead of the hunks
`after`. It has the same rank among the kept elements on both sides. -/
def Apart (before after : List Hunk) : Prop :=
  ∃ i j x, olds[i]? = some x ∧ news[j]? = some x ∧
    i + total (comeIn before) = j + total (goneIn before) ∧
    (∀ s ∈ goneIn before, s.stop ≤ i) ∧ (∀ s ∈ goneIn after, i < s.start) ∧
    (∀ s ∈ comeIn before, s.stop ≤ j) ∧ ∀ s ∈ comeIn after, j < s.start

/-- Hunks laid along the rest of two sequences, the first of them at least `least` elements on. -/
def Laid (least : ℕ) (p : Place) : List Hunk → Prop
  | [] => olds.drop p.old = news.drop p.new
  | h :: hs => ∃ m, least ≤ m ∧ Unchanged olds news p m ∧
      h.Fits olds news others (p.keep m) ∧ Laid 1 ((p.keep m).past h) hs

variable {olds news others} {p : Place}

/-- Elements kept one after the other. -/
theorem Unchanged.append {m len : ℕ} (h : Unchanged olds news p m)
    (h' : Unchanged olds news (p.keep m) len) : Unchanged olds news p (m + len) := by
  obtain ⟨hold, hnew, heq⟩ := h'
  rw [Place.old_keep, Place.new_keep] at *
  refine ⟨by omega, by omega, ?_⟩
  rw [slice_add, slice_add, h.slice_eq, heq]

/-- Elements unchanged up to both ends are all that is left. -/
theorem Unchanged.drop_eq {m : ℕ} (h : Unchanged olds news p m)
    (hold : p.old + m = olds.length) (hnew : p.new + m = news.length) :
    olds.drop p.old = news.drop p.new := by
  have hslice := h.slice_eq
  rwa [slice, slice, List.take_of_length_le (by rw [List.length_drop]; omega),
    List.take_of_length_le (by rw [List.length_drop]; omega)] at hslice

theorem Unchanged.getElem?_eq {m : ℕ} (h : Unchanged olds news p m) (hm : 0 < m) :
    olds[p.old]? = news[p.new]? := by
  have hslice := congrArg (fun xs : List α => xs[0]?) h.slice_eq
  simpa [slice, List.getElem?_take, hm] using hslice

theorem Hunk.Fits.gone {h : Hunk} (hfits : h.Fits olds news others p) :
    AtMostOneAt olds.length p.old h.gone := by
  cases h with
  | delete old len new =>
    obtain ⟨rfl, hlen, hin, -⟩ := hfits
    exact .inr ⟨len, rfl, hlen, hin⟩
  | insert old new len => exact .inl rfl
  | change old oldLen new newLen =>
    obtain ⟨rfl, hlen, hin, -⟩ := hfits
    exact .inr ⟨oldLen, rfl, hlen, hin⟩

theorem Hunk.Fits.come {h : Hunk} (hfits : h.Fits olds news others p) :
    AtMostOneAt news.length p.new h.come := by
  cases h with
  | delete old len new => exact .inl rfl
  | insert old new len =>
    obtain ⟨rfl, hlen, hin, -⟩ := hfits
    exact .inr ⟨len, rfl, hlen, hin⟩
  | change old oldLen new newLen =>
    obtain ⟨-, -, -, rfl, hlen, hin⟩ := hfits
    exact .inr ⟨newLen, rfl, hlen, hin⟩

/-! ### What follows for the stretches -/

variable {least : ℕ} {hs : List Hunk}

/-- What is gone ascends in the old sequence. -/
theorem Laid.ascending_gone (h : Laid olds news others least p hs) :
    Ascending olds.length (p.old + least) (goneIn hs) := by
  induction hs generalizing least p with
  | nil => trivial
  | cons hunk hs ih =>
    obtain ⟨m, hm, -, hfits, hrest⟩ := h
    have hasc := hfits.gone.ascending (by simpa using ih hrest)
    rw [Place.old_keep] at hasc
    exact hasc.mono (by omega)

/-- What has come ascends in the new sequence. -/
theorem Laid.ascending_come (h : Laid olds news others least p hs) :
    Ascending news.length (p.new + least) (comeIn hs) := by
  induction hs generalizing least p with
  | nil => trivial
  | cons hunk hs ih =>
    obtain ⟨m, hm, -, hfits, hrest⟩ := h
    have hasc := hfits.come.ascending (by simpa using ih hrest)
    rw [Place.new_keep] at hasc
    exact hasc.mono (by omega)

/-- **Without the hunks the two sequences are the same.** -/
theorem Laid.without_eq (h : Laid olds news others least p hs) :
    without (goneIn hs) p.old (olds.drop p.old) = without (comeIn hs) p.new (news.drop p.new) := by
  induction hs generalizing least p with
  | nil =>
    rw [goneIn_nil, comeIn_nil, without_eq_self (by simp), without_eq_self (by simp)]
    exact h
  | cons hunk hs ih =>
    obtain ⟨m, -, hkept, hfits, hrest⟩ := h
    have hgone := hfits.gone
    have hcome := hfits.come
    have hgones := hrest.ascending_gone
    have hcomes := hrest.ascending_come
    have ih' := ih hrest
    simp only [Place.old_past, Place.new_past, Place.old_keep, Place.new_keep]
      at hgone hcome hgones hcomes ih'
    rw [goneIn_cons, comeIn_cons, hgone.without_eq hkept.old_le hgones,
      hcome.without_eq hkept.new_le hcomes, hkept.slice_eq, ih']

/-- Hunks are laid from the place that the hunks before them lead to, and after these. -/
theorem Laid.split {before after : List Hunk}
    (h : Laid olds news others least p (before ++ after)) :
    ∃ q : Place, p.kept ≤ q.kept ∧ q.gone = p.gone + total (goneIn before) ∧
      q.come = p.come + total (comeIn before) ∧ (∀ s ∈ goneIn before, s.stop ≤ q.old) ∧
      (∀ s ∈ comeIn before, s.stop ≤ q.new) ∧
      Laid olds news others (if before.isEmpty then least else 1) q after := by
  induction before generalizing least p with
  | nil => exact ⟨p, Nat.le_refl _, rfl, rfl, by simp, by simp, h⟩
  | cons hunk before ih =>
    obtain ⟨m, -, -, hfits, hrest⟩ := h
    obtain ⟨q, hkept, hgone, hcome, hgones, hcomes, hlaid⟩ := ih hrest
    -- the stretches of this hunk stop where it has been passed, and `q` comes after
    simp only [Place.past, Place.keep] at hkept hgone hcome
    refine ⟨q, by omega, ?_, ?_, ?_, ?_, by simpa using hlaid⟩
    · rw [hgone, goneIn_cons, total_append, Nat.add_assoc]
    · rw [hcome, comeIn_cons, total_append, Nat.add_assoc]
    · intro s hs
      rcases List.mem_append.mp hs with hs | hs
      · have hstop := hfits.gone.stop_le hs
        simp only [Place.old, Place.keep] at hstop ⊢
        omega
      · exact hgones s hs
    · intro s hs
      rcases List.mem_append.mp hs with hs | hs
      · have hstop := hfits.come.stop_le hs
        simp only [Place.new, Place.keep] at hstop ⊢
        omega
      · exact hcomes s hs

/-- **Between any two hunks lies an element that both sequences keep.** -/
theorem Laid.apart {before after : List Hunk}
    (h : Laid olds news others least .start (before ++ after)) (hbefore : before ≠ [])
    (hafter : after ≠ []) : Apart olds news before after := by
  obtain ⟨q, -, hgone, hcome, hgones, hcomes, hlaid⟩ := h.split
  rw [List.isEmpty_eq_false_iff.mpr hbefore] at hlaid
  simp only [Place.start, Nat.zero_add] at hgone hcome
  obtain ⟨hunk, hs, rfl⟩ := List.exists_cons_of_ne_nil hafter
  obtain ⟨m, hm, hkept, -⟩ := id hlaid
  have hlt : q.old < olds.length := Nat.lt_of_lt_of_le (Nat.lt_add_of_pos_right hm) hkept.old_le
  have hx : olds[q.old]? = some olds[q.old] := List.getElem?_eq_getElem hlt
  refine ⟨q.old, q.new, olds[q.old], hx, hkept.getElem?_eq hm ▸ hx, ?_, hgones,
    fun s hs => (hlaid.ascending_gone.bounds hs).1, hcomes,
    fun s hs => (hlaid.ascending_come.bounds hs).1⟩
  simp only [Place.old, Place.new]
  omega

end Laid

end Tandem.Edit
