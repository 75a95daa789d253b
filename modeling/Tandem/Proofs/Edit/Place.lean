import Tandem.Proofs.Edit.Common

/-!
# Places, and scripts that fit them

Reading a script from its front, a `Place` counts the elements kept, dropped and added so far;
`Place.old` and `Place.new` are the positions reached on the two sides. An operation **fits** a
place (`Op.Fits`) when it carries these positions on the sides it touches, covers at least one
element inside the sequences, and, if it keeps elements, keeps equal ones.

On the side that a deletion or an addition does *not* touch it carries a position of its own.
Fitness says of that position only that it lies `cross` elements after the kept ones, where `cross`
is a parameter: `Place.other` makes the position true, and `byRank` lets it depend on nothing but
how many changes of the same kind came before, which is what compaction leaves intact.
-/

namespace Tandem.Edit

/-! ### Places -/

/-- How many elements a script has kept, dropped and added so far. -/
@[ext]
structure Place where
  kept : ℕ
  gone : ℕ
  come : ℕ

namespace Place

/-- Where every script begins. -/
def start : Place := ⟨0, 0, 0⟩

/-- The position reached in the old sequence. -/
def old (p : Place) : ℕ := p.kept + p.gone

/-- The position reached in the new sequence. -/
def new (p : Place) : ℕ := p.kept + p.come

/-- How many elements changes of this kind have covered so far. -/
def rank (p : Place) : Change → ℕ
  | .deletion => p.gone
  | .addition => p.come

/-- How many elements changes of the other kind have covered so far. -/
def other (p : Place) : Change → ℕ
  | .deletion => p.come
  | .addition => p.gone

/-- The place after an operation. -/
def step (p : Place) : Op → Place
  | .equal _ _ len => { p with kept := p.kept + len }
  | .delete _ len _ => { p with gone := p.gone + len }
  | .insert _ _ len => { p with come := p.come + len }

/-- The place after a script. -/
def walk (p : Place) (ops : List Op) : Place := ops.foldl step p

@[simp] theorem walk_nil (p : Place) : p.walk [] = p := rfl

@[simp] theorem walk_cons (p : Place) (op : Op) (ops : List Op) :
    p.walk (op :: ops) = (p.step op).walk ops := rfl

@[simp] theorem walk_append (p : Place) (xs ys : List Op) :
    p.walk (xs ++ ys) = (p.walk xs).walk ys := List.foldl_append

@[simp] theorem step_equal (p : Place) (o n len : ℕ) :
    p.step (.equal o n len) = ⟨p.kept + len, p.gone, p.come⟩ := rfl

@[simp] theorem step_delete (p : Place) (o len n : ℕ) :
    p.step (.delete o len n) = ⟨p.kept, p.gone + len, p.come⟩ := rfl

@[simp] theorem step_insert (p : Place) (o n len : ℕ) :
    p.step (.insert o n len) = ⟨p.kept, p.gone, p.come + len⟩ := rfl

end Place

/-- The untouched side of a change is read off the number of earlier changes of its kind. -/
def byRank (others : Change → ℕ → ℕ) (kind : Change) (p : Place) : ℕ :=
  others kind (p.rank kind)

/-! ### Fitting -/

section Fitting

variable {α : Type} (olds news : List α) (cross : Change → Place → ℕ)

/-- The operation speaks of the place `p` on the sides it touches, and of the position `cross`
elements after the kept ones on a side it does not touch. -/
def Op.Fits (p : Place) : Op → Prop
  | .equal o n len => o = p.old ∧ n = p.new ∧ 0 < len ∧ o + len ≤ olds.length ∧
      n + len ≤ news.length ∧ slice olds o len = slice news n len
  | .delete o len n => o = p.old ∧ 0 < len ∧ o + len ≤ olds.length ∧
      n = p.kept + cross .deletion p
  | .insert o n len => n = p.new ∧ 0 < len ∧ n + len ≤ news.length ∧
      o = p.kept + cross .addition p

/-- Each operation fits the place that those before it lead to. -/
def Fits (p : Place) : List Op → Prop
  | [] => True
  | op :: ops => op.Fits olds news cross p ∧ Fits (p.step op) ops

variable {olds news cross}

@[simp] theorem fits_nil (p : Place) : Fits olds news cross p [] := trivial

@[simp] theorem fits_cons (p : Place) (op : Op) (ops : List Op) :
    Fits olds news cross p (op :: ops) ↔
      op.Fits olds news cross p ∧ Fits olds news cross (p.step op) ops := Iff.rfl

theorem fits_append (p : Place) (xs ys : List Op) :
    Fits olds news cross p (xs ++ ys) ↔
      Fits olds news cross p xs ∧ Fits olds news cross (p.walk xs) ys := by
  induction xs generalizing p with
  | nil => simp
  | cons op xs ih =>
    rw [List.cons_append, fits_cons, fits_cons, ih, Place.walk_cons, and_assoc]

/-- An operation that fits covers an element at least. -/
theorem Fits.len_pos {p : Place} {ops : List Op} (h : Fits olds news cross p ops) {op : Op}
    (hop : op ∈ ops) : 0 < op.len := by
  induction ops generalizing p with
  | nil => cases hop
  | cons op' ops ih =>
    rcases List.mem_cons.mp hop with rfl | hop
    · cases op with
      | equal o n len => exact h.1.2.2.1
      | delete o len n => exact h.1.2.1
      | insert o n len => exact h.1.2.1
    · exact ih h.2 hop

end Fitting

/-! ### Counting the other changes -/

/-- How many elements changes of the other kind cover before the element of rank `r` among those
that changes of this kind cover. -/
def othersBefore (kind : Change) : List Op → ℕ → ℕ
  | [], _ => 0
  | .equal .. :: ops, r => othersBefore kind ops r
  | op :: ops, r =>
    if op.isOf kind then
      if r < op.len then 0 else othersBefore kind ops (r - op.len)
    else op.len + othersBefore kind ops r

/-- Counting ahead from a place goes on counting ahead from the next one. -/
private theorem others_step {others : Change → ℕ → ℕ} {p : Place} {op : Op} {ops : List Op}
    (h : ∀ kind r, others kind (p.rank kind + r) = p.other kind + othersBefore kind (op :: ops) r)
    (kind : Change) (r : ℕ) :
    others kind ((p.step op).rank kind + r) = (p.step op).other kind + othersBefore kind ops r := by
  have hlt : ∀ len, ¬ len + r < len := fun len => by omega
  have hdel := h .deletion
  have hadd := h .addition
  cases op with
  | equal o n len => cases kind <;> exact h _ r
  | delete o len n =>
    simp only [othersBefore, Place.rank, Place.other, Op.len, Op.isOf] at hdel hadd
    cases kind with
    | deletion => simpa [Place.rank, Place.other, Nat.add_assoc, hlt] using hdel (len + r)
    | addition => simpa [Place.rank, Place.other, Nat.add_assoc] using hadd r
  | insert o n len =>
    simp only [othersBefore, Place.rank, Place.other, Op.len, Op.isOf] at hdel hadd
    cases kind with
    | deletion => simpa [Place.rank, Place.other, Nat.add_assoc] using hdel r
    | addition => simpa [Place.rank, Place.other, Nat.add_assoc, hlt] using hadd (len + r)

/-- A script whose positions are all true fits by rank as well: what a change carries for the side
it does not touch is then a matter of how many changes of its kind came before it. -/
theorem fits_byRank_of_fits_other {α : Type} {olds news : List α} {others : Change → ℕ → ℕ}
    {p : Place} {ops : List Op}
    (hothers : ∀ kind r, others kind (p.rank kind + r) = p.other kind + othersBefore kind ops r)
    (h : Fits olds news (fun kind p => p.other kind) p ops) :
    Fits olds news (byRank others) p ops := by
  induction ops generalizing p with
  | nil => exact fits_nil p
  | cons op ops ih =>
    obtain ⟨hop, hops⟩ := h
    refine ⟨?_, ih (others_step hothers) hops⟩
    cases op with
    | equal o n len => exact hop
    | delete o len n =>
      obtain ⟨ho, hlen, hin, hn⟩ := hop
      have hfirst := hothers .deletion 0
      simp only [othersBefore, Op.len, Op.isOf, Nat.add_zero, hlen, if_true] at hfirst
      exact ⟨ho, hlen, hin, by rw [hn, byRank, hfirst]⟩
    | insert o n len =>
      obtain ⟨hn, hlen, hin, ho⟩ := hop
      have hfirst := hothers .addition 0
      simp only [othersBefore, Op.len, Op.isOf, Nat.add_zero, hlen, if_true] at hfirst
      exact ⟨hn, hlen, hin, by rw [ho, byRank, hfirst]⟩

/-- A script with true positions from the start fits by the ranks it gives itself. -/
theorem fits_byRank_self {α : Type} {olds news : List α} {ops : List Op}
    (h : Fits olds news (fun kind p => p.other kind) .start ops) :
    Fits olds news (byRank fun kind => othersBefore kind ops) .start ops := by
  refine fits_byRank_of_fits_other (fun kind r => ?_) h
  cases kind <;> simp [Place.start, Place.rank, Place.other]

end Tandem.Edit
