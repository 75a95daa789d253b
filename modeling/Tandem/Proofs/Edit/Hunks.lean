import Tandem.Proofs.Edit.Compaction
import Tandem.Proofs.Edit.Laid
import Tandem.Proofs.Edit.Script

/-!
# The hunks of two sequences

Gathering cuts a script into hunks as it reads it, with what is *pending* since the last kept
element set aside. If the script fits, the hunks are laid (`laid_gather`), and they drop and add
what the script does (`place_gather`). With what is known of scripts and of compaction, the hunks of
two sequences are laid along them (`laid_hunks`) and cover no more than they must (`total_hunks`).

The positions of lone deletions and additions on the side they do not touch are those of the script
*before* compaction, counted by rank: compaction leaves them as they are.
-/

namespace Tandem.Edit

/-! ### What is pending -/

section Gathering

variable {α : Type} (olds news : List α) (others : Change → ℕ → ℕ)

/-- What is pending belongs to the place `p`. -/
structure Pending.Fits (p : Place) (pd : Pending) : Prop where
  deleted : ∀ o l n, pd.deleted = some (o, l, n) → o = p.old ∧ 0 < l ∧ o + l ≤ olds.length ∧
    n = p.kept + others .deletion p.gone
  inserted : ∀ o n l, pd.inserted = some (o, n, l) → n = p.new ∧ 0 < l ∧ n + l ≤ news.length ∧
    o = p.kept + others .addition p.come

/-- How many old elements are pending. -/
def Pending.gone (pd : Pending) : ℕ := pd.deleted.elim 0 fun d => d.2.1

/-- How many new elements are pending. -/
def Pending.come (pd : Pending) : ℕ := pd.inserted.elim 0 fun d => d.2.2

/-- The place after what is pending. -/
def Place.after (p : Place) (pd : Pending) : Place :=
  ⟨p.kept, p.gone + pd.gone, p.come + pd.come⟩

variable {olds news others} {p : Place} {pd : Pending}

theorem Pending.fits_empty (p : Place) : Pending.Fits olds news others p {} :=
  ⟨fun _ _ _ h => by simp at h, fun _ _ _ h => by simp at h⟩

@[simp] theorem Place.after_empty (p : Place) : p.after {} = p := rfl

theorem Place.after_delete (p : Place) (pd : Pending) (o l n : ℕ) :
    p.after (pd.delete o l n) = (p.after pd).step (.delete o l n) := by
  obtain ⟨_ | ⟨o', l', n'⟩, inserted⟩ := pd <;>
    simp [Pending.delete, Place.after, Pending.gone, Pending.come, Nat.add_assoc]

theorem Place.after_insert (p : Place) (pd : Pending) (o n l : ℕ) :
    p.after (pd.insert o n l) = (p.after pd).step (.insert o n l) := by
  obtain ⟨deleted, _ | ⟨o', n', l'⟩⟩ := pd <;>
    simp [Pending.insert, Place.after, Pending.gone, Pending.come, Nat.add_assoc]

/-- What is pending is nothing, or one hunk. -/
theorem Pending.Fits.cases (h : pd.Fits olds news others p) :
    pd = {} ∨ ∃ hunk : Hunk, pd.hunks = [hunk] ∧ hunk.Fits olds news others p ∧
      p.past hunk = p.after pd := by
  obtain ⟨_ | ⟨o, l, n⟩, _ | ⟨o', n', l'⟩⟩ := pd
  · exact .inl rfl
  · exact .inr ⟨_, rfl, h.inserted o' n' l' rfl, rfl⟩
  · exact .inr ⟨_, rfl, h.deleted o l n rfl, rfl⟩
  · obtain ⟨ho, hl, hin, -⟩ := h.deleted o l n rfl
    obtain ⟨hn, hl', hin', -⟩ := h.inserted o' n' l' rfl
    exact .inr ⟨_, rfl, ⟨ho, hl, hin, hn, hl', hin'⟩, rfl⟩

/-- One more deletion. -/
theorem Pending.Fits.delete {o l n : ℕ} (h : pd.Fits olds news others p)
    (hop : (Op.delete o l n).Fits olds news (byRank others) (p.after pd)) :
    (pd.delete o l n).Fits olds news others p := by
  obtain ⟨ho, hl, hin, hn⟩ := hop
  obtain ⟨_ | ⟨o', l', n'⟩, inserted⟩ := pd
  · refine ⟨fun o' l' n' heq => ?_, h.inserted⟩
    simp only [Pending.delete, Option.some.injEq, Prod.mk.injEq] at heq
    obtain ⟨rfl, rfl, rfl⟩ := heq
    exact ⟨ho, hl, hin, hn⟩
  · obtain ⟨ho', hl', hin', hn'⟩ := h.deleted o' l' n' rfl
    simp only [Place.old, Place.after, Pending.gone, Option.elim] at ho ho'
    refine ⟨fun o'' l'' n'' heq => ?_, h.inserted⟩
    simp only [Pending.delete, Option.some.injEq, Prod.mk.injEq] at heq
    obtain ⟨rfl, rfl, rfl⟩ := heq
    exact ⟨ho', by omega, by omega, hn'⟩

/-- One more addition. -/
theorem Pending.Fits.insert {o n l : ℕ} (h : pd.Fits olds news others p)
    (hop : (Op.insert o n l).Fits olds news (byRank others) (p.after pd)) :
    (pd.insert o n l).Fits olds news others p := by
  obtain ⟨hn, hl, hin, ho⟩ := hop
  obtain ⟨deleted, _ | ⟨o', n', l'⟩⟩ := pd
  · refine ⟨h.deleted, fun o' n' l' heq => ?_⟩
    simp only [Pending.insert, Option.some.injEq, Prod.mk.injEq] at heq
    obtain ⟨rfl, rfl, rfl⟩ := heq
    exact ⟨hn, hl, hin, ho⟩
  · obtain ⟨hn', hl', hin', ho'⟩ := h.inserted o' n' l' rfl
    simp only [Place.new, Place.after, Pending.come, Option.elim] at hn hn'
    refine ⟨h.deleted, fun o'' n'' l'' heq => ?_⟩
    simp only [Pending.insert, Option.some.injEq, Prod.mk.injEq] at heq
    obtain ⟨rfl, rfl, rfl⟩ := heq
    exact ⟨hn', by omega, by omega, ho'⟩

/-! ### Gathering -/

/-- An operation that keeps elements fits where they are unchanged. -/
theorem Op.Fits.unchanged {cross : Change → Place → ℕ} {o n len : ℕ}
    (h : (Op.equal o n len).Fits olds news cross p) : 0 < len ∧ Unchanged olds news p len := by
  obtain ⟨rfl, rfl, hlen, hold, hnew, heq⟩ := h
  exact ⟨hlen, hold, hnew, heq⟩

/-- **Gathering lays hunks.** The `m` elements from `p` on have been kept since the last hunk, and
what is pending has been read after them; `ops` is still to be read. -/
theorem laid_gather {least m : ℕ} {ops : List Op} (hm : least ≤ m)
    (hkept : Unchanged olds news p m) (hpd : pd.Fits olds news others (p.keep m))
    (hops : Fits olds news (byRank others) ((p.keep m).after pd) ops)
    (hold : (((p.keep m).after pd).walk ops).old = olds.length)
    (hnew : (((p.keep m).after pd).walk ops).new = news.length) :
    Laid olds news others least p (gather pd ops) := by
  induction ops generalizing least m p pd with
  | nil =>
    rw [gather]
    obtain rfl | ⟨h, heq, hfits, hpast⟩ := hpd.cases
    · exact hkept.drop_eq (by simpa using hold) (by simpa using hnew)
    · rw [heq]
      refine ⟨m, hm, hkept, hfits, ?_⟩
      rw [Laid, hpast]
      rw [Place.walk_nil] at hold hnew
      rw [hold, hnew, List.drop_length, List.drop_length]
  | cons op ops ih =>
    obtain ⟨hop, hops⟩ := hops
    cases op with
    | equal o n len =>
      obtain ⟨hlen, hequal⟩ := hop.unchanged
      rw [gather]
      obtain rfl | ⟨h, heq, hfits, hpast⟩ := hpd.cases
      · -- nothing stands between these kept elements and those before them
        have hplace : ((p.keep m).after {}).step (.equal o n len)
            = (p.keep (m + len)).after {} := by
          simp [Place.keep, Nat.add_assoc]
        rw [Place.walk_cons] at hold hnew
        rw [hplace] at hops hold hnew
        exact ih (by omega) (hkept.append hequal) (Pending.fits_empty _) hops hold hnew
      · rw [heq]
        refine ⟨m, hm, hkept, hfits, ?_⟩
        rw [← hpast] at hequal hops hold hnew
        exact ih hlen hequal (Pending.fits_empty _) hops hold hnew
    | delete o len n =>
      rw [Place.walk_cons, ← Place.after_delete] at hold hnew
      rw [← Place.after_delete] at hops
      exact ih hm hkept (hpd.delete hop) hops hold hnew
    | insert o n len =>
      rw [Place.walk_cons, ← Place.after_insert] at hold hnew
      rw [← Place.after_insert] at hops
      exact ih hm hkept (hpd.insert hop) hops hold hnew

/-- Gathering drops and adds what the script does. -/
theorem place_gather (p : Place) (pd : Pending) (ops : List Op) :
    p.gone + total (goneIn (gather pd ops)) = ((p.after pd).walk ops).gone ∧
      p.come + total (comeIn (gather pd ops)) = ((p.after pd).walk ops).come := by
  induction ops generalizing p pd with
  | nil =>
    obtain ⟨_ | ⟨o, l, n⟩, _ | ⟨o', n', l'⟩⟩ := pd <;> exact ⟨rfl, rfl⟩
  | cons op ops ih =>
    cases op with
    | equal o n len =>
      obtain ⟨hgone, hcome⟩ := ih ((p.after pd).step (.equal o n len)) {}
      rw [Place.after_empty] at hgone hcome
      rw [gather, Place.walk_cons, ← hgone, ← hcome, goneIn_append, comeIn_append, total_append,
        total_append, ← Nat.add_assoc, ← Nat.add_assoc]
      obtain ⟨_ | ⟨o, l, n⟩, _ | ⟨o', n', l'⟩⟩ := pd <;> exact ⟨rfl, rfl⟩
    | delete o len n =>
      rw [gather, Place.walk_cons, ← Place.after_delete]
      exact ih p (pd.delete o len n)
    | insert o n len =>
      rw [gather, Place.walk_cons, ← Place.after_insert]
      exact ih p (pd.insert o n len)

end Gathering

/-! ### The hunks of two sequences -/

section Hunks

variable {α : Type} [DecidableEq α] (olds news : List α)

/-- The compacted script fits by the ranks of the script before compaction, leads from end to end,
and keeps a longest common subsequence. -/
private theorem fits_compact_script :
    Fits olds news (byRank fun kind => othersBefore kind (script 0 0 olds news)) .start
        (compact olds news (script 0 0 olds news)) ∧
      (Place.start.walk (compact olds news (script 0 0 olds news))).old = olds.length ∧
      (Place.start.walk (compact olds news (script 0 0 olds news))).new = news.length ∧
      (Place.start.walk (compact olds news (script 0 0 olds news))).kept = common olds news := by
  obtain ⟨hfits, hold, hnew⟩ := fits_script_start olds news
  obtain ⟨hcompact, hwalk⟩ := reshapes_compact _ _ (fits_byRank_self hfits)
  rw [hwalk]
  exact ⟨hcompact, hold, hnew, by
    simpa [Place.start] using kept_script 0 0 olds news .start⟩

/-- **The hunks of two sequences are laid along them.** -/
theorem laid_hunks :
    Laid olds news (fun kind => othersBefore kind (script 0 0 olds news)) 0 .start
      (hunks olds news) := by
  obtain ⟨hfits, hold, hnew, -⟩ := fits_compact_script olds news
  exact laid_gather (Nat.le_refl 0) ⟨Nat.zero_le _, Nat.zero_le _, by simp⟩ (Pending.fits_empty _)
    hfits hold hnew

/-- **Nothing more is gone or has come than must be.** -/
theorem total_hunks :
    total (goneIn (hunks olds news)) = olds.length - common olds news ∧
      total (comeIn (hunks olds news)) = news.length - common olds news := by
  obtain ⟨-, hold, hnew, hkept⟩ := fits_compact_script olds news
  obtain ⟨hgone, hcome⟩ := place_gather .start {} (compact olds news (script 0 0 olds news))
  rw [Place.after_empty] at hgone hcome
  simp only [Place.start, Nat.zero_add] at hgone hcome
  simp only [Place.old, Place.new, Place.start] at hold hnew hkept
  rw [hunks]
  omega

end Hunks

end Tandem.Edit
