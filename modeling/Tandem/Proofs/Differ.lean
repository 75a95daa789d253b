import Tandem.Differ
import Tandem.Proofs.Console
import Tandem.Proofs.NormalDiff.Faithful

/-!
# The verdict and the differences

Two byte strings are compared as they are, but what is shown of them are lines. The two agree: what
is rendered is empty exactly when the byte strings are equal (`render_eq_nil_iff`), so that no
output means no difference, and a single byte more or less is seen.

Hence the shortcut for equal byte strings can be left out (`Differ.rendering`) and no console can
tell (`rendering_fst`), and on a console that takes what it is offered the verdict can be read off
what was written (`compareBytes_spec`, `builtin_agrees_with_render`).
-/

namespace Tandem

open Edit

/-! ### What is rendered of equal byte strings -/

/-- Stretches that cover nothing are none, if each covers an element at least. -/
private theorem eq_nil_of_total {size i : ℕ} {ss : List Stretch} (h : Ascending size i ss)
    (htotal : total ss = 0) : ss = [] := by
  cases ss with
  | nil => rfl
  | cons s ss =>
    have hlen := (h.bounds (s := s) List.mem_cons_self).2.1
    rw [total_cons] at htotal
    omega

/-- Nothing is to be done between a sequence and itself. -/
theorem Edit.hunks_self {α : Type} [DecidableEq α] (xs : List α) : hunks xs xs = [] := by
  have hlaid := laid_hunks xs xs
  obtain ⟨hgone, hcome⟩ := total_hunks xs xs
  have hcommon : common xs xs = xs.length := common_eq_left_iff.mpr (List.Sublist.refl xs)
  have hgone' := eq_nil_of_total hlaid.ascending_gone (by omega)
  have hcome' := eq_nil_of_total hlaid.ascending_come (by omega)
  -- a hunk has a stretch on one side at least
  refine List.eq_nil_iff_forall_not_mem.mpr fun h hh => ?_
  have hg := List.flatMap_eq_nil_iff.mp hgone' h hh
  have hc := List.flatMap_eq_nil_iff.mp hcome' h hh
  cases h <;> simp [Hunk.gone, Hunk.come] at hg hc

namespace NormalDiff

/-- **What is rendered is empty exactly for equal byte strings.** -/
theorem render_eq_nil_iff {expected actual : Bytes} :
    render expected actual = [] ↔ expected = actual := by
  have hself : ∀ bs, render bs bs = [] := fun bs => by
    simp only [render, hunks_self, List.flatMap_nil]
  refine ⟨fun h => ?_, fun h => h ▸ hself expected⟩
  calc expected = newOf expected (render expected expected) := (newOf_render _ _).symm
    _ = newOf expected (render expected actual) := by rw [h, hself]
    _ = actual := newOf_render _ _

end NormalDiff

/-! ### The shortcut -/

namespace Differ

open NormalDiff (render render_eq_nil_iff)

/-- The comparison of two files without a shortcut: the differences are rendered and written
whatever the files hold. -/
def rendering (read : Path → Except Fault Bytes) (expected actual : Path) (c : Console) :
    Console × Except RunError Verdict :=
  match read expected with
  | .error fault => (c, .error (.io expected fault))
  | .ok e => match read actual with
    | .error fault => (c, .error (.io actual fault))
    | .ok a => match c.write (render e a) with
      | (c, .ok ()) => (c, .ok .different)
      | (c, .error fault) => (c, .error (.console fault))

/-- A comparison writes the rendered differences, also where it does not look at them. -/
theorem compareBytes_eq (e a : Bytes) (c : Console) :
    compareBytes e a c = match c.write (render e a) with
      | (c, .ok ()) => (c, .ok (if e = a then .identical else .different))
      | (c, .error fault) => (c, .error (.console fault)) := by
  unfold compareBytes
  split
  · next heq => rw [render_eq_nil_iff.mpr heq, Console.write_nil]
  · rfl

/-- **No console can tell whether equal byte strings are taken a shortcut.** -/
theorem rendering_fst (read : Path → Except Fault Bytes) (expected actual : Path) (c : Console) :
    (rendering read expected actual c).1 = (builtin read expected actual c).1 := by
  unfold rendering builtin
  rcases read expected with fault | e
  · rfl
  rcases read actual with fault | a
  · rfl
  simp only [compareBytes_eq]
  rcases c.write (render e a) with ⟨c', fault | ⟨⟩⟩ <;> rfl

/-- What a comparison of two byte strings says and writes: the differences, as far as the console
takes them, and a verdict that can be read off them unless the console fails. -/
theorem compareBytes_spec (e a : Bytes) (c : Console) :
    ∃ written, (compareBytes e a c).1 = { c with accepted := c.accepted ++ written } ∧
      written <+: render e a ∧
      ((c.write (render e a)).2 = .ok () →
        ((compareBytes e a c).2 = .ok .identical ↔ written = []) ∧
        ((compareBytes e a c).2 = .ok .different ↔ written = render e a ∧ render e a ≠ [])) ∧
      ∀ fault, (c.write (render e a)).2 = .error fault →
        (compareBytes e a c).2 = .error (.io (Path.ofString "<console>") fault) := by
  have hwrite : c.write (render e a)
      = ({ c with accepted := c.accepted ++ c.fitting (render e a) },
          (c.write (render e a)).2) := rfl
  refine ⟨c.fitting (render e a), ?_, c.fitting_prefix _, fun hok => ?_, fun fault hfault => ?_⟩
  · rw [compareBytes_eq, hwrite]
    rcases (c.write (render e a)).2 with fault | ⟨⟩ <;> rfl
  · rw [compareBytes_eq, hwrite, hok, Console.fitting_of_write_ok hok, Ne, render_eq_nil_iff]
    by_cases heq : e = a <;> simp [heq]
  · rw [compareBytes_eq, hwrite, hfault]
    rfl

/-- **The verdict is what the differences say.** What is rendered is empty exactly for equal byte
strings. Whatever the two files and the console are, the shortcut for equal files leaves no trace on
the console. A file that cannot be read ends the comparison before anything is written, the expected
one first. Otherwise a beginning of the rendered differences is written: all of them, with a verdict
that tells whether there are any, or as much as the console takes before it fails. -/
theorem builtin_agrees_with_render :
    (∀ e a, render e a = [] ↔ e = a) ∧
      ∀ (read : Path → Except Fault Bytes) (expected actual : Path) (c : Console),
        (rendering read expected actual c).1 = (builtin read expected actual c).1 ∧
        (∀ fault, read expected = .error fault →
          builtin read expected actual c = (c, .error (.io expected fault))) ∧
        (∀ e fault, read expected = .ok e → read actual = .error fault →
          builtin read expected actual c = (c, .error (.io actual fault))) ∧
        ∀ e a, read expected = .ok e → read actual = .ok a →
          (c.limit = none → (c.write (render e a)).2 = .ok ()) ∧
          ∃ written,
            (builtin read expected actual c).1 = { c with accepted := c.accepted ++ written } ∧
            written <+: render e a ∧
            ((c.write (render e a)).2 = .ok () →
              ((builtin read expected actual c).2 = .ok .identical ↔ written = []) ∧
              ((builtin read expected actual c).2 = .ok .different ↔
                written = render e a ∧ render e a ≠ [])) ∧
            ∀ fault, (c.write (render e a)).2 = .error fault →
              (builtin read expected actual c).2
                = .error (.io (Path.ofString "<console>") fault) := by
  refine ⟨fun e a => render_eq_nil_iff, fun read expected actual c =>
    ⟨rendering_fst read expected actual c, fun fault h => ?_, fun e fault h h' => ?_,
      fun e a h h' => ⟨fun hlimit => ?_, ?_⟩⟩⟩
  · simp only [builtin, h]
  · simp only [builtin, h, h']
  · rw [Console.write_unlimited hlimit]
  · have hbuiltin : builtin read expected actual c = compareBytes e a c := by
      simp only [builtin, h, h']
    rw [hbuiltin]
    exact compareBytes_spec e a c

end Differ

end Tandem
