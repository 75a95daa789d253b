import Mathlib.Tactic
import Tandem.Proofs.NormalDiff.Reading

/-!
# Entries and the lines of a file

Most tools end a line after `\n` and nowhere else (`Lines.splitLf`). The lines that are compared end
after a `\r` on its own as well, and an entry for such a line gets the remark, though the file goes
on.

So an entry of a rendered diff is always the line with its number, as the comparison divides the
file, but a whole line of the file (`WholeLines`) only where its number stands for the same line
either way. In files where nothing but `\n` comes after a `\r` (`Lines.NoLoneCr`) it always does,
since the two ways to divide are the same one (`split_eq_splitLf_iff`); every other file has a diff
in which an entry is not a whole line (`entries_whole_iff`).
-/

namespace Tandem

/-! ### Two ways to divide a file -/

namespace Lines

/-- The lines of a byte string when a line ends after `\n` only. -/
def splitLf : Bytes → List Bytes
  | [] => []
  | b :: rest => if b = lf then [b] :: splitLf rest else extend b (splitLf rest)

/-- What comes after a `\r`, if anything, is a `\n`. -/
def NoLoneCr (bs : Bytes) : Prop :=
  bs.IsChain fun b next => b = cr → next = lf

theorem flatten_splitLf (bs : Bytes) : (splitLf bs).flatten = bs := by
  induction bs with
  | nil => rfl
  | cons b rest ih =>
    rw [splitLf]
    split
    · rw [List.flatten_cons, ih, List.singleton_append]
    · rw [flatten_extend, ih]

private theorem nil_notMem_extend {b : UInt8} {lines : List Bytes} (h : [] ∉ lines) :
    [] ∉ extend b lines := by
  cases lines with
  | nil => simp [extend]
  | cons line lines => simp_all [extend]

theorem nil_notMem_splitLf (bs : Bytes) : [] ∉ splitLf bs := by
  induction bs with
  | nil => exact List.not_mem_nil
  | cons b rest ih =>
    rw [splitLf]
    split
    · simpa using ih
    · exact nil_notMem_extend ih

theorem nil_notMem_split (bs : Bytes) : [] ∉ split bs :=
  fun h => ne_nil_of_mem h rfl

/-- Lines, none of them empty, are known from what a byte makes of them. -/
private theorem extend_inj {b : UInt8} {lines lines' : List Bytes} (h : [] ∉ lines)
    (h' : [] ∉ lines') : extend b lines = extend b lines' ↔ lines = lines' := by
  refine ⟨fun heq => ?_, congrArg _⟩
  cases lines <;> cases lines' <;> simp_all [extend]

/-- A line of its own is not what a byte makes of further lines. -/
private theorem cons_ne_extend {b : UInt8} {lines lines' : List Bytes} (h : [] ∉ lines)
    (hne : lines ≠ []) : [b] :: lines' ≠ extend b lines := by
  cases lines with
  | nil => exact absurd rfl hne
  | cons line lines => simp_all [extend, eq_comm]

/-- **The two ways to divide a file agree exactly if nothing but `\n` comes after a `\r`.** -/
theorem split_eq_splitLf_iff (bs : Bytes) : split bs = splitLf bs ↔ NoLoneCr bs := by
  induction bs with
  | nil => exact ⟨fun _ => .nil, fun _ => rfl⟩
  | cons b rest ih =>
    have hsplit := nil_notMem_split rest
    have hsplitLf := nil_notMem_splitLf rest
    rw [NoLoneCr, List.isChain_cons, ← NoLoneCr, ← ih, split, splitLf]
    by_cases hlf : b = lf
    · have hcr : lf ≠ cr := by decide
      simp [hlf, endsAfter, hcr]
    by_cases hcr : b = cr
    · subst hcr
      rcases rest with _ | ⟨next, rest⟩
      · simp [endsAfter, hlf, split, splitLf, extend]
      by_cases hnext : next = lf
      · simp [endsAfter, hlf, hnext, extend_inj (hnext ▸ hsplit) (hnext ▸ hsplitLf)]
      · -- here the ways part: the line ends after `\r`, or goes on
        have hne : splitLf (next :: rest) ≠ [] := by
          rw [splitLf]
          cases splitLf rest <;> simp [extend, hnext]
        simp [endsAfter, hlf, hnext, cons_ne_extend hsplitLf hne]
    · simp [endsAfter, hlf, hcr, extend_inj hsplit hsplitLf]

/-- A line without `\n` at its end is the last one. -/
private theorem succ_eq_length_splitLf {bs line : Bytes} {n : ℕ}
    (h : (splitLf bs)[n]? = some line) (hline : line.getLast? ≠ some lf) :
    n + 1 = (splitLf bs).length := by
  induction bs generalizing n line with
  | nil => simp [splitLf] at h
  | cons b rest ih =>
    rw [splitLf] at h ⊢
    by_cases hb : b = lf
    · rw [if_pos hb] at h ⊢
      rcases n with _ | n
      · obtain rfl : [b] = line := by simpa using h
        simp [hb] at hline
      · rw [List.length_cons, ih (n := n) h hline]
    · rw [if_neg hb] at h ⊢
      have hne := nil_notMem_splitLf rest
      generalize splitLf rest = lines at h ih hne ⊢
      rcases lines with _ | ⟨first, lines⟩
      · obtain ⟨hn, -⟩ := List.getElem?_eq_some_iff.mp h
        simp only [extend, List.length_singleton] at hn ⊢
        omega
      rcases n with _ | n
      · -- the first line ends as it did before the byte was put in front
        obtain rfl : b :: first = line := by simpa [extend] using h
        have hfirst : first ≠ [] := fun heq => hne (heq ▸ List.mem_cons_self)
        rw [List.getLast?_cons_of_ne_nil hfirst] at hline
        exact ih (n := 0) rfl hline
      · exact ih (n := n + 1) h hline

/-- A line without `\n` at its end is the last one, and what the file ends in. -/
theorem last_of_getElem?_splitLf {bs line : Bytes} {n : ℕ} (h : (splitLf bs)[n]? = some line)
    (hline : line.getLast? ≠ some lf) :
    n + 1 = (splitLf bs).length ∧ bs.getLast? ≠ some lf := by
  have hlast := succ_eq_length_splitLf h hline
  refine ⟨hlast, ?_⟩
  have hend : (splitLf bs).getLast? = some line := by
    rw [List.getLast?_eq_getElem?, ← hlast, Nat.add_sub_cancel, h]
  obtain ⟨lines, heq⟩ := List.getLast?_eq_some_iff.mp hend
  have hne : line ≠ [] := fun hnil => nil_notMem_splitLf bs (by simp [heq, hnil])
  rwa [← flatten_splitLf bs, heq, List.flatten_append, List.flatten_singleton,
    List.getLast?_append_of_ne_nil _ hne]

end Lines

/-! ### Numbers and entries -/

namespace Edit

/-- The positions that stretches cover, one stretch after the other. -/
def positions (ss : List Stretch) : List ℕ := ss.flatMap fun s => List.range' s.start s.len

@[simp] theorem positions_cons (s : Stretch) (ss : List Stretch) :
    positions (s :: ss) = List.range' s.start s.len ++ positions ss := rfl

theorem mem_positions {ss : List Stretch} {n : ℕ} :
    n ∈ positions ss ↔ ∃ s ∈ ss, s.Covers n := by
  simp only [positions, List.mem_flatMap, List.mem_range'_1, Stretch.Covers, Stretch.stop]

/-- Stretches that ascend cover ascending positions. -/
theorem Ascending.positions_lt {size i : ℕ} {ss : List Stretch} (h : Ascending size i ss) :
    (positions ss).Pairwise (· < ·) := by
  induction ss generalizing i with
  | nil => exact List.Pairwise.nil
  | cons s ss ih =>
    obtain ⟨-, -, -, hrest⟩ := h
    rw [positions_cons, List.pairwise_append]
    refine ⟨List.pairwise_lt_range', ih hrest, fun m hm n hn => ?_⟩
    obtain ⟨t, ht, hle, -⟩ := mem_positions.mp hn
    have hstop := (hrest.bounds ht).1
    have hm' := (List.mem_range'_1.mp hm).2
    rw [Stretch.stop] at hstop
    omega

/-- What stretches cover are the elements at their positions. -/
theorem Ascending.forall₂_part {α : Type} {xs : List α} {i : ℕ} {ss : List Stretch}
    (h : Ascending xs.length i ss) :
    List.Forall₂ (fun n x => xs[n]? = some x) (positions ss) (ss.flatMap fun s => s.part xs) := by
  induction ss generalizing i with
  | nil => exact .nil
  | cons s ss ih =>
    obtain ⟨-, -, hstop, hrest⟩ := h
    have hlen : (s.part xs).length = s.len := length_slice hstop
    rw [positions_cons, List.flatMap_cons]
    refine List.rel_append ?_ (ih hrest)
    refine List.forall₂_iff_get.mpr ⟨by simp [hlen], fun k hk hk' => ?_⟩
    simp [Stretch.part, slice]

/-- Where nothing is left of a sequence, every position is covered. -/
theorem mem_positions_of_without_eq_nil {α : Type} {ss : List Stretch} {xs : List α} {i n : ℕ}
    (h : without ss i xs = []) (hn : n < xs.length) : i + n ∈ positions ss := by
  induction xs generalizing i n with
  | nil => simp at hn
  | cons x xs ih =>
    rw [without] at h
    split at h
    · next hcovered =>
      rcases n with _ | n
      · exact mem_positions.mpr hcovered
      · rw [Nat.add_comm n 1, ← Nat.add_assoc]
        exact ih h (by simpa using hn)
    · cases h

end Edit

namespace NormalDiff

open Edit

/-- An entry as it is read: what comes after its mark, and whether the remark is next. -/
structure Entry where
  body : Bytes
  remarked : Bool
  deriving DecidableEq, Repr

/-- The line that an entry stands for. -/
def Entry.line (e : Entry) : Bytes := e.body ++ if e.remarked then [] else [Lines.lf]

/-- The entries behind a mark. -/
def shown (mark : Bytes) : List Bytes → List Entry
  | [] => []
  | row :: rest =>
    if mark <+: row then
      ⟨row.drop mark.length, rest.head? = some remarkRow⟩ :: shown mark rest
    else shown mark rest

theorem map_line_shown (mark : Bytes) (rs : List Bytes) :
    (shown mark rs).map Entry.line = marked mark rs := by
  induction rs with
  | nil => rfl
  | cons row rest ih =>
    rw [shown, marked]
    split <;> simp [ih, Entry.line]

theorem lf_notMem_rows (text : Bytes) : ∀ row ∈ rows text, Lines.lf ∉ row := by
  induction text with
  | nil => simp [rows]
  | cons b rest ih =>
    rw [rows]
    split
    · simpa using ih
    · next hb =>
      cases hrows : rows rest with
      | nil => simpa [Lines.extend] using Ne.symm hb
      | cons first others =>
        rw [hrows, List.forall_mem_cons] at ih
        rw [Lines.extend, List.forall_mem_cons, List.mem_cons, not_or]
        exact ⟨⟨Ne.symm hb, ih.1⟩, ih.2⟩

/-- What comes after a mark holds no `\n`, if the rows do not. -/
private theorem lf_notMem_body {mark : Bytes} {rs : List Bytes} {e : Entry}
    (hrows : ∀ row ∈ rs, Lines.lf ∉ row) (h : e ∈ shown mark rs) : Lines.lf ∉ e.body := by
  induction rs with
  | nil => cases h
  | cons row rest ih =>
    rw [List.forall_mem_cons] at hrows
    rw [shown] at h
    split at h
    · rcases List.mem_cons.mp h with rfl | h
      · exact fun hmem => hrows.1 (List.mem_of_mem_drop hmem)
      · exact ih hrows.2 h
    · exact ih hrows.2 h

/-- The remark comes exactly after entries for lines that do not end in `\n`. -/
theorem remarked_iff_of_mem_shown {mark text : Bytes} {e : Entry}
    (h : e ∈ shown mark (rows text)) : e.remarked = true ↔ e.line.getLast? ≠ some Lines.lf := by
  have hbody := lf_notMem_body (lf_notMem_rows text) h
  obtain ⟨body, _ | _⟩ := e
  · simp [Entry.line]
  · simp only [Entry.line, ite_true, List.append_nil, true_iff]
    exact fun hlast => hbody (List.mem_of_getLast? hlast)

/-- The entry is the whole line number `n`, from zero, of the file, whose lines end after `\n` only.
With the remark it is the last one, and the file does not end in `\n`. -/
structure Entry.IsLine (file : Bytes) (n : ℕ) (e : Entry) : Prop where
  whole : (Lines.splitLf file)[n]? = some e.line
  last_of_remarked : e.remarked = true →
    n + 1 = (Lines.splitLf file).length ∧ file.getLast? ≠ some Lines.lf

/-- The entries behind a mark are the whole lines of the file that the stretches name, one entry for
each, and the remark comes once at most. -/
structure WholeLines (file mark : Bytes) (ss : List Stretch) (text : Bytes) : Prop where
  entries : List.Forall₂ (Entry.IsLine file) (positions ss) (shown mark (rows text))
  remarked_once : (shown mark (rows text)).countP Entry.remarked ≤ 1

/-- The entries behind a mark are the lines that the stretches name, one entry for each. -/
def Numbered (lines : List Bytes) (mark : Bytes) (ss : List Stretch) (text : Bytes) : Prop :=
  List.Forall₂ (fun n e => lines[n]? = some e.line) (positions ss) (shown mark (rows text))

/-- The stretches ascend in the lines of a file, and what they cover is read behind the mark. -/
private structure Shows (file mark : Bytes) (ss : List Stretch) (text : Bytes) : Prop where
  ascending : Ascending (Lines.split file).length 0 ss
  marked_eq : marked mark (rows text) = ss.flatMap fun s => s.part (Lines.split file)

section Shows

variable {file mark text : Bytes} {ss : List Stretch}

private theorem Shows.numbered (h : Shows file mark ss text) :
    Numbered (Lines.split file) mark ss text := by
  have hpart := h.ascending.forall₂_part
  rwa [← h.marked_eq, ← map_line_shown, List.forall₂_map_right_iff] at hpart

/-- Among ascending positions, one at most is the last one. -/
private theorem countP_le_one {α : Type} {size : ℕ} {p : α → Bool} {ns : List ℕ} {xs : List α}
    (hns : ns.Pairwise (· < ·)) (h : List.Forall₂ (fun n x => p x = true → n + 1 = size) ns xs)
    (hsize : ∀ n ∈ ns, n < size) : xs.countP p ≤ 1 := by
  induction h with
  | nil => exact Nat.zero_le 1
  | @cons n x ns xs hx hrest ih =>
    obtain ⟨hlt, hns⟩ := List.pairwise_cons.mp hns
    have ih' := ih hns fun m hm => hsize m (List.mem_cons_of_mem _ hm)
    rw [List.countP_cons]
    split
    · next hp =>
      -- after the last position there is none
      have hlast := hx hp
      have hnil : ns = [] := List.eq_nil_iff_forall_not_mem.mpr fun m hm => by
        have := hlt m hm
        have := hsize m (List.mem_cons_of_mem _ hm)
        omega
      subst hnil
      cases hrest
      simp
    · exact ih'

/-- Entries are whole lines exactly if the lines with their numbers are the same ones whichever way
the file is divided. -/
private theorem Shows.wholeLines_iff (h : Shows file mark ss text) :
    WholeLines file mark ss text ↔
      ∀ n ∈ positions ss, (Lines.split file)[n]? = (Lines.splitLf file)[n]? := by
  obtain ⟨hlen, hline⟩ := List.forall₂_iff_zip.mp h.numbered
  constructor
  · intro hwhole n hn
    obtain ⟨-, hlineLf⟩ := List.forall₂_iff_zip.mp hwhole.entries
    obtain ⟨k, hk, rfl⟩ := List.getElem_of_mem hn
    have hk' : k < (shown mark (rows text)).length := hlen ▸ hk
    have hmem : ((positions ss)[k], (shown mark (rows text))[k]) ∈
        (positions ss).zip (shown mark (rows text)) :=
      List.mem_iff_getElem.mpr ⟨k, by rw [List.length_zip]; omega, List.getElem_zip⟩
    rw [hline hmem, (hlineLf hmem).whole]
  intro hsame
  have hentries : List.Forall₂ (Entry.IsLine file) (positions ss) (shown mark (rows text)) := by
    refine List.forall₂_iff_zip.mpr ⟨hlen, fun {n e} hmem => ?_⟩
    obtain ⟨hn, he⟩ := List.of_mem_zip hmem
    have hwhole : (Lines.splitLf file)[n]? = some e.line := (hsame n hn).symm.trans (hline hmem)
    exact ⟨hwhole, fun hremarked =>
      Lines.last_of_getElem?_splitLf hwhole ((remarked_iff_of_mem_shown he).mp hremarked)⟩
  refine ⟨hentries, countP_le_one h.ascending.positions_lt
    (hentries.imp fun n e he hremarked => (he.last_of_remarked hremarked).1) fun n hn => ?_⟩
  -- a number that the headers give is one of a line
  obtain ⟨s, hs, -, hlt⟩ := mem_positions.mp hn
  have hin : n < (Lines.split file).length := Nat.lt_of_lt_of_le hlt (h.ascending.bounds hs).2.2
  have hget := hsame n hn
  rw [List.getElem?_eq_getElem hin] at hget
  exact (List.getElem?_eq_some_iff.mp hget.symm).1

private theorem Shows.wholeLines (h : Shows file mark ss text) (hfile : Lines.NoLoneCr file) :
    WholeLines file mark ss text :=
  h.wholeLines_iff.mpr fun n _ => by rw [(Lines.split_eq_splitLf_iff file).mpr hfile]

/-- A diff that shows all of a file by whole lines shows that the two ways to divide it agree. -/
private theorem Shows.noLoneCr (h : Shows file mark ss text) (hwhole : WholeLines file mark ss text)
    (hall : without ss 0 (Lines.split file) = []) : Lines.NoLoneCr file := by
  have hsame : ∀ n (hn : n < (Lines.split file).length),
      (Lines.splitLf file)[n]? = some (Lines.split file)[n] := by
    intro n hn
    have hmem : n ∈ positions ss := by simpa using mem_positions_of_without_eq_nil hall hn
    rw [← h.wholeLines_iff.mp hwhole n hmem, List.getElem?_eq_getElem hn]
  -- so the lines are the first ones of those between `\n`, and there is nothing left for others
  obtain ⟨others, hothers⟩ := List.prefix_iff_getElem?.mpr hsame
  have hflat := congrArg List.flatten hothers
  rw [List.flatten_append, Lines.flatten_split, Lines.flatten_splitLf, List.append_right_eq_self,
    List.flatten_eq_nil_iff] at hflat
  have hnone : others = [] := List.eq_nil_iff_forall_not_mem.mpr fun line hmem =>
    Lines.nil_notMem_splitLf file (hothers ▸ List.mem_append_right _ (hflat line hmem ▸ hmem))
  rw [hnone, List.append_nil] at hothers
  exact (Lines.split_eq_splitLf_iff file).mp hothers

end Shows

private theorem shows_gone (expected actual : Bytes) :
    Shows expected gone (goneIn (hunksIn (render expected actual))) (render expected actual) := by
  rw [hunksIn_render]
  exact ⟨(laid_hunks _ _).ascending_gone, marked_gone_render expected actual⟩

private theorem shows_come (expected actual : Bytes) :
    Shows actual come (comeIn (hunksIn (render expected actual))) (render expected actual) := by
  rw [hunksIn_render]
  exact ⟨(laid_hunks _ _).ascending_come, marked_come_render expected actual⟩

/-- **Entries are the numbered lines, and whole lines where the two ways to divide a file agree.**
The entries of either side are, one for one, the lines with the numbers that the headers give, as
the comparison divides the files. They are whole lines, with the remark in its place, exactly if
these numbers stand for the same lines when a line ends after `\n` only. So it is in every diff of a
file exactly if what comes after a `\r` in it, if anything, is a `\n`. -/
theorem entries_whole_iff (expected actual : Bytes) :
    (Numbered (Lines.split expected) gone (goneIn (hunksIn (render expected actual)))
        (render expected actual) ∧
      Numbered (Lines.split actual) come (comeIn (hunksIn (render expected actual)))
        (render expected actual)) ∧
    (WholeLines expected gone (goneIn (hunksIn (render expected actual))) (render expected actual) ↔
      ∀ n ∈ positions (goneIn (hunksIn (render expected actual))),
        (Lines.split expected)[n]? = (Lines.splitLf expected)[n]?) ∧
    (WholeLines actual come (comeIn (hunksIn (render expected actual))) (render expected actual) ↔
      ∀ n ∈ positions (comeIn (hunksIn (render expected actual))),
        (Lines.split actual)[n]? = (Lines.splitLf actual)[n]?) ∧
    ((∀ other, WholeLines expected gone (goneIn (hunksIn (render expected other)))
        (render expected other)) ↔ Lines.NoLoneCr expected) ∧
    ((∀ other, WholeLines actual come (comeIn (hunksIn (render other actual)))
        (render other actual)) ↔ Lines.NoLoneCr actual) := by
  have hgone := shows_gone expected actual
  have hcome := shows_come expected actual
  refine ⟨⟨hgone.numbered, hcome.numbered⟩, hgone.wholeLines_iff, hcome.wholeLines_iff,
    ⟨fun h => ?_, fun h other => (shows_gone expected other).wholeLines h⟩,
    ⟨fun h => ?_, fun h other => (shows_come other actual).wholeLines h⟩⟩
  · -- compared with nothing, all of the file is gone
    have hall := (laid_hunks (Lines.split expected) []).without_eq
    refine (shows_gone expected []).noLoneCr (h []) ?_
    rw [hunksIn_render]
    exact hall
  · have hall := (laid_hunks [] (Lines.split actual)).without_eq
    refine (shows_come [] actual).noLoneCr (h []) ?_
    rw [hunksIn_render]
    exact hall.symm

/-- **An entry can be less than a line.** Each file is one line that ends in `\n`. The comparison
divides it after the `\r`, shows its front alone and says that the file ends there. Whole lines
would give `< a\rb` and `> c\rb` without a remark. -/
theorem entries_cut_after_cr :
    let expected := Utf8.encode "a\rb\n"
    let actual := Utf8.encode "c\rb\n"
    render expected actual = Utf8.encode ("1c1\n< a\r\n\\ No newline at end of file\n---\n" ++
        "> c\r\n\\ No newline at end of file\n") ∧
      ¬ WholeLines expected gone (goneIn (hunksIn (render expected actual)))
        (render expected actual) ∧
      ¬ WholeLines actual come (comeIn (hunksIn (render expected actual)))
        (render expected actual) := by
  have hrender : render (Utf8.encode "a\rb\n") (Utf8.encode "c\rb\n")
      = Utf8.encode ("1c1\n< a\r\n\\ No newline at end of file\n---\n" ++
        "> c\r\n\\ No newline at end of file\n") := by cbv
  simp only [hrender]
  refine ⟨trivial, fun h => ?_, fun h => ?_⟩
  · exact absurd (Entry.IsLine.whole (List.forall₂_zip h.entries List.mem_cons_self)) (by decide)
  · exact absurd (Entry.IsLine.whole (List.forall₂_zip h.entries List.mem_cons_self)) (by decide)

end NormalDiff

end Tandem
