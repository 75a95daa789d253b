import Mathlib.Data.List.DropRight
import Mathlib.Tactic
import Tandem.Text.Blank

/-!
# Words of a text

A word is not empty and has no blank in it (`IsWord`). The words that a text is cut into are such
words (`isWord_of_mem_words`), and a word that is written down with blanks or the end of the text
after it is read as the first one (`Words.runs_append_cons`). They are all the stretches of the text
without a blank that cannot be made longer, in the order in which they stand there
(`Words.areMaximalRuns_runs`).

Stripping a text leaves one word just when that word is the only one (`strip_eq_iff`). So a test of
the stripped text and a test of the list of words agree, whatever blanks there are.
-/

namespace Tandem

/-! ### Runs -/

namespace Words

variable {α : Type} {sep : α → Bool} {run cs : List α} {c : α}

/-- A run is not empty, and no separator is in it. -/
def IsRun (sep : α → Bool) (run : List α) : Prop :=
  run ≠ [] ∧ ∀ c ∈ run, sep c = false

theorem keep_of_ne_nil (h : run ≠ []) (later : List (List α)) : keep run later = run :: later := by
  rw [keep, List.isEmpty_eq_false_iff.mpr h, if_neg (by simp)]

theorem split_cons_of_sep (h : sep c = true) (cs : List α) :
    split sep (c :: cs) = ([], runs sep cs) :=
  if_pos h

theorem split_cons_of_not_sep (h : sep c = false) (cs : List α) :
    split sep (c :: cs) = (c :: (split sep cs).1, (split sep cs).2) :=
  if_neg (by simp [h])

theorem runs_nil : runs sep [] = [] := rfl

theorem runs_cons_of_sep (h : sep c = true) (cs : List α) : runs sep (c :: cs) = runs sep cs := by
  rw [runs, split_cons_of_sep h]
  rfl

/-- Separators at the front do not count. -/
theorem runs_append_of_sep (h : ∀ c ∈ run, sep c = true) (cs : List α) :
    runs sep (run ++ cs) = runs sep cs := by
  induction run with
  | nil => rfl
  | cons c run ih =>
    rw [List.forall_mem_cons] at h
    rw [List.cons_append, runs_cons_of_sep h.1, ih h.2]

theorem split_append (h : ∀ c ∈ run, sep c = false) (cs : List α) :
    split sep (run ++ cs) = (run ++ (split sep cs).1, (split sep cs).2) := by
  induction run with
  | nil => rfl
  | cons c run ih =>
    rw [List.forall_mem_cons] at h
    rw [List.cons_append, split_cons_of_not_sep h.1, ih h.2]
    rfl

/-- **A run up to a separator** is the first one. -/
theorem runs_append_cons (hrun : IsRun sep run) (hc : sep c = true) (cs : List α) :
    runs sep (run ++ c :: cs) = run :: runs sep cs := by
  rw [runs, split_append hrun.2, split_cons_of_sep hc, List.append_nil, keep_of_ne_nil hrun.1]

theorem runs_of_isRun (h : IsRun sep run) : runs sep run = [run] := by
  have hsplit := split_append h.2 []
  rw [List.append_nil, split, List.append_nil] at hsplit
  rw [runs, hsplit, keep_of_ne_nil h.1]

/-- Without separators at the front, a first run begins there; with one, there is none. -/
private theorem split_spec (sep : α → Bool) (cs : List α) :
    (∀ c ∈ (split sep cs).1, sep c = false) ∧ ∀ run ∈ (split sep cs).2, IsRun sep run := by
  induction cs with
  | nil => simp [split]
  | cons c cs ih =>
    cases hc : sep c with
    | true =>
      rw [split_cons_of_sep hc]
      refine ⟨by simp, fun run hrun => ?_⟩
      rw [runs, keep] at hrun
      split at hrun
      · exact ih.2 run hrun
      · next hne =>
        rcases List.mem_cons.mp hrun with rfl | hrun
        · exact ⟨by simpa using hne, ih.1⟩
        · exact ih.2 run hrun
    | false =>
      rw [split_cons_of_not_sep hc]
      exact ⟨List.forall_mem_cons.mpr ⟨hc, ih.1⟩, ih.2⟩

theorem isRun_of_mem_runs (h : run ∈ runs sep cs) : IsRun sep run := by
  obtain ⟨hfirst, hlater⟩ := split_spec sep cs
  rw [runs, keep] at h
  split at h
  · exact hlater run h
  · next hne =>
    rcases List.mem_cons.mp h with rfl | h
    · exact ⟨by simpa using hne, hfirst⟩
    · exact hlater run h

/-- Separators at the back do not count. -/
theorem runs_append_right (h : ∀ c ∈ run, sep c = true) (cs : List α) :
    runs sep (cs ++ run) = runs sep cs := by
  have hsplit : split sep (cs ++ run) = split sep cs := by
    induction cs with
    | nil =>
      cases run with
      | nil => rfl
      | cons c run =>
        rw [List.forall_mem_cons] at h
        have hrun : runs sep run = [] := by simpa [runs_nil] using runs_append_of_sep h.2 []
        rw [List.nil_append, split_cons_of_sep h.1, hrun]
        rfl
    | cons c cs ih =>
      rw [List.cons_append, split, ih]
      rfl
  rw [runs, hsplit, runs]

/-- There is no run just when there are only separators. -/
theorem runs_eq_nil_iff : runs sep cs = [] ↔ ∀ c ∈ cs, sep c = true := by
  refine ⟨fun h => ?_, fun h => by simpa [runs_nil] using runs_append_of_sep h []⟩
  induction cs with
  | nil => simp
  | cons c cs ih =>
    cases hc : sep c with
    | true =>
      rw [runs_cons_of_sep hc] at h
      exact List.forall_mem_cons.mpr ⟨hc, ih h⟩
    | false =>
      rw [runs, split_cons_of_not_sep hc, keep_of_ne_nil (List.cons_ne_nil _ _)] at h
      cases h

/-- What the runs after the first one are the runs of. It does not go on with the first one. -/
private theorem exists_split_append (sep : α → Bool) (cs : List α) :
    ∃ after, cs = (split sep cs).1 ++ after ∧ (∀ c ∈ after.head?, sep c = true) ∧
      runs sep after = (split sep cs).2 := by
  induction cs with
  | nil => exact ⟨[], rfl, by simp, rfl⟩
  | cons c cs ih =>
    cases hc : sep c with
    | true =>
      rw [split_cons_of_sep hc]
      exact ⟨c :: cs, rfl, by simpa using hc, runs_cons_of_sep hc cs⟩
    | false =>
      obtain ⟨after, hcs, hstop, hafter⟩ := ih
      rw [split_cons_of_not_sep hc]
      exact ⟨after, by rw [List.cons_append, ← hcs], hstop, hafter⟩

/-- What stands before the first run, and what comes after it. -/
theorem exists_of_runs_eq_cons {more : List (List α)} (h : runs sep cs = run :: more) :
    ∃ before after, cs = before ++ run ++ after ∧ (∀ c ∈ before, sep c = true) ∧
      runs sep after = more := by
  induction cs with
  | nil => cases h
  | cons c cs ih =>
    cases hc : sep c with
    | true =>
      rw [runs_cons_of_sep hc] at h
      obtain ⟨before, after, rfl, hbefore, hafter⟩ := ih h
      exact ⟨c :: before, after, rfl, List.forall_mem_cons.mpr ⟨hc, hbefore⟩, hafter⟩
    | false =>
      rw [runs, split_cons_of_not_sep hc, keep_of_ne_nil (List.cons_ne_nil _ _)] at h
      obtain ⟨rfl, rfl⟩ := List.cons.inj h
      obtain ⟨after, hcs, -, hafter⟩ := exists_split_append sep cs
      exact ⟨[], after, by rw [List.nil_append, List.cons_append, ← hcs], by simp, hafter⟩

/-- Separators around a run are dropped, and nothing else. -/
theorem rdropWhile_dropWhile (hrun : IsRun sep run) {before after : List α}
    (hbefore : ∀ c ∈ before, sep c = true) (hafter : ∀ c ∈ after, sep c = true) :
    ((before ++ run ++ after).dropWhile sep).rdropWhile sep = run := by
  obtain ⟨hne, hnone⟩ := hrun
  have hfront : (run ++ after).dropWhile sep = run ++ after := by
    obtain ⟨c, cs, rfl⟩ := List.exists_cons_of_ne_nil hne
    exact List.dropWhile_cons_of_neg (by simp [hnone c List.mem_cons_self])
  have hback : run.rdropWhile sep = run :=
    List.rdropWhile_eq_self_iff.mpr fun hne => by simp [hnone _ (List.getLast_mem hne)]
  rw [List.append_assoc, List.dropWhile_append_of_pos hbefore, hfront, List.rdropWhile,
    List.reverse_append, List.dropWhile_append_of_pos (by simpa using hafter)]
  exact hback

/-! ### Maximal runs -/

/-- A run stands at a place, and whatever stands next to it on either side is a separator. -/
structure MaximalRun (sep : α → Bool) (cs : List α) (start : ℕ) (run : List α) : Prop where
  isRun : IsRun sep run
  stands : run <+: cs.drop start
  before : ∀ k c, k + 1 = start → cs[k]? = some c → sep c = true
  after : ∀ c, cs[start + run.length]? = some c → sep c = true

/-- These are all maximal runs, each at its own place, in the order of their places. -/
def AreMaximalRuns (sep : α → Bool) (cs : List α) (runs : List (List α)) : Prop :=
  ∃ places : List (ℕ × List α), places.map Prod.snd = runs ∧
    places.Pairwise (fun p q => p.1 < q.1) ∧
    ∀ start run, (start, run) ∈ places ↔ MaximalRun sep cs start run

/-- The maximal run at the very front is the one that is split off there. -/
theorem maximalRun_zero_iff : MaximalRun sep cs 0 run ↔ run ≠ [] ∧ (split sep cs).1 = run := by
  constructor
  · rintro ⟨⟨hne, hrun⟩, ⟨after, hcs⟩, -, hafter⟩
    obtain rfl : run ++ after = cs := hcs
    have hstop : (split sep after).1 = [] := by
      cases after with
      | nil => rfl
      | cons c after => rw [split_cons_of_sep (hafter c (by simp))]
    rw [split_append hrun, hstop, List.append_nil]
    exact ⟨hne, rfl⟩
  · rintro ⟨hne, hfirst⟩
    obtain ⟨after, hcs, hstop, -⟩ := exists_split_append sep cs
    have hrun := (split_spec sep cs).1
    rw [hfirst] at hcs hrun
    subst hcs
    refine ⟨⟨hne, hrun⟩, List.prefix_append run after, fun k c hk => by omega, fun c hc => ?_⟩
    rw [Nat.zero_add, List.getElem?_append_right le_rfl, Nat.sub_self, ← List.head?_eq_getElem?]
      at hc
    exact hstop c hc

/-- Behind the first element the maximal runs are those of the rest, except for one that goes on
with this element. -/
theorem maximalRun_succ_iff {start : ℕ} : MaximalRun sep (c :: cs) (start + 1) run ↔
    MaximalRun sep cs start run ∧ (start = 0 → sep c = true) := by
  constructor
  · rintro ⟨hrun, hstands, hbefore, hafter⟩
    refine ⟨⟨hrun, hstands, fun k d hk hd => ?_, fun d hd => hafter d ?_⟩, fun h => ?_⟩
    · exact hbefore (k + 1) d (by omega) (by simpa using hd)
    · rwa [Nat.succ_add, List.getElem?_cons_succ]
    · exact hbefore 0 c (by omega) rfl
  · rintro ⟨⟨hrun, hstands, hbefore, hafter⟩, hfirst⟩
    refine ⟨hrun, hstands, fun k d hk hd => ?_, fun d hd => hafter d ?_⟩
    · cases k with
      | zero =>
        obtain rfl : c = d := by simpa using hd
        exact hfirst (by omega)
      | succ k => exact hbefore k d (by omega) (by simpa using hd)
    · rwa [Nat.succ_add, List.getElem?_cons_succ] at hd

/-- With the run at the very front, if there is one, the runs at later places are all. -/
private theorem areMaximalRuns_of_later {later : List (ℕ × List α)}
    (hruns : later.map Prod.snd = (split sep cs).2)
    (hasc : later.Pairwise fun p q => p.1 < q.1)
    (hmem : ∀ start run, (start, run) ∈ later ↔ 0 < start ∧ MaximalRun sep cs start run) :
    AreMaximalRuns sep cs (runs sep cs) := by
  by_cases hfirst : (split sep cs).1 = []
  · refine ⟨later, by simp [runs, keep, hfirst, hruns], hasc, fun start run => ?_⟩
    rw [hmem, and_iff_right_iff_imp]
    intro hrun
    rcases start with _ | start
    · obtain ⟨hne, heq⟩ := maximalRun_zero_iff.mp hrun
      exact absurd (heq.symm.trans hfirst) hne
    · exact start.succ_pos
  · refine ⟨(0, (split sep cs).1) :: later, by simp [runs, keep_of_ne_nil hfirst, hruns],
      List.pairwise_cons.mpr ⟨fun p hp => ((hmem _ _).mp hp).1, hasc⟩, fun start run => ?_⟩
    rw [List.mem_cons, Prod.mk.injEq, hmem]
    rcases start with _ | start
    · rw [maximalRun_zero_iff]
      grind
    · simp

/-- One element more at the front moves all places by one. -/
private theorem exists_places_cons {places : List (ℕ × List α)}
    (hasc : places.Pairwise fun p q => p.1 < q.1)
    (hmem : ∀ start run, (start, run) ∈ places ↔
      MaximalRun sep cs start run ∧ (start = 0 → sep c = true)) :
    ∃ later : List (ℕ × List α), later.map Prod.snd = places.map Prod.snd ∧
      later.Pairwise (fun p q => p.1 < q.1) ∧
      ∀ start run, (start, run) ∈ later ↔ 0 < start ∧ MaximalRun sep (c :: cs) start run := by
  refine ⟨places.map fun (start, run) => (start + 1, run), by simp, ?_, fun start run => ?_⟩
  · rw [List.pairwise_map]
    exact hasc.imp fun h => Nat.succ_lt_succ h
  · rcases start with _ | start
    · simp
    · rw [maximalRun_succ_iff, ← hmem]
      simp

/-- The runs after the one at the very front are the maximal runs at later places. -/
private theorem exists_later_places (sep : α → Bool) (cs : List α) :
    ∃ later : List (ℕ × List α), later.map Prod.snd = (split sep cs).2 ∧
      later.Pairwise (fun p q => p.1 < q.1) ∧
      ∀ start run, (start, run) ∈ later ↔ 0 < start ∧ MaximalRun sep cs start run := by
  induction cs with
  | nil =>
    refine ⟨[], rfl, List.Pairwise.nil, fun start run => iff_of_false List.not_mem_nil ?_⟩
    rintro ⟨-, ⟨hne, -⟩, hstands, -, -⟩
    rw [List.drop_nil, List.prefix_nil] at hstands
    exact hne hstands
  | cons c cs ih =>
    obtain ⟨later, hruns, hasc, hmem⟩ := ih
    cases hc : sep c with
    | true =>
      -- a run at the front of the rest is one of the later runs now
      obtain ⟨places, hruns, hasc, hmem⟩ := areMaximalRuns_of_later hruns hasc hmem
      rw [split_cons_of_sep hc, ← hruns]
      exact exists_places_cons hasc fun start run => by simp [hmem, hc]
    | false =>
      rw [split_cons_of_not_sep hc, ← hruns]
      exact exists_places_cons hasc fun start run => by
        rw [hmem, hc, Nat.pos_iff_ne_zero]
        simp [and_comm]

/-- **The runs are the maximal runs**, in order. -/
theorem areMaximalRuns_runs (sep : α → Bool) (cs : List α) :
    AreMaximalRuns sep cs (runs sep cs) := by
  obtain ⟨later, hruns, hasc, hmem⟩ := exists_later_places sep cs
  exact areMaximalRuns_of_later hruns hasc hmem

end Words

/-! ### Words -/

/-- The text is a word: it is not empty, and no character in it is blank. -/
def IsWord (s : String) : Prop :=
  s ≠ "" ∧ ∀ c ∈ s.toList, isBlank c = false

instance (s : String) : Decidable (IsWord s) :=
  decidable_of_iff (s ≠ "" ∧ s.toList.all (fun c => !isBlank c) = true) (by simp [IsWord])

variable {s w : String} {ws : List String}

theorem isWord_iff : IsWord s ↔ Words.IsRun isBlank s.toList := by
  rw [IsWord, Words.IsRun, Ne, Ne, String.toList_eq_nil_iff]

theorem words_eq_iff : words s = ws ↔ Words.runs isBlank s.toList = ws.map String.toList := by
  have hinv : String.ofList ∘ String.toList = id := funext fun _ => String.ofList_toList
  have hinv' : String.toList ∘ String.ofList = id := funext fun _ => String.toList_ofList
  constructor
  · rintro rfl
    rw [words, List.map_map, hinv', List.map_id]
  · intro h
    rw [words, h, List.map_map, hinv, List.map_id]

/-- A text is cut into words. -/
theorem isWord_of_mem_words (h : w ∈ words s) : IsWord w := by
  obtain ⟨run, hrun, rfl⟩ := List.mem_map.mp h
  rw [isWord_iff, String.toList_ofList]
  exact Words.isRun_of_mem_runs hrun

/-- The words of a text are its maximal runs. -/
theorem areMaximalRuns_words (s : String) :
    Words.AreMaximalRuns isBlank s.toList ((words s).map String.toList) := by
  rw [← words_eq_iff.mp rfl]
  exact Words.areMaximalRuns_runs isBlank s.toList

/-- A text has no words just when it is blank. -/
theorem words_eq_nil_iff : words s = [] ↔ allBlank s = true := by
  rw [words, List.map_eq_nil_iff, Words.runs_eq_nil_iff, allBlank, List.all_eq_true]

/-- **Stripping leaves one word just when it is the only one.** -/
theorem strip_eq_iff (hw : IsWord w) : strip s = w ↔ words s = [w] := by
  rw [isWord_iff] at hw
  rw [words_eq_iff, List.map_singleton]
  constructor
  · -- the text is what it is stripped to, with blanks around
    rintro rfl
    have hfront := List.takeWhile_append_dropWhile (p := isBlank) (l := s.toList)
    have hback := List.rdropWhile_append_rtakeWhile (p := isBlank) (l := s.toList.dropWhile isBlank)
    rw [← hfront, Words.runs_append_of_sep fun _ => List.mem_takeWhile_imp, ← hback,
      Words.runs_append_right fun _ => List.mem_rtakeWhile_imp]
    rw [strip, String.toList_ofList] at hw ⊢
    exact Words.runs_of_isRun hw
  · intro h
    obtain ⟨before, after, hs, hbefore, hafter⟩ := Words.exists_of_runs_eq_cons h
    rw [Words.runs_eq_nil_iff] at hafter
    rw [strip, hs]
    exact (congrArg String.ofList (Words.rdropWhile_dropWhile hw hbefore hafter)).trans
      String.ofList_toList

end Tandem
