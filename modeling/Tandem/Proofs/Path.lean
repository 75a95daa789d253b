import Mathlib.Tactic
import Tandem.Config
import Tandem.TestCase

/-!
# Paths of entries

A name that can stand in a directory, other than `.` and `..`, is a plain name (`Name.Plain`). Joining
a plain name to a path adds one component at its end, whatever slashes the path ends in
(`Path.components_join`). So the entries of a directory and the outputs of a case are where their names
say: a case is never its own output (`TestCase.components_path_ne_outputIn`), and the outputs of all
cases in two directories are apart exactly if the directories are (`TestCase.outputs_apart_iff`).

No way of setting up a run but that of naming one output directory by itself makes the two output
directories meet (`Config.apart_applyAll`).
-/

namespace Tandem

/-! ### Plain names -/

/-- The name is that of an entry which is neither `.` nor `..`. -/
def Name.Plain (n : Name) : Prop :=
  n ≠ [] ∧ Path.slash ∉ n ∧ n ≠ Path.here ∧ n ≠ Path.above

instance (n : Name) : Decidable n.Plain :=
  inferInstanceAs (Decidable (_ ∧ _))

/-- A suffix that is longer than `..` makes a plain name of any name. -/
theorem Name.Plain.append {n suffix : Name} (hn : Path.slash ∉ n) (hsuffix : Path.slash ∉ suffix)
    (hlength : 2 < suffix.length) : Name.Plain (n ++ suffix) := by
  have hlong : 2 < (n ++ suffix).length := by
    rw [List.length_append]
    omega
  refine ⟨?_, by simp [hn, hsuffix], ?_, ?_⟩ <;> intro h <;> rw [h] at hlong <;>
    simp [Path.here, Path.above] at hlong

namespace Path

/-! ### Components -/

theorem pieces_ne_nil (bs : Bytes) : pieces bs ≠ [] := by
  cases bs with
  | nil => simp [pieces]
  | cons b bs =>
    rw [pieces]
    split
    · simp
    · split <;> simp

/-- The bytes before a slash and those after it are cut up apart from each other. -/
theorem pieces_append_slash (as bs : Bytes) :
    pieces (as ++ slash :: bs) = pieces as ++ pieces bs := by
  induction as with
  | nil => simp [pieces]
  | cons a as ih =>
    rw [List.cons_append, pieces, pieces, ih]
    by_cases ha : a = slash
    · rw [if_pos ha, if_pos ha, List.cons_append]
    rw [if_neg ha, if_neg ha]
    -- the first piece has `a` before it on both sides
    obtain ⟨piece, more, hpieces⟩ := List.exists_cons_of_ne_nil (pieces_ne_nil as)
    rw [hpieces]
    rfl

theorem pieces_of_slash_notMem {bs : Bytes} (h : slash ∉ bs) : pieces bs = [bs] := by
  induction bs with
  | nil => rfl
  | cons b bs ih =>
    rw [List.mem_cons, not_or] at h
    rw [pieces, if_neg (Ne.symm h.1), ih h.2]

theorem ofPiece?_of_plain {n : Name} (h : n.Plain) : Component.ofPiece? n = some (.entry n) := by
  obtain ⟨hnil, -, hhere, habove⟩ := h
  simp [Component.ofPiece?, hnil, hhere, habove]

theorem isAbsolute_of_plain {n : Name} (h : n.Plain) : (⟨n⟩ : Path).isAbsolute = false := by
  obtain ⟨hnil, hslash, -, -⟩ := h
  obtain ⟨b, bs, rfl⟩ := List.exists_cons_of_ne_nil hnil
  rw [List.mem_cons, not_or] at hslash
  simpa [isAbsolute] using Ne.symm hslash.1

theorem components_of_plain {n : Name} (h : n.Plain) : (⟨n⟩ : Path).components = [.entry n] := by
  have hpieces : pieces n = [n] := pieces_of_slash_notMem h.2.1
  simp only [components, isAbsolute_of_plain h, hpieces, List.head?_cons, Option.some.injEq,
    if_neg h.2.2.1, List.filterMap_cons_some (ofPiece?_of_plain h), List.filterMap_nil]
  rfl

/-- A path whose pieces are those of another, and more after them, has as many components more. -/
private theorem components_of_pieces {p q : Path} {later : List Bytes}
    (hroot : q.isAbsolute = p.isAbsolute) (hhead : (pieces q.bytes).head? = (pieces p.bytes).head?)
    (hpieces : (pieces q.bytes).filterMap Component.ofPiece?
      = (pieces p.bytes ++ later).filterMap Component.ofPiece?) :
    q.components = p.components ++ later.filterMap Component.ofPiece? := by
  rw [List.filterMap_append] at hpieces
  simp only [components, hroot, hhead, hpieces]
  split
  · rfl
  · split <;> rfl

/-- **Joining a relative path** to one that is not empty adds what its pieces stand for. -/
theorem components_join_of_relative {p q : Path} (hp : p.bytes ≠ []) (hq : q.isAbsolute = false) :
    (p.join q).components = p.components ++ (pieces q.bytes).filterMap Component.ofPiece? := by
  rw [join, hq, if_neg (by simp)]
  have hroot (rest : Bytes) : (⟨p.bytes ++ rest⟩ : Path).isAbsolute = p.isAbsolute := by
    obtain ⟨b, bs, hbytes⟩ := List.exists_cons_of_ne_nil hp
    simp [isAbsolute, hbytes]
  by_cases hslash : p.endsInSlash = true
  · -- the last piece of the path is empty, and the first one of the other takes its place
    rw [if_pos (by simp [hslash])]
    obtain ⟨bs, hbytes⟩ : ∃ bs, p.bytes = bs ++ [slash] := by
      refine List.getLast?_eq_some_iff.mp ?_
      simpa [endsInSlash] using hslash
    have hbefore : pieces p.bytes = pieces bs ++ [[]] := by
      rw [hbytes, pieces_append_slash]
      rfl
    have hafter : pieces (p.bytes ++ q.bytes) = pieces bs ++ pieces q.bytes := by
      rw [hbytes, List.append_assoc, List.singleton_append, pieces_append_slash]
    refine components_of_pieces (hroot q.bytes) ?_ ?_
    · obtain ⟨first, others, hfirst⟩ := List.exists_cons_of_ne_nil (pieces_ne_nil bs)
      rw [hafter, hbefore, hfirst]
      rfl
    · simp [hafter, hbefore, Component.ofPiece?]
  · rw [if_neg (by simp [hp, hslash])]
    have hafter : pieces (p.bytes ++ slash :: q.bytes) = pieces p.bytes ++ pieces q.bytes :=
      pieces_append_slash p.bytes q.bytes
    obtain ⟨first, others, hfirst⟩ := List.exists_cons_of_ne_nil (pieces_ne_nil p.bytes)
    refine components_of_pieces (hroot _) ?_ (by rw [hafter])
    rw [hafter, hfirst]
    rfl

/-- **Joining a plain name** adds one component. -/
theorem components_join (p : Path) {n : Name} (hn : n.Plain) :
    (p.join ⟨n⟩).components = p.components ++ [.entry n] := by
  by_cases hempty : p.bytes = []
  · -- nothing stands before the name
    obtain ⟨bytes⟩ := p
    obtain rfl : bytes = [] := hempty
    rw [join, isAbsolute_of_plain hn, if_neg (by simp)]
    exact components_of_plain hn
  · rw [components_join_of_relative hempty (isAbsolute_of_plain hn), pieces_of_slash_notMem hn.2.1,
      List.filterMap_cons_some (ofPiece?_of_plain hn), List.filterMap_nil]

/-- Only the empty path has no component. -/
theorem components_eq_nil_iff {p : Path} : p.components = [] ↔ p.bytes = [] := by
  refine ⟨fun h => by_contra fun hne => ?_, fun h => ?_⟩
  · obtain ⟨b, bs, hbytes⟩ := List.exists_cons_of_ne_nil hne
    by_cases hb : b = slash
    · simp [components, isAbsolute, hbytes, hb] at h
    obtain ⟨piece, more, hpieces⟩ := List.exists_cons_of_ne_nil (pieces_ne_nil bs)
    have hfirst : pieces p.bytes = (b :: piece) :: more := by
      rw [hbytes, pieces, if_neg hb, hpieces]
    have hrelative : p.isAbsolute = false := by simpa [isAbsolute, hbytes] using hb
    -- the first piece is not empty, so it counts, also if it is `.`
    by_cases hhere : b :: piece = here
    · simp [components, hrelative, hfirst, hhere] at h
    · obtain ⟨c, hc⟩ : ∃ c, Component.ofPiece? (b :: piece) = some c := by
        simp only [Component.ofPiece?, hhere, reduceCtorEq, decide_false, Bool.or_self,
          Bool.false_eq_true, if_false]
        split <;> exact ⟨_, rfl⟩
      simp [components, hrelative, hfirst, hhere, List.filterMap_cons_some hc] at h
  · obtain ⟨bytes⟩ := p
    obtain rfl : bytes = [] := h
    rfl

/-- **Equal paths stay equal** when the same path is joined to them, whatever it is. -/
theorem components_join_congr {p q : Path} (h : p.components = q.components) (r : Path) :
    (p.join r).components = (q.join r).components := by
  by_cases habsolute : r.isAbsolute = true
  · rw [join, join, if_pos habsolute, if_pos habsolute]
  have hrelative : r.isAbsolute = false := by simpa using habsolute
  have hnil : p.bytes = [] ↔ q.bytes = [] := by
    rw [← components_eq_nil_iff, ← components_eq_nil_iff, h]
  by_cases hp : p.bytes = []
  · have hpq : p = q := congrArg Path.mk (hp.trans (hnil.mp hp).symm)
    rw [hpq]
  · rw [components_join_of_relative hp hrelative,
      components_join_of_relative (mt hnil.mpr hp) hrelative, h]

/-! ### Paths from components -/

theorem slash_notMem_of_mem_pieces {bs piece : Bytes} (h : piece ∈ pieces bs) : slash ∉ piece := by
  induction bs generalizing piece with
  | nil => simp_all [pieces]
  | cons b bs ih =>
    obtain ⟨first, more, hpieces⟩ := List.exists_cons_of_ne_nil (pieces_ne_nil bs)
    rw [pieces] at h
    by_cases hb : b = slash
    · rw [if_pos hb, List.mem_cons] at h
      rcases h with rfl | h
      · simp
      · exact ih h
    · rw [if_neg hb, hpieces] at h
      rw [hpieces] at ih
      rcases List.mem_cons.mp h with rfl | h
      · simp [Ne.symm hb, ih List.mem_cons_self]
      · exact ih (List.mem_cons_of_mem _ h)

/-- The component can stand after others. -/
inductive Component.Inner : Component → Prop
  | above : Inner .above
  | entry {n : Name} (h : n.Plain) : Inner (.entry n)

theorem inner_of_ofPiece? {piece : Bytes} {c : Component} (hslash : slash ∉ piece)
    (h : Component.ofPiece? piece = some c) : c.Inner := by
  rw [Component.ofPiece?] at h
  split at h
  · cases h
  · next hdot =>
    split at h
    · cases h
      exact .above
    · next habove =>
      cases h
      simp only [Bool.or_eq_true, decide_eq_true_eq, not_or] at hdot
      exact .entry ⟨hdot.1, hslash, hdot.2, habove⟩

/-- **What a path is made of**: at most one component says where it starts, and inner ones follow. -/
theorem components_eq_append (p : Path) : ∃ start later, p.components = start ++ later ∧
    (start = [] ∨ start = [.root] ∨ start = [.here]) ∧ ∀ c ∈ later, Component.Inner c := by
  have hlater : ∀ c ∈ (pieces p.bytes).filterMap Component.ofPiece?, Component.Inner c := by
    intro c hc
    obtain ⟨piece, hpiece, hc⟩ := List.mem_filterMap.mp hc
    exact inner_of_ofPiece? (slash_notMem_of_mem_pieces hpiece) hc
  simp only [components]
  split
  · exact ⟨[.root], _, rfl, by simp, hlater⟩
  · split
    · exact ⟨[.here], _, rfl, by simp, hlater⟩
    · exact ⟨[], _, rfl, by simp, hlater⟩

/-- Joining what an inner component is called adds that component. -/
theorem components_join_inner (p : Path) {c : Component} (hc : c.Inner) :
    (p.join ⟨c.name⟩).components = p.components ++ [c] := by
  cases hc with
  | entry hn => exact components_join p hn
  | above =>
    by_cases hempty : p.bytes = []
    · obtain ⟨bytes⟩ := p
      obtain rfl : bytes = [] := hempty
      decide
    · exact components_join_of_relative hempty (by decide)

/-- **A path can be spelled by its components.** -/
theorem components_ofComponents {start later : List Component}
    (hstart : start = [] ∨ start = [.root] ∨ start = [.here])
    (hlater : ∀ c ∈ later, Component.Inner c) :
    (ofComponents (start ++ later)).components = start ++ later := by
  set add : Path → Component → Path := fun p c => if c = .root then ⟨[slash]⟩ else p.join ⟨c.name⟩
  have hbegin : (start.foldl add ⟨[]⟩).components = start := by
    rcases hstart with rfl | rfl | rfl <;> decide
  have hgo (p : Path) : (later.foldl add p).components = p.components ++ later := by
    induction later generalizing p with
    | nil => simp
    | cons c later ih =>
      rw [List.forall_mem_cons] at hlater
      have hadd : add p c = p.join ⟨c.name⟩ := if_neg fun hroot => by cases hroot ▸ hlater.1
      rw [List.foldl_cons, ih hlater.2, hadd, components_join_inner p hlater.1, List.append_assoc,
        List.singleton_append]
  rw [ofComponents, List.foldl_append, hgo, hbegin]

/-- The path without `.` at its beginning. -/
def withoutDot (p : Path) : Path :=
  ofComponents (p.components.filter (· ≠ .here))

theorem components_withoutDot (p : Path) :
    p.withoutDot.components = p.components.filter (· ≠ .here) := by
  obtain ⟨start, later, hp, hstart, hlater⟩ := p.components_eq_append
  have hfilter : later.filter (· ≠ .here) = later := by
    refine List.filter_eq_self.mpr fun c hc => ?_
    cases hlater c hc <;> rfl
  have hbegin : start.filter (· ≠ .here) = [] ∨ start.filter (· ≠ .here) = [.root] ∨
      start.filter (· ≠ .here) = [.here] := by
    rcases hstart with rfl | rfl | rfl <;> decide
  rw [withoutDot, hp, List.filter_append, hfilter, components_ofComponents hbegin hlater]

theorem same_iff {p q : Path} : p.same q = true ↔ p.components = q.components :=
  beq_iff_eq

theorem same_eq_false_iff {p q : Path} : p.same q = false ↔ p.components ≠ q.components :=
  beq_eq_false_iff_ne

end Path

/-! ### Cases and their outputs -/

/-- Where an output of a case goes: into a directory, under the name of the case with `.out` after it. -/
def outputPath (dir : Path) (case : TestCase) : Path :=
  dir.join ⟨case.name ++ [0x2E, 0x6F, 0x75, 0x74]⟩

theorem outputIn_eq (case : TestCase) (dir : Path) : case.outputIn dir = outputPath dir case :=
  rfl

namespace TestCase

variable {name : Name}

theorem plain_outputName (h : Path.slash ∉ name) (dir : Path) :
    (ofName dir name).outputName.Plain :=
  Name.Plain.append h (by decide) (by decide)

theorem components_path (dir : Path) (h : name.Plain) :
    (ofName dir name).path.components = dir.components ++ [.entry name] :=
  Path.components_join dir h

theorem components_outputIn (dir out : Path) (h : Path.slash ∉ name) :
    ((ofName dir name).outputIn out).components
      = out.components ++ [.entry (ofName dir name).outputName] :=
  Path.components_join out (plain_outputName h dir)

/-- **A case is not an output of its own**, wherever its outputs go. -/
theorem components_path_ne_outputIn (dir out : Path) (h : name.Plain) :
    (ofName dir name).path.components ≠ ((ofName dir name).outputIn out).components := by
  rw [components_path dir h, components_outputIn dir out h.2.1]
  intro heq
  obtain ⟨-, hname⟩ := List.append_inj' heq rfl
  simp only [List.cons.injEq, Path.Component.entry.injEq, and_true] at hname
  -- the name of an output goes on after that of the case
  exact absurd (List.self_eq_append_right.mp hname) (by decide)

/-- **Outputs are at one place** only if their directories are, and if they are of one case. -/
theorem components_outputIn_eq_iff {dir out out' : Path} {name' : Name} (h : Path.slash ∉ name)
    (h' : Path.slash ∉ name') :
    ((ofName dir name).outputIn out).components = ((ofName dir name').outputIn out').components ↔
      out.components = out'.components ∧ name = name' := by
  rw [components_outputIn dir out h, components_outputIn dir out' h']
  refine ⟨fun heq => ?_, fun ⟨hout, hname⟩ => by rw [hout, hname]⟩
  obtain ⟨hout, hname⟩ := List.append_inj' heq rfl
  refine ⟨hout, ?_⟩
  simpa [outputName, ofName] using hname

/-- The outputs of cases in two directories, those in the first one before those in the second. -/
def outputs (dir out out' : Path) (names : List Name) : List Path :=
  (names.map fun name => (ofName dir name).outputIn out) ++
    names.map fun name => (ofName dir name).outputIn out'

/-- **Outputs do not collide.** The outputs of different cases in two directories are pairwise at
different places exactly if the two directories are at different places, however they are spelled.
And whatever the name of a case is, directories at one place put it and its outputs at one place. -/
theorem outputs_apart_iff :
    (∀ (dir out out' : Path) (names : List Name), names ≠ [] → names.Nodup →
      (∀ name ∈ names, Path.slash ∉ name) →
      ((outputs dir out out' names).Pairwise (fun p q => p.same q = false) ↔
        out.same out' = false)) ∧
    ∀ (name : Name) (p q : Path), p.same q = true →
      (∀ dir, ((ofName dir name).outputIn p).same ((ofName dir name).outputIn q) = true) ∧
        (ofName p name).path.same (ofName q name).path = true := by
  simp only [Path.same_iff, Path.same_eq_false_iff]
  refine ⟨fun dir out out' names hne hnodup hslash => ?_, fun name p q h =>
    ⟨fun dir => Path.components_join_congr h _, Path.components_join_congr h _⟩⟩
  -- in one directory the names tell the outputs apart
  have hone (out : Path) : (names.map fun name => (ofName dir name).outputIn out).Pairwise
      fun p q => p.components ≠ q.components := by
    rw [List.pairwise_map]
    refine (List.nodup_iff_pairwise_ne.mp hnodup).imp_of_mem fun hm hm' hnames heq => ?_
    exact hnames ((components_outputIn_eq_iff (hslash _ hm) (hslash _ hm')).mp heq).2
  rw [outputs, List.pairwise_append]
  refine ⟨fun ⟨_, _, hcross⟩ heq => ?_, fun hout => ⟨hone out, hone out', ?_⟩⟩
  · -- any one case has an output in either directory
    obtain ⟨name, hname⟩ := List.exists_mem_of_ne_nil names hne
    have hmem (out : Path) := List.mem_map_of_mem (f := fun name => (ofName dir name).outputIn out)
      hname
    exact hcross _ (hmem out) _ (hmem out')
      ((components_outputIn_eq_iff (hslash name hname) (hslash name hname)).mpr ⟨heq, rfl⟩)
  · simp only [List.forall_mem_map]
    intro name hname name' hname' heq
    exact hout ((components_outputIn_eq_iff (hslash name hname) (hslash name' hname')).mp heq).1

/-- Not even names such as `.` and `..`, nor the directories that an empty path and `.` spell, make
outputs collide; and `out/.` is at one place with `out`, so that outputs there do. -/
theorem outputs_apart_dots :
    let names : List Name := [[0x2E], [0x2E, 0x2E], [0x78]]
    let out := Path.ofString "out"
    (names ≠ [] ∧ names.Nodup ∧ ∀ name ∈ names, Path.slash ∉ name) ∧
      (outputs out ⟨[]⟩ (Path.ofString ".") names).Pairwise (fun p q => p.same q = false) ∧
      ¬ (outputs out out (Path.ofString "out/.") names).Pairwise (fun p q => p.same q = false) ∧
      (ofName out [0x2F]).path.same (ofName (Path.ofString "out/.") [0x2F]).path = true :=
  ⟨by decide, (outputs_apart_iff.1 _ _ _ _ (by decide) (by decide) (by decide)).mpr (by decide),
    fun h => absurd ((outputs_apart_iff.1 _ _ _ _ (by decide) (by decide) (by decide)).mp h)
      (by decide),
    (outputs_apart_iff.2 _ _ _ (by decide)).2⟩

end TestCase

/-! ### The output directories of a configuration -/

namespace Config

/-- The outputs of the two programs go to two directories. -/
def Apart (c : Config) : Prop :=
  c.expectedDir.components ≠ c.resultsDir.components

/-- The adjustment names one of the output directories by itself. -/
def Step.setsOneDir : Step → Bool
  | .expectedDir _ | .resultsDir _ => true
  | _ => false

/-- The two directories under an output root are two entries. -/
theorem outputNames_plain : Name.Plain expectedName.bytes ∧ Name.Plain resultsName.bytes := by
  decide

theorem outputNames_ne (above : List Path.Component) :
    above ++ [.entry expectedName.bytes] ≠ above ++ [.entry resultsName.bytes] := by
  intro heq
  exact absurd (List.append_cancel_left heq) (by decide)

theorem apart_ofDir (testDir : Path) : (ofDir testDir).Apart := by
  show expectedName.components ≠ resultsName.components
  decide

theorem apart_apply {c : Config} {step : Step} (h : c.Apart) (hstep : step.setsOneDir = false) :
    (c.apply step).Apart := by
  cases step with
  | outputRoot root =>
    show (root.join ⟨expectedName.bytes⟩).components ≠ (root.join ⟨resultsName.bytes⟩).components
    rw [Path.components_join root outputNames_plain.1, Path.components_join root outputNames_plain.2]
    exact outputNames_ne root.components
  | reference | candidate | diff => exact h
  | expectedDir | resultsDir => simp [Step.setsOneDir] at hstep

/-- **The output directories stay apart**, unless one of them is named by itself. -/
theorem apart_applyAll {c : Config} {steps : List Step} (h : c.Apart)
    (hsteps : ∀ step ∈ steps, step.setsOneDir = false) : (c.applyAll steps).Apart := by
  induction steps generalizing c with
  | nil => exact h
  | cons step steps ih =>
    rw [List.forall_mem_cons] at hsteps
    exact ih (apart_apply h hsteps.1) hsteps.2

/-- No adjustment moves the test directory. -/
theorem testDir_applyAll (c : Config) (steps : List Step) :
    (c.applyAll steps).testDir = c.testDir := by
  induction steps generalizing c with
  | nil => rfl
  | cons step steps ih =>
    have hstep : (c.apply step).testDir = c.testDir := by cases step <;> rfl
    exact (ih _).trans hstep

end Config

end Tandem
