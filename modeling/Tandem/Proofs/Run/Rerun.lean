import Tandem.Proofs.Run.Verdict
import Tandem.Proofs.Run.Writes

/-!
# A second run

A run on a test bench with the comparison of this library can be made again: from the disk that the
first run left, the second one has the same results, puts the same on the console, and leaves the
disk as it is (`Bench.run_again`). All that is asked is that the first run stores nothing new in the
test directory, so that the second finds the same cases.

The disk of a second run is half way between the first disk and the last one: some places hold what
they held before the first run, others what it wrote. What a case reads of it is the case itself,
which is not yet written when the case gets its turn: an output has a longer name than the case it
belongs to, so it is no case that comes earlier. Therefore cases do on such a disk what they did on
the first one (`Bench.runCases_again`). The directories are there by then, or fail to be made at the
same step as before (`Bench.makeDirs_again`).
-/

namespace Tandem

namespace Bench

open Disk (SameDirs Extends Grows Halfway)

variable {b : Bench} {d d' d₁ : Disk}

/-! ### Making directories -/

/-- Whatever stands somewhere before directories are made stands there afterwards. -/
theorem get?_makeDirs (b : Bench) (above steps : Key) {k : Key} {entry : Entry}
    (h : d.get? k = some entry) : (b.makeDirs above steps d).2.get? k = some entry := by
  induction steps generalizing above d with
  | nil => exact h
  | cons step steps ih =>
    rw [makeDirs]
    split
    · exact ih _ h
    · exact h
    · next hnone =>
      split
      · exact h
      · refine ih _ ?_
        rwa [Disk.get?_put_of_ne]
        rintro rfl
        rw [hnone] at h
        cases h

private theorem grows_makeDirs (b : Bench) (above steps : Key) (d : Disk) :
    Grows d (b.makeDirs above steps d).2 := by
  induction steps generalizing above d with
  | nil => exact Grows.refl d
  | cons step steps ih =>
    rw [makeDirs]
    split
    · exact ih _ d
    · exact Grows.refl d
    · split
      · exact Grows.refl d
      · exact (Disk.grows_put d _ _).trans (ih _ _)

/-- Making directories only adds to the disk. -/
theorem extends_makeDirs {above steps : Key} {made : Except Fault Unit}
    (h : b.makeDirs above steps d = (made, d₁)) : Extends d d₁ := by
  obtain rfl : (b.makeDirs above steps d).2 = d₁ := congrArg Prod.snd h
  exact ⟨grows_makeDirs b above steps d, get?_makeDirs b above steps⟩

/-- **Directories that have been made need not be made again**, as long as they are there. -/
theorem makeDirs_of_extends {above steps : Key} (h : b.makeDirs above steps d = (.ok (), d₁))
    (hext : Extends d₁ d') : b.makeDirs above steps d' = (.ok (), d') := by
  induction steps generalizing above d with
  | nil => rfl
  | cons step steps ih =>
    have hmade : d₁.get? (above ++ [step]) = some .dir ∧
        b.makeDirs (above ++ [step]) steps d' = (.ok (), d') := by
      rw [makeDirs] at h
      split at h
      · next hget => exact ⟨(extends_makeDirs h).dir hget, ih h⟩
      · cases h
      · split at h
        · cases h
        · exact ⟨(extends_makeDirs h).dir (Disk.get?_put_self d _ _), ih h⟩
    rw [makeDirs, hext.dir hmade.1]
    exact hmade.2

/-- **To make directories once more has the same result**, and changes nothing. -/
theorem makeDirs_again {above steps : Key} {made : Except Fault Unit}
    (h : b.makeDirs above steps d = (made, d₁)) : b.makeDirs above steps d₁ = (made, d₁) := by
  induction steps generalizing above d with
  | nil =>
    cases h
    rfl
  | cons step steps ih =>
    have hmore {d : Disk} (hget : d.get? (above ++ [step]) = some .dir)
        (h : b.makeDirs (above ++ [step]) steps d = (made, d₁)) :
        b.makeDirs above (step :: steps) d₁ = (made, d₁) := by
      rw [makeDirs, (extends_makeDirs h).dir hget]
      exact ih h
    rcases hget : d.get? (above ++ [step]) with _ | _ | _ <;> simp only [makeDirs, hget] at h
    · rcases hrefusal : b.refusal .make (above ++ [step]) with _ | fault <;>
        simp only [hrefusal] at h
      · exact hmore (Disk.get?_put_self d _ _) h
      · -- the step that was refused is refused again
        cases h
        simp only [makeDirs, hget, hrefusal]
    · cases h
      simp only [makeDirs, hget]
    · exact hmore hget h

/-! ### Running a program -/

variable {stdin stdout : Path}

theorem read_congr {p : Path} (h : d'.get? p.components = d.get? p.components) :
    b.read d' p = b.read d p := by
  rw [read, read, h]

theorem mayCreate_congr (h : SameDirs d d') (p : Path) :
    b.mayCreate d' p = .ok () ↔ b.mayCreate d p = .ok () := by
  rw [mayCreate_eq_ok_iff, mayCreate_eq_ok_iff, h, Ne, h]

/-- A program that does not get both its input and its output is not run. -/
theorem launch_of_not (command : Command)
    (h : ¬ ∃ data, b.read d stdin = .ok data ∧ b.mayCreate d stdout = .ok ()) :
    b.platform.run command stdin stdout d = (.redirectFailure, d) := by
  rcases hget : d.get? stdin.components with _ | data | _
  · simp [Platform.run, Platform.openFile, platform, bind, StateT.bind, pure, StateT.pure, isDir,
      hget]
  · have hisDir : isDir d stdin = .ok false := by rw [isDir, hget]
    rcases hrefusal : b.refusal .read stdin.components with _ | fault
    · -- the input is there, so the output is what is missing
      have hread : b.read d stdin = .ok data := read_eq_ok_iff.mpr ⟨hrefusal, hget⟩
      have hopen : b.openInput d stdin = .ok stdin.components :=
        openInput_eq_ok_iff.mpr ⟨hrefusal, by rw [hget]; rfl, rfl⟩
      rcases hcreate : b.mayCreate d stdout with fault | ⟨⟩
      · simp [Platform.run, Platform.openFile, platform, bind, StateT.bind, pure, StateT.pure,
          hisDir, hopen, hcreate]
      · exact absurd ⟨data, hread, hcreate⟩ h
    · have hopen : b.openInput d stdin = .error fault := by
        simp [openInput, permit, hrefusal, bind, Except.bind]
      simp [Platform.run, Platform.openFile, platform, bind, StateT.bind, pure, StateT.pure, hisDir,
        hopen]
  · simp [Platform.run, Platform.openFile, platform, bind, StateT.bind, pure, StateT.pure, isDir,
      hget]

/-- **What running a program does** depends on nothing but its input and the directories: it writes
its output at most, and has written it if it exits with zero. -/
theorem launch_again (command : Command) (hne : stdin.components ≠ stdout.components) (d : Disk) :
    ∃ status w, (∀ k ∈ w.map Prod.fst, k = stdout.components) ∧
      (status.code = 0 → stdout.components ∈ w.map Prod.fst) ∧ SameDirs d (d.puts w) ∧
      ∀ d', d'.get? stdin.components = d.get? stdin.components → SameDirs d d' →
        b.platform.run command stdin stdout d' = (status, d'.puts w) := by
  by_cases h : ∃ data, b.read d stdin = .ok data ∧ b.mayCreate d stdout = .ok ()
  · obtain ⟨data, hread, hcreate⟩ := h
    obtain ⟨-, -, hnotDir⟩ := mayCreate_eq_ok_iff.mp hcreate
    refine ⟨.ofWait (b.program command data).2,
      [(stdout.components, .file (b.program command data).1)], by simp, by simp,
      Disk.sameDirs_put_file hnotDir, fun d' hinput hdirs => ?_⟩
    exact launch_eq command ((read_congr hinput).trans hread)
      ((mayCreate_congr hdirs stdout).mpr hcreate) hne
  · refine ⟨.redirectFailure, [], by simp, fun h => absurd h (by decide), SameDirs.refl d,
      fun d' hinput hdirs => ?_⟩
    exact launch_of_not command (by rwa [read_congr hinput, mayCreate_congr hdirs])

/-! ### Judging a case -/

variable {config : Config} {case : TestCase} {reference candidate : RunStatus}

/-- The services of a run on the bench, with the comparison of this library. -/
abbrev builtinServices (b : Bench) : Services (Disk × Console) :=
  b.surroundings.services .builtin

/-- What an event does to the console. The disk stays as it is. -/
private theorem run_announce_eq {e : Event} {c c' : Console} {result : Except Fault Unit}
    (h : c.report e = (c', result)) (d : Disk) :
    (b.builtinServices.announce e).run (d, c) = (result.mapError .console, d, c') := by
  have hrun : (b.builtinServices.announce e).run (d, c)
      = ((c.report e).2.mapError .console, d, (c.report e).1) := Surroundings.run_announce e d c
  rw [hrun, h]

/-- The outputs of a case are read alike on two disks. -/
def SameOutputs (b : Bench) (config : Config) (case : TestCase) (d d' : Disk) : Prop :=
  b.read d' (case.outputIn config.expectedDir) = b.read d (case.outputIn config.expectedDir) ∧
    b.read d' (case.outputIn config.resultsDir) = b.read d (case.outputIn config.resultsDir)

/-- **What is said of a case** depends on nothing but the two outputs, if they are compared. The
disk stays as it is. -/
theorem judge_again (config : Config) (case : TestCase) (reference candidate : RunStatus) (d : Disk)
    (c : Console) :
    ∃ r c', ∀ d', (reference.code = 0 ∧ candidate.code = 0 → b.SameOutputs config case d d') →
      (b.builtinServices.judge config case reference candidate).run (d', c) = (r, d', c') := by
  by_cases hcodes : reference.code = 0 ∧ candidate.code = 0
  · simp only [Services.judge_of_succeeded _ _ _ hcodes]
    rcases hbanner : c.report (.banner case) with ⟨c₁, fault | ⟨⟩⟩
    · exact ⟨_, c₁, fun d' _ => Attempt.run_bind_error (run_announce_eq hbanner d')⟩
    set finding := Differ.findBuiltin (b.read d) (case.outputIn config.expectedDir)
      (case.outputIn config.resultsDir) with hfinding
    have hcompare {d' : Disk} (hreads : b.SameOutputs config case d d') :
        (ExceptT.mk (b.builtinServices.compare (case.outputIn config.expectedDir)
          (case.outputIn config.resultsDir)) : Attempt _ _).run (d', c₁)
            = ((finding.tell c₁).2, d', (finding.tell c₁).1) := by
      have hfind : b.surroundings.find .builtin (case.outputIn config.expectedDir)
          (case.outputIn config.resultsDir) d' = (finding, d') := by
        rw [hfinding, Differ.findBuiltin, ← hreads.1, ← hreads.2]
        rfl
      exact Surroundings.compare_eq_tell hfind c₁
    rcases htell : finding.tell c₁ with ⟨c₂, e | verdict⟩
    · refine ⟨.error e, c₂, fun d' hreads => ?_⟩
      rw [Attempt.run_bind_ok (run_announce_eq hbanner d'),
        Attempt.run_bind_error ((hcompare (hreads hcodes)).trans (by rw [htell]))]
    rcases hdiffed : c₂.report (.diffed case verdict) with ⟨c₃, fault | ⟨⟩⟩
    · refine ⟨.error (.console fault), c₃, fun d' hreads => ?_⟩
      rw [Attempt.run_bind_ok (run_announce_eq hbanner d'),
        Attempt.run_bind_ok ((hcompare (hreads hcodes)).trans (by rw [htell])),
        Attempt.run_bind_error (run_announce_eq hdiffed d')]
    · refine ⟨.ok ⟨case, reference, candidate, some verdict⟩, c₃, fun d' hreads => ?_⟩
      rw [Attempt.run_bind_ok (run_announce_eq hbanner d'),
        Attempt.run_bind_ok ((hcompare (hreads hcodes)).trans (by rw [htell])),
        Attempt.run_bind_ok (run_announce_eq hdiffed d'), Attempt.run_pure]
  · simp only [Services.judge_of_failed _ _ _ hcodes]
    rcases hfailed : c.report (.failed case config.reference reference config.candidate candidate)
      with ⟨c₁, fault | ⟨⟩⟩
    · exact ⟨_, c₁, fun d' _ => Attempt.run_bind_error (run_announce_eq hfailed d')⟩
    · exact ⟨_, c₁, fun d' _ => Attempt.run_bind_ok (run_announce_eq hfailed d')⟩

/-! ### Running cases -/

/-- Where the outputs of a case go. -/
def outputKeys (config : Config) (case : TestCase) : List Key :=
  [(case.outputIn config.expectedDir).components, (case.outputIn config.resultsDir).components]

/-- All that is written are outputs of the cases with certain names. -/
def OutputsOf (config : Config) (dir : Path) (names : List Name) (w : List (Key × Entry)) : Prop :=
  ∀ k ∈ w.map Prod.fst, ∃ name ∈ names, k ∈ outputKeys config (.ofName dir name)

variable {dir : Path} {name name' : Name} {names names' : List Name} {w w' : List (Key × Entry)}

theorem OutputsOf.mono (h : OutputsOf config dir names w) (hsub : names ⊆ names') :
    OutputsOf config dir names' w := by
  intro k hk
  obtain ⟨name, hname, hmem⟩ := h k hk
  exact ⟨name, hsub hname, hmem⟩

theorem OutputsOf.append (h : OutputsOf config dir names w) (h' : OutputsOf config dir names w') :
    OutputsOf config dir names (w ++ w') := by
  intro k hk
  rw [List.map_append, List.mem_append] at hk
  exact hk.elim (h k) (h' k)

/-- The name of an output comes after that of its case. -/
private theorem not_append_le {ext : Bytes} (hext : ext ≠ []) (name : Name) :
    ¬ (name ++ ext : Name) ≤ name := by
  rw [← Name.le_iff]
  induction name with
  | nil =>
    obtain ⟨b, bs, rfl⟩ := List.exists_cons_of_ne_nil hext
    simp [Name.le]
  | cons b name ih => simpa [Name.le] using ih

/-- A case is no output of itself, or of a case that comes after it. -/
private theorem path_notMem_outputKeys (hname : name.Plain) (hname' : name'.Plain)
    (hle : name ≤ name') :
    (TestCase.ofName dir name).path.components ∉ outputKeys config (.ofName dir name') := by
  have hne (out : Path) : (TestCase.ofName dir name).path.components
      ≠ ((TestCase.ofName dir name').outputIn out).components := by
    rw [TestCase.components_path dir hname, TestCase.components_outputIn dir out hname'.2.1]
    intro heq
    obtain ⟨-, heq⟩ := List.append_inj' heq rfl
    simp only [List.cons.injEq, Path.Component.entry.injEq, and_true] at heq
    exact not_append_le (by decide) name' (heq ▸ hle)
  simp [outputKeys, hne]

/-- **A case is not written over** by itself, or by cases that come after it. -/
theorem OutputsOf.path_notMem (h : OutputsOf config dir (name :: names) w)
    (hplain : ∀ n ∈ name :: names, n.Plain) (hle : ∀ n ∈ names, name ≤ n) :
    (TestCase.ofName dir name).path.components ∉ w.map Prod.fst := by
  intro hmem
  obtain ⟨name', hname', hmem⟩ := h _ hmem
  have hle' : name ≤ name' := by
    rcases List.mem_cons.mp hname' with rfl | hname'
    · exact List.le_refl _
    · exact hle name' hname'
  exact path_notMem_outputKeys (hplain name List.mem_cons_self) (hplain name' hname') hle' hmem

/-- **What a case does** depends on nothing but its input and the directories: it writes its outputs
at most, and says the same of them. -/
theorem runCase_again (hdiff : config.diff = .builtin) (dir : Path) (hname : name.Plain) (d : Disk)
    (c : Console) :
    ∃ r w c', OutputsOf config dir [name] w ∧ SameDirs d (d.puts w) ∧
      ∀ d', d'.get? (TestCase.ofName dir name).path.components
          = d.get? (TestCase.ofName dir name).path.components → SameDirs d d' →
        (b.builtinServices.runCase config (.ofName dir name)).run (d', c) = (r, d'.puts w, c') := by
  set case := TestCase.ofName dir name
  have hpath (out : Path) : case.path.components ≠ (case.outputIn out).components :=
    TestCase.components_path_ne_outputIn dir out hname
  obtain ⟨reference, w₁, hkeys₁, hwritten₁, hdirs₁, hlaunch₁⟩ :=
    launch_again (b := b) config.reference (hpath config.expectedDir) d
  obtain ⟨candidate, w₂, hkeys₂, hwritten₂, hdirs₂, hlaunch₂⟩ :=
    launch_again (b := b) config.candidate (hpath config.resultsDir) (d.puts w₁)
  obtain ⟨r, c', hjudge⟩ :=
    judge_again (b := b) config case reference candidate (d.puts (w₁ ++ w₂)) c
  have houtputs₁ : OutputsOf config dir [name] w₁ := fun k hk =>
    ⟨name, List.mem_cons_self, by simp [outputKeys, hkeys₁ k hk, case]⟩
  have houtputs₂ : OutputsOf config dir [name] w₂ := fun k hk =>
    ⟨name, List.mem_cons_self, by simp [outputKeys, hkeys₂ k hk, case]⟩
  refine ⟨r, w₁ ++ w₂, c', houtputs₁.append houtputs₂, ?_, fun d' hinput hdirs => ?_⟩
  · rw [Disk.puts_append]
    exact hdirs₁.trans hdirs₂
  · -- the reference has not written the input
    have hinput' : (d'.puts w₁).get? case.path.components
        = (d.puts w₁).get? case.path.components := by
      have hkept : case.path.components ∉ w₁.map Prod.fst := fun hmem => hpath _ (hkeys₁ _ hmem)
      rw [Disk.get?_puts_of_notMem hkept, Disk.get?_puts_of_notMem hkept, hinput]
    have hlaunches : Launches b.surroundings config case d' reference candidate
        (d'.puts (w₁ ++ w₂)) :=
      ⟨d'.puts w₁, hlaunch₁ d' hinput hdirs,
        (hlaunch₂ (d'.puts w₁) hinput' (hdirs.puts w₁)).trans (by rw [Disk.puts_append])⟩
    have hrun := Surroundings.run_runCase hlaunches c
    rw [hdiff] at hrun
    rw [hrun]
    -- outputs that are compared have both been written
    refine hjudge _ fun ⟨hreference, hcandidate⟩ => ⟨read_congr ?_, read_congr ?_⟩
    · refine Disk.get?_puts_of_mem ?_
      rw [List.map_append]
      exact List.mem_append_left _ (hwritten₁ hreference)
    · refine Disk.get?_puts_of_mem ?_
      rw [List.map_append]
      exact List.mem_append_right _ (hwritten₂ hcandidate)

/-- **What cases do on a disk half way.** Cases in ascending order write certain entries, which are
outputs of theirs. On every disk that is half way there the same cases write the same entries, put
the same on the console and have the same results. -/
theorem runCases_again (hdiff : config.diff = .builtin) (dir : Path)
    (hplain : ∀ name ∈ names, name.Plain) (hasc : names.Pairwise (· ≤ ·)) (d : Disk) (c : Console) :
    ∃ r w c', OutputsOf config dir names w ∧ SameDirs d (d.puts w) ∧
      ∀ d', Halfway w d d' →
        (b.builtinServices.runCases config (names.map (.ofName dir))).run (d', c)
          = (r, d'.puts w, c') := by
  induction names generalizing d c with
  | nil => exact ⟨.ok [], [], c, by simp [OutputsOf], SameDirs.refl d, fun _ _ => rfl⟩
  | cons name names ih =>
    have hname := hplain name List.mem_cons_self
    obtain ⟨hle, hasc⟩ := List.pairwise_cons.mp hasc
    obtain ⟨r, w, c₁, houtputs, hdirs, hcase⟩ := runCase_again (b := b) hdiff dir hname d c
    have hhere : OutputsOf config dir (name :: names) w := houtputs.mono (by simp)
    -- whatever the cases from here on write, this one finds its input as it was
    have hfirst {w' : List (Key × Entry)} {d' : Disk}
        (houtputs' : OutputsOf config dir (name :: names) w') (hdirs' : SameDirs d (d.puts w'))
        (h : Halfway w' d d') :
        (b.builtinServices.runCase config (.ofName dir name)).run (d', c) = (r, d'.puts w, c₁) :=
      hcase d' (h.get?_of_notMem (houtputs'.path_notMem hplain hle)) (h.sameDirs hdirs')
    rcases r with e | result
    · exact ⟨.error e, w, c₁, hhere, hdirs,
        fun d' h => Attempt.run_bind_error (hfirst hhere hdirs h)⟩
    obtain ⟨r, w', c₂, houtputs', hdirs', hcases⟩ :=
      ih (fun n hn => hplain n (List.mem_cons_of_mem _ hn)) hasc (d.puts w) c₁
    have hall : OutputsOf config dir (name :: names) (w ++ w') :=
      hhere.append (houtputs'.mono (List.subset_cons_self name names))
    have hdirs'' : SameDirs d (d.puts (w ++ w')) := by
      rw [Disk.puts_append]
      exact hdirs.trans hdirs'
    refine ⟨r.map (result :: ·), w ++ w', c₂, hall, hdirs'', fun d' h => ?_⟩
    rw [List.map_cons, Services.runCases, Attempt.run_bind_ok (hfirst hall hdirs'' h),
      Disk.puts_append]
    rcases r with e | results
    · exact Attempt.run_bind_error (hcases _ h.puts)
    · exact Attempt.run_bind_ok (hcases _ h.puts)

/-! ### A whole run -/

/-- What the test directory gives is told by what it lists. -/
private theorem run_discover {cases : Except RunError (List TestCase)}
    (h : TestCase.discover dir (b.list d dir) = cases) (c : Console) :
    (b.builtinServices.discover dir).run (d, c) = (cases, d, c) := by
  have hlist : (ExceptT.mk (TestCase.discover dir <$> b.builtinServices.list dir)).run (d, c)
      = (TestCase.discover dir (b.list d dir), d, c) := rfl
  rw [h] at hlist
  rcases cases with e | cases
  · exact Attempt.run_bind_error hlist
  · exact Attempt.run_bind_ok hlist

/-- What making a directory does to a run. -/
private theorem run_ensureDir {made : Except Fault Unit}
    (h : b.makeDirs [] dir.components d = (made, d')) (c : Console) :
    (b.builtinServices.ensureDir dir).run (d, c) = (made.mapError (.outputDir dir), d', c) := by
  have hrun : (b.builtinServices.ensureDir dir).run (d, c)
      = ((b.makeDirs [] dir.components d).1.mapError (.outputDir dir),
        (b.makeDirs [] dir.components d).2, c) := rfl
  rw [hrun, h]

section Run

variable {c c' : Console} {d₂ d₃ : Disk} {cases : List TestCase} {fault : Fault}
  {r : Except RunError (List CaseResult)}

theorem run_of_unlisted {e : RunError}
    (hcases : TestCase.discover config.testDir (b.list d config.testDir) = .error e) :
    (b.builtinServices.run config).run (d, c) = (.error e, d, c) :=
  Attempt.run_bind_error (run_discover hcases c)

theorem run_of_noExpectedDir
    (hcases : TestCase.discover config.testDir (b.list d config.testDir) = .ok cases)
    (hexpected : b.makeDirs [] config.expectedDir.components d = (.error fault, d₁)) :
    (b.builtinServices.run config).run (d, c)
      = (.error (.outputDir config.expectedDir fault), d₁, c) := by
  rw [Services.run, Attempt.run_bind_ok (run_discover hcases c),
    Attempt.run_bind_error (run_ensureDir hexpected c)]

theorem run_of_noResultsDir
    (hcases : TestCase.discover config.testDir (b.list d config.testDir) = .ok cases)
    (hexpected : b.makeDirs [] config.expectedDir.components d = (.ok (), d₁))
    (hresults : b.makeDirs [] config.resultsDir.components d₁ = (.error fault, d₂)) :
    (b.builtinServices.run config).run (d, c)
      = (.error (.outputDir config.resultsDir fault), d₂, c) := by
  rw [Services.run, Attempt.run_bind_ok (run_discover hcases c),
    Attempt.run_bind_ok (run_ensureDir hexpected c),
    Attempt.run_bind_error (run_ensureDir hresults c)]

theorem run_of_cases
    (hcases : TestCase.discover config.testDir (b.list d config.testDir) = .ok cases)
    (hexpected : b.makeDirs [] config.expectedDir.components d = (.ok (), d₁))
    (hresults : b.makeDirs [] config.resultsDir.components d₁ = (.ok (), d₂))
    (hrun : (b.builtinServices.runCases config cases).run (d₂, c) = (r, d₃, c')) :
    (b.builtinServices.run config).run (d, c) = (r, d₃, c') := by
  rw [Services.run, Attempt.run_bind_ok (run_discover hcases c),
    Attempt.run_bind_ok (run_ensureDir hexpected c), Attempt.run_bind_ok (run_ensureDir hresults c)]
  -- the start of a run is reported without a text
  have hstart : c.report (.runStart cases.length) = (c, .ok ()) := rfl
  rw [Attempt.run_bind_ok (run_announce_eq hstart d₂)]
  rcases r with e | results
  · exact Attempt.run_bind_error hrun
  · exact Attempt.run_bind_ok hrun

end Run

variable (b) in
/-- A run stores something under a key under which nothing was stored. -/
def Creates (config : Config) (d : Disk) (c : Console) (k : Key) : Prop :=
  k ∈ (b.run config d c).2.1.keys ∧ k ∉ d.keys

/-- Only a directory gives cases. -/
theorem dir_of_discover {cases : List TestCase}
    (h : TestCase.discover dir (b.list d dir) = .ok cases) : d.get? dir.components = some .dir := by
  rcases hnames : (b.list d dir).names with fault | names
  · rw [TestCase.discover_error hnames] at h
    cases h
  · exact (list_eq_ok_iff.mp (Listing.names_eq_ok_iff.mp hnames)).2.1

/-- **The same cases are found** on a disk to which nothing was added in the test directory. -/
theorem discover_again {cases : List TestCase} (hext : Extends d d')
    (hnew : ∀ k, k ∈ d'.keys ∧ k ∉ d.keys → k.dropLast ≠ dir.components)
    (h : TestCase.discover dir (b.list d dir) = .ok cases) :
    TestCase.discover dir (b.list d' dir) = .ok cases := by
  have hdir := dir_of_discover h
  have hlist : b.list d' dir = b.list d dir := by
    rw [list, list, hdir, hext.dir hdir, hext.grows.names_eq fun k hk hk' => hnew k ⟨hk, hk'⟩]
  rw [hlist, h]

/-- **A run can be made again.** Let a run compare by this library's own means and create no entry
of the test directory. Then the same run from the disk that it leaves, with the same console, has
the same results or the same error, puts the same on the console, and leaves the disk exactly as it
is. -/
theorem run_again (b : Bench) {config : Config} (hdiff : config.diff = .builtin) (d : Disk)
    (c : Console) (hnew : ∀ k, b.Creates config d c k → k.dropLast ≠ config.testDir.components) :
    b.run config (b.run config d c).2.1 c = b.run config d c := by
  have hrun (d : Disk) : b.run config d c = (b.builtinServices.run config).run (d, c) := by
    rw [Bench.run, Surroundings.run, hdiff]
  simp only [Creates, hrun] at hnew ⊢
  rcases hcases : TestCase.discover config.testDir (b.list d config.testDir) with e | cases
  · simp only [run_of_unlisted hcases]
  rcases hexpected : b.makeDirs [] config.expectedDir.components d with ⟨fault | ⟨⟩, d₁⟩
  · simp only [run_of_noExpectedDir hcases hexpected] at hnew ⊢
    exact run_of_noExpectedDir (discover_again (extends_makeDirs hexpected) hnew hcases)
      (makeDirs_again hexpected)
  rcases hresults : b.makeDirs [] config.resultsDir.components d₁ with ⟨made, d₂⟩
  have hext₁ := extends_makeDirs hexpected
  have hext₂ := extends_makeDirs hresults
  rcases made with fault | ⟨⟩
  · simp only [run_of_noResultsDir hcases hexpected hresults] at hnew ⊢
    exact run_of_noResultsDir (discover_again (hext₁.trans hext₂) hnew hcases)
      (makeDirs_of_extends hexpected hext₂) (makeDirs_again hresults)
  -- the disk that the cases leave is half way, and all the way, to itself
  obtain ⟨r, w, c', -, hdirs, hrunCases⟩ := runCases_again (b := b) hdiff config.testDir
    (fun name h => d.plain_of_mem_names ((Name.perm_inOrder _).mem_iff.mp h))
    (Name.ascending_inOrder _) d₂ c
  rw [← names_of_discover hcases] at hrunCases
  have hext₃ := hdirs.extends_puts
  have hagain := hrunCases _ (Disk.halfway_puts w d₂)
  rw [Disk.puts_puts] at hagain
  simp only [run_of_cases hcases hexpected hresults (hrunCases d₂ (Halfway.refl w d₂))] at hnew ⊢
  exact run_of_cases (discover_again ((hext₁.trans hext₂).trans hext₃) hnew hcases)
    (makeDirs_of_extends hexpected (hext₂.trans hext₃)) (makeDirs_of_extends hresults hext₃) hagain

/-- What a run over an old output leaves: that output is replaced, and what was missing comes last.
A second run leaves the same. -/
theorem run_again_leftover :
    let config := (Config.ofDir ⟨[0x74]⟩).applyAll [.diff .builtin]
    let results := Path.Component.entry (Utf8.encode "results")
    let expected := Path.Component.entry (Utf8.encode "expected")
    let output := Path.Component.entry (0x61 :: Utf8.encode ".out")
    (copying.run config leftover {}).2.1 = ⟨[([.entry [0x74]], .dir),
        ([.entry [0x74], .entry [0x61]], .file [0x78]), ([results], .dir),
        ([results, output], .file [0x78]), ([expected], .dir),
        ([expected, output], .file [0x78])]⟩ ∧
      copying.run config (copying.run config leftover {}).2.1 {}
        = copying.run config leftover {} := by
  intro config results expected output
  have hafter : (copying.run config leftover {}).2.1 = ⟨[([.entry [0x74]], .dir),
      ([.entry [0x74], .entry [0x61]], .file [0x78]), ([results], .dir),
      ([results, output], .file [0x78]), ([expected], .dir),
      ([expected, output], .file [0x78])]⟩ := by cbv
  refine ⟨hafter, run_again copying rfl leftover {} fun k hk => ?_⟩
  -- the new keys are the missing directory and the output in it
  rw [Creates, hafter] at hk
  obtain ⟨hkey, hfresh⟩ := hk
  revert k
  decide

end Bench

end Tandem
