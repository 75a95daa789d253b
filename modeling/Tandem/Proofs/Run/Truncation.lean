import Tandem.Proofs.Run.Attempt
import Tandem.Proofs.Run.Scene

/-!
# Runs on a console that is too small

Let the world besides the console be the same, and let the console flush without failing. Then a run
with a console that accepts `limit` bytes leaves the first `limit` bytes of what the run puts on a
console without a limit, and it ends the same way if these are all, and with a fault of the console
if they are not (`Surroundings.run_truncates`).

`Prints` says of an attempt that, told from any console, it offers a text and has a result, which
counts if the text is accepted. An attempt that follows another one offers its text after the text of
the first (`Prints.bind`), so all that has to be known of a console is that writing goes on where it
stopped (`Console.write_append`).
-/

namespace Tandem

variable {ω α β : Type}

/-- The attempt `m`, made in the world `w`, offers `text` to the console. If all of it is accepted, it
has the result `r` and leaves the world `w'`; otherwise the console ends the run. -/
structure Prints (m : Attempt (ω × Console) α) (w : ω) (text : Bytes) (r : Except RunError α)
    (w' : ω) : Prop where
  run_eq : ∀ {c c' : Console}, c.flushFails = false → c.write text = (c', .ok ()) →
    m.run (w, c) = (r, w', c')
  run_error : ∀ {c c' : Console} {fault : Fault}, c.flushFails = false →
    c.write text = (c', .error fault) → ∃ w'', m.run (w, c) = (.error (.console fault), w'', c')

namespace Prints

variable {m : Attempt (ω × Console) α} {f : α → Attempt (ω × Console) β} {w w₁ w₂ : ω}
  {text text' : Bytes} {a : α} {r : Except RunError β}

/-- An attempt that leaves the console alone. -/
theorem silent {m : Attempt (ω × Console) α} {r : Except RunError α}
    (h : ∀ c, m.run (w, c) = (r, w₁, c)) : Prints m w [] r w₁ where
  run_eq {c c'} _ hw := by
    rw [Console.write_nil] at hw
    cases hw
    exact h c
  run_error {c c' fault} _ hw := by
    rw [Console.write_nil] at hw
    cases hw

theorem pure (a : α) (w : ω) : Prints (Pure.pure a) w [] (.ok a) w :=
  silent fun _ => rfl

/-- **Texts of attempts that follow one another follow one another.** -/
theorem bind (hm : Prints m w text (.ok a) w₁) (hf : Prints (f a) w₁ text' r w₂) :
    Prints (m >>= f) w (text ++ text') r w₂ where
  run_eq {c c'} hflush hw := by
    rw [Console.write_append] at hw
    rcases hfirst : c.write text with ⟨c₁, fault | ⟨⟩⟩
    · rw [hfirst] at hw
      cases hw
    · rw [hfirst] at hw
      rw [Attempt.run_bind_ok (hm.run_eq hflush hfirst)]
      exact hf.run_eq (Console.flushFails_of_write hfirst ▸ hflush) hw
  run_error {c c' fault} hflush hw := by
    rw [Console.write_append] at hw
    rcases hfirst : c.write text with ⟨c₁, fault' | ⟨⟩⟩
    · rw [hfirst] at hw
      cases hw
      obtain ⟨w', hrun⟩ := hm.run_error hflush hfirst
      exact ⟨w', Attempt.run_bind_error hrun⟩
    · rw [hfirst] at hw
      rw [Attempt.run_bind_ok (hm.run_eq hflush hfirst)]
      exact hf.run_error (Console.flushFails_of_write hfirst ▸ hflush) hw

/-- An attempt that offers nothing adds nothing to the text of the next. -/
theorem bind_silent (hm : Prints m w [] (.ok a) w₁) (hf : Prints (f a) w₁ text r w₂) :
    Prints (m >>= f) w text r w₂ :=
  bind hm hf

/-- After an error nothing more is offered. -/
theorem bind_error {e : RunError} (hm : Prints m w text (.error e) w₁) :
    Prints (m >>= f) w text (.error e) w₁ where
  run_eq hflush hw := Attempt.run_bind_error (hm.run_eq hflush hw)
  run_error hflush hw := by
    obtain ⟨w', hrun⟩ := hm.run_error hflush hw
    exact ⟨w', Attempt.run_bind_error hrun⟩

end Prints

/-! ### The parts of a run -/

section Parts

variable (k : Surroundings ω) (config : Config) {case : TestCase} {cases : List TestCase}
  {w w₁ w' : ω} {reference candidate : RunStatus} {differences text : Bytes} {verdict : Verdict}
  {e : RunError} {result : Except RunError CaseResult} {r : Except RunError (List CaseResult)}

theorem prints_note (n : Note) (w : ω) :
    Prints (liftM ((k.services config.diff).note n)) w [] (.ok ()) w :=
  Prints.silent fun _ => rfl

theorem prints_announce (e : Event) (w : ω) :
    Prints ((k.services config.diff).announce e) w e.text (.ok ()) w where
  run_eq {c c'} hflush hw := by
    rw [Surroundings.run_announce, Console.report_eq hflush, hw]
    rfl
  run_error {c c' fault} hflush hw := by
    rw [Surroundings.run_announce, Console.report_eq hflush, hw]
    exact ⟨w, rfl⟩

theorem prints_compare {expected actual : Path} {finding : Differ.Finding}
    (h : k.find config.diff expected actual w = (finding, w')) :
    Prints (ExceptT.mk ((k.services config.diff).compare expected actual)) w finding.differences
      finding.result w' where
  run_eq {c c'} _ hw := by
    have htell : finding.tell c = (c', finding.result) := by rw [Differ.Finding.tell, hw]
    exact (k.compare_eq_tell h c).trans (by rw [htell])
  run_error {c c' fault} _ hw := by
    have htell : finding.tell c = (c', .error (.console fault)) := by rw [Differ.Finding.tell, hw]
    exact ⟨w', (k.compare_eq_tell h c).trans (by rw [htell])⟩

/-- While its programs run, a case offers nothing. -/
theorem prints_runCase (h : Launches k config case w reference candidate w₁)
    (hjudge : Prints ((k.services config.diff).judge config case reference candidate) w₁ text
      result w') :
    Prints ((k.services config.diff).runCase config case) w text result w' where
  run_eq {c c'} hflush hw := (Surroundings.run_runCase h c).trans (hjudge.run_eq hflush hw)
  run_error {c c' fault} hflush hw := by
    rw [Surroundings.run_runCase h c]
    exact hjudge.run_error hflush hw

/-- A program failed: the case offers one line. -/
theorem prints_failed (hcodes : ¬ (reference.code = 0 ∧ candidate.code = 0)) (w : ω) :
    Prints ((k.services config.diff).judge config case reference candidate) w
      (Scene.failed case config.reference reference config.candidate candidate).text
      (.ok ⟨case, reference, candidate, none⟩) w := by
  rw [Services.judge_of_failed _ _ _ hcodes]
  rw [Scene.text, ← Event.text_failed, ← List.append_nil (Event.text _)]
  exact Prints.bind (prints_announce k config _ w) (Prints.pure _ w)

/-- The outputs were compared: the case offers the differences between a banner and two line ends. -/
theorem prints_compared (hcodes : reference.code = 0 ∧ candidate.code = 0)
    (hfind : k.find config.diff (case.outputIn config.expectedDir)
      (case.outputIn config.resultsDir) w = (⟨differences, .ok verdict⟩, w')) :
    Prints ((k.services config.diff).judge config case reference candidate) w
      (Scene.compared case differences verdict).text
      (.ok ⟨case, reference, candidate, some verdict⟩) w' := by
  rw [Services.judge_of_succeeded _ _ _ hcodes]
  have htext : (Scene.compared case differences verdict).text = (Event.banner case).text ++
      (differences ++ ((Event.diffed case verdict).text ++ [])) := by
    simp [Scene.text, Event.text_banner, Event.text_diffed]
  rw [htext]
  refine Prints.bind (prints_announce k config (.banner case) w) ?_
  refine Prints.bind (prints_compare k config hfind) ?_
  exact Prints.bind (prints_announce k config (.diffed case verdict) w') (Prints.pure _ w')

/-- The comparison failed: nothing is offered after the differences. -/
theorem prints_brokenOff (hcodes : reference.code = 0 ∧ candidate.code = 0)
    (hfind : k.find config.diff (case.outputIn config.expectedDir)
      (case.outputIn config.resultsDir) w = (⟨differences, .error e⟩, w')) :
    Prints ((k.services config.diff).judge config case reference candidate) w
      (Scene.brokenOff case differences).text (.error e) w' := by
  rw [Services.judge_of_succeeded _ _ _ hcodes, Scene.text, ← Event.text_banner]
  exact Prints.bind (prints_announce k config (.banner case) w)
    (Prints.bind_error (prints_compare k config hfind))

/-- The result of a case is followed by those of the others, if they have any. -/
theorem prints_cons {text' : Bytes} {result : CaseResult} {w₂ : ω}
    (hcase : Prints ((k.services config.diff).runCase config case) w text (.ok result) w₁)
    (hcases : Prints ((k.services config.diff).runCases config cases) w₁ text' r w₂) :
    Prints ((k.services config.diff).runCases config (case :: cases)) w (text ++ text')
      (r.map (result :: ·)) w₂ := by
  refine Prints.bind hcase ?_
  rcases r with e | results
  · exact Prints.bind_error hcases
  · rw [← List.append_nil text']
    exact Prints.bind hcases (Prints.pure _ w₂)

/-- **The cases play their scenes**, and offer the texts of these in order. -/
theorem prints_runCases (cases : List TestCase) (w : ω) :
    ∃ scenes r w', Plays k config cases w scenes r w' ∧
      Prints ((k.services config.diff).runCases config cases) w (scenes.flatMap Scene.text) r w' := by
  induction cases generalizing w with
  | nil => exact ⟨[], .ok [], w, .done w, Prints.pure [] w⟩
  | cons case cases ih =>
    rcases hreference : k.launch config.reference case.path (case.outputIn config.expectedDir) w
      with ⟨reference, between⟩
    rcases hcandidate : k.launch config.candidate case.path (case.outputIn config.resultsDir) between
      with ⟨candidate, w₁⟩
    have hlaunches : Launches k config case w reference candidate w₁ :=
      ⟨between, hreference, hcandidate⟩
    by_cases hcodes : reference.code = 0 ∧ candidate.code = 0
    · rcases hfind : k.find config.diff (case.outputIn config.expectedDir)
        (case.outputIn config.resultsDir) w₁ with ⟨⟨differences, e | verdict⟩, w₂⟩
      · -- the comparison failed, and the other cases do not get their turns
        refine ⟨[.brokenOff case differences], .error e, w₂, .brokenOff hlaunches hcodes hfind, ?_⟩
        rw [List.flatMap_singleton]
        exact Prints.bind_error
          (prints_runCase k config hlaunches (prints_brokenOff k config hcodes hfind))
      · obtain ⟨scenes, r, w', hplays, hprints⟩ := ih w₂
        exact ⟨_, _, w', .compared hlaunches hcodes hfind hplays, prints_cons k config
          (prints_runCase k config hlaunches (prints_compared k config hcodes hfind)) hprints⟩
    · obtain ⟨scenes, r, w', hplays, hprints⟩ := ih w₁
      exact ⟨_, _, w', .failed hlaunches hcodes hplays, prints_cons k config
        (prints_runCase k config hlaunches (prints_failed k config hcodes w₁)) hprints⟩

theorem prints_list {dir : Path} {listing : Listing} (h : k.list dir w = (listing, w')) :
    Prints (ExceptT.mk (TestCase.discover dir <$> (k.services config.diff).list dir)) w []
      (TestCase.discover dir listing) w' := by
  refine Prints.silent fun c => ?_
  have hrun : (ExceptT.mk (TestCase.discover dir <$> (k.services config.diff).list dir)).run (w, c)
      = (TestCase.discover dir (k.list dir w).1, (k.list dir w).2, c) := rfl
  rw [hrun, h]

theorem prints_discover {dir : Path} {listing : Listing} (h : k.list dir w = (listing, w')) :
    Prints ((k.services config.diff).discover dir) w [] (TestCase.discover dir listing) w' := by
  have hlist := prints_list k config h
  rcases hcases : TestCase.discover dir listing with e | cases
  · rw [hcases] at hlist
    exact Prints.bind_error hlist
  · rw [hcases] at hlist
    exact Prints.bind_silent hlist
      (Prints.bind_silent (prints_note k config _ w') (Prints.pure cases w'))

theorem prints_ensureDir {dir : Path} {made : Except Fault Unit} (h : k.makeDir dir w = (made, w')) :
    Prints ((k.services config.diff).ensureDir dir) w [] (made.mapError (.outputDir dir)) w' := by
  refine Prints.silent fun c => ?_
  have hrun : ((k.services config.diff).ensureDir dir).run (w, c)
      = ((k.makeDir dir w).1.mapError (.outputDir dir), (k.makeDir dir w).2, c) := rfl
  rw [hrun, h]

/-- **A run performs its scenes**, and offers the texts of these in order and nothing else. -/
theorem prints_run (w : ω) :
    ∃ scenes r w', Performs k config w scenes r w' ∧
      Prints ((k.services config.diff).run config) w (scenes.flatMap Scene.text) r w' := by
  rcases hlist : k.list config.testDir w with ⟨listing, w₁⟩
  have hdiscover := prints_discover k config hlist
  rcases hcases : TestCase.discover config.testDir listing with e | cases
  · rw [hcases] at hdiscover
    exact ⟨[], .error e, w₁, .unlisted hlist hcases, Prints.bind_error hdiscover⟩
  rw [hcases] at hdiscover
  rcases hexpected : k.makeDir config.expectedDir w₁ with ⟨fault | ⟨⟩, w₂⟩
  · exact ⟨[], _, w₂, .noExpectedDir hlist hcases hexpected, Prints.bind_silent hdiscover
      (Prints.bind_error (prints_ensureDir k config hexpected))⟩
  rcases hresults : k.makeDir config.resultsDir w₂ with ⟨fault | ⟨⟩, w₃⟩
  · exact ⟨[], _, w₃, .noResultsDir hlist hcases hexpected hresults, Prints.bind_silent hdiscover
      (Prints.bind_silent (prints_ensureDir k config hexpected)
        (Prints.bind_error (prints_ensureDir k config hresults)))⟩
  obtain ⟨scenes, r, w', hplays, hprints⟩ := prints_runCases k config cases w₃
  refine ⟨scenes, r, w', .cases hlist hcases hexpected hresults hplays, ?_⟩
  refine Prints.bind_silent hdiscover ?_
  refine Prints.bind_silent (prints_ensureDir k config hexpected) ?_
  refine Prints.bind_silent (prints_ensureDir k config hresults) ?_
  -- the start of a run is reported without a text
  refine Prints.bind_silent (prints_announce k config (.runStart cases.length) w₃) ?_
  rcases r with e | results
  · exact Prints.bind_error hprints
  · rw [← List.append_nil (scenes.flatMap _)]
    exact Prints.bind hprints
      (Prints.bind_silent (prints_note k config _ w') (Prints.pure results w'))

end Parts

/-! ### The law -/

/-- **The law of truncation.** What a run puts on a console without a limit is the text of its scenes,
in order. On a console that accepts `limit` bytes, whichever way it refuses more, the same run leaves
the first `limit` bytes of that. If these are all, the run has the same result, and otherwise it ends
with a fault of the console. -/
theorem Surroundings.run_truncates (k : Surroundings ω) (config : Config) (w : ω) :
    ∃ scenes r w',
      Performs k config w scenes r w' ∧
      k.run config w {} = (r, w', { accepted := scenes.flatMap Scene.text }) ∧
      ∀ (limit : ℕ) (whenFull : WhenFull),
        (k.run config w { limit, whenFull }).2.2.accepted
          = (scenes.flatMap Scene.text).take limit ∧
        if (scenes.flatMap Scene.text).length ≤ limit then
          (k.run config w { limit, whenFull }).1 = r
        else
          ∃ fault, (k.run config w { limit, whenFull }).1
            = .error (.io (Path.ofString "<console>") fault) := by
  obtain ⟨scenes, r, w', hperforms, hprints⟩ := prints_run k config w
  refine ⟨scenes, r, w', hperforms, hprints.run_eq rfl (Console.write_unlimited rfl _), ?_⟩
  intro limit whenFull
  have hroom : limit - ([] : Bytes).length = limit := Nat.sub_zero limit
  split
  · rename_i hle
    have hrun := hprints.run_eq (c := { limit, whenFull }) rfl
      (Console.write_of_le rfl (by rwa [hroom]))
    rw [Surroundings.run, hrun]
    exact ⟨(List.take_of_length_le hle).symm, rfl⟩
  · rename_i hlt
    obtain ⟨w'', hrun⟩ := hprints.run_error (c := { limit, whenFull }) rfl
      (Console.write_of_lt rfl (by rw [hroom]; omega))
    rw [Surroundings.run, hrun]
    exact ⟨rfl, _, rfl⟩

end Tandem
