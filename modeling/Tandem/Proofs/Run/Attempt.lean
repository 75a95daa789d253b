import Tandem.Run

/-!
# The attempts that a run is made of

A run is written in a monad that passes a state along and may end with an error. An attempt that is
followed by another goes on from the state that the first leaves, unless the first ended the run
(`Attempt.run_bind_ok`, `Attempt.run_bind_error`).

One case falls into two parts: its programs are run, and then it is judged by how they exited
(`Services.runCase_eq`, `Services.judge`).
-/

namespace Tandem

namespace Attempt

variable {σ α β : Type} {m : Attempt σ α} {f : α → Attempt σ β} {w w' : σ}

theorem run_pure (a : α) (w : σ) : (pure a : Attempt σ α).run w = (.ok a, w) := rfl

/-- A computation that cannot end a run. -/
theorem run_lift (x : StateM σ α) (w : σ) :
    (liftM x : Attempt σ α).run w = (.ok (x w).1, (x w).2) := rfl

private theorem bind_apply {α β : Type} (x : StateM σ α) (g : α → StateM σ β) (w : σ) :
    (x >>= g) w = g (x w).1 (x w).2 := rfl

theorem run_bind_ok {a : α} (h : m.run w = (.ok a, w')) : (m >>= f).run w = (f a).run w' := by
  rw [ExceptT.run_bind, bind_apply, h]

theorem run_bind_error {e : RunError} (h : m.run w = (.error e, w')) :
    (m >>= f).run w = (.error e, w') := by
  rw [ExceptT.run_bind, bind_apply, h]
  rfl

/-- An attempt followed by another gives a value only if both do. -/
theorem of_run_bind_ok {b : β} (h : (m >>= f).run w = (.ok b, w')) :
    ∃ a w₁, m.run w = (.ok a, w₁) ∧ (f a).run w₁ = (.ok b, w') := by
  rcases hm : m.run w with ⟨e | a, w₁⟩
  · rw [run_bind_error hm] at h
    cases h
  · exact ⟨a, w₁, rfl, by rwa [run_bind_ok hm] at h⟩

end Attempt

namespace Services

variable {σ : Type} (s : Services σ) (config : Config) (case : TestCase)
  {reference candidate : RunStatus}

/-- What a run does with a case once its programs have exited. -/
def judge (reference candidate : RunStatus) : Attempt σ CaseResult := do
  if reference.success && candidate.success then
    s.announce (.banner case)
    let verdict ← ExceptT.mk
      (s.compare (case.outputIn config.expectedDir) (case.outputIn config.resultsDir))
    s.announce (.diffed case verdict)
    return ⟨case, reference, candidate, some verdict⟩
  else
    s.announce (.failed case config.reference reference config.candidate candidate)
    return ⟨case, reference, candidate, none⟩

/-- A case has its programs run, one after the other, and is judged. -/
theorem runCase_eq : s.runCase config case = (do
    s.note (.runningReference case)
    let reference ← s.launch config.reference case.path (case.outputIn config.expectedDir)
    s.note (.runningCandidate case)
    let candidate ← s.launch config.candidate case.path (case.outputIn config.resultsDir)
    s.judge config case reference candidate) :=
  rfl

/-- Outputs are compared if both programs exited with zero. -/
theorem judge_of_succeeded (h : reference.code = 0 ∧ candidate.code = 0) :
    s.judge config case reference candidate = (do
      s.announce (.banner case)
      let verdict ← ExceptT.mk
        (s.compare (case.outputIn config.expectedDir) (case.outputIn config.resultsDir))
      s.announce (.diffed case verdict)
      return ⟨case, reference, candidate, some verdict⟩) :=
  if_pos (by simpa [RunStatus.success] using h)

/-- Otherwise the failure is reported. -/
theorem judge_of_failed (h : ¬ (reference.code = 0 ∧ candidate.code = 0)) :
    s.judge config case reference candidate = (do
      s.announce (.failed case config.reference reference config.candidate candidate)
      return ⟨case, reference, candidate, none⟩) :=
  if_neg (by simpa [RunStatus.success] using h)

/-- **What a result says of its case**: with what its programs exited, and that there is no verdict just
if one of them did not exit with zero. -/
theorem runCase_ok {s : Services σ} {config : Config} {case : TestCase} {r : CaseResult} {w w' : σ}
    (h : (s.runCase config case).run w = (.ok r, w')) :
    r.case = case ∧
    (∃ v, (s.launch config.reference case.path (case.outputIn config.expectedDir) v).1
      = r.reference) ∧
    (∃ v, (s.launch config.candidate case.path (case.outputIn config.resultsDir) v).1
      = r.candidate) ∧
    (r.verdict = none ↔ ¬ (r.reference.code = 0 ∧ r.candidate.code = 0)) := by
  rw [runCase_eq] at h
  obtain ⟨_, w₁, -, h⟩ := Attempt.of_run_bind_ok h
  obtain ⟨reference, _, hreference, h⟩ := Attempt.of_run_bind_ok h
  obtain ⟨_, w₂, -, h⟩ := Attempt.of_run_bind_ok h
  obtain ⟨candidate, _, hcandidate, h⟩ := Attempt.of_run_bind_ok h
  have hstatus : (s.launch config.reference case.path (case.outputIn config.expectedDir) w₁).1
      = reference := Except.ok.inj (congrArg Prod.fst hreference)
  have hstatus' : (s.launch config.candidate case.path (case.outputIn config.resultsDir) w₂).1
      = candidate := Except.ok.inj (congrArg Prod.fst hcandidate)
  by_cases hcodes : reference.code = 0 ∧ candidate.code = 0
  · rw [judge_of_succeeded _ _ _ hcodes] at h
    obtain ⟨_, _, -, h⟩ := Attempt.of_run_bind_ok h
    obtain ⟨verdict, _, -, h⟩ := Attempt.of_run_bind_ok h
    obtain ⟨_, _, -, h⟩ := Attempt.of_run_bind_ok h
    cases h
    exact ⟨rfl, ⟨w₁, hstatus⟩, ⟨w₂, hstatus'⟩, by simp [hcodes]⟩
  · rw [judge_of_failed _ _ _ hcodes] at h
    obtain ⟨_, _, -, h⟩ := Attempt.of_run_bind_ok h
    cases h
    exact ⟨rfl, ⟨w₁, hstatus⟩, ⟨w₂, hstatus'⟩, by simp [hcodes]⟩

end Services

end Tandem
