import Mathlib.Tactic
import Tandem.Process
import Tandem.Proofs.Run.Attempt

/-!
# How running a program counts

Running a program between two files asks the operating system up to four things, one after the other,
and gives up as soon as one of them fails. `Course` says in which ways this can go: what is asked and
answered, which status comes of it, and in which state the system is left. A platform that keeps a log
(`Platform.recorded`) shows that every run takes one of these ways (`Platform.run_course`).

What the status of a run says is read off its course. It is a number from 0 to 255, and it is 0 only if
nothing failed and the program exited with zero (`Platform.status_sound`): failures before the program
starts, signals and whatever else the system reports have other numbers. So to ask whether one of two
statuses is no success and to ask whether their sum is positive is the same.
-/

namespace Tandem

/-! ### Statuses -/

namespace WaitStatus

variable {s : WaitStatus} {n : ℕ}

theorem low_le (s : WaitStatus) : s.low ≤ 0x7F := by
  rw [low, UInt32.toNat_and]
  exact Nat.and_le_right

/-- An exit code is one byte. -/
theorem exitCode?_le (h : s.exitCode? = some n) : n ≤ 255 := by
  rw [exitCode?] at h
  split at h
  · cases h
    rw [UInt32.toNat_and]
    exact Nat.and_le_right
  · cases h

/-- A mask further up takes the same bits of a number as the mask does of the number moved down. -/
private theorem and_shiftLeft (n m k : ℕ) : n &&& (m <<< k) = ((n >>> k) &&& m) <<< k := by
  refine Nat.eq_of_testBit_eq fun i => ?_
  rw [Nat.testBit_and, Nat.testBit_shiftLeft, Nat.testBit_shiftLeft, Nat.testBit_and,
    Nat.testBit_shiftRight]
  by_cases h : k ≤ i
  · simp [h]
  · simp [h]

/-- **To exit with zero**, read off the word itself: the bits of the signal and those of the exit code
are all zero. -/
theorem exitCode?_eq_some_zero_iff (s : WaitStatus) :
    s.exitCode? = some 0 ↔ s.raw &&& 0xFF7F = 0 := by
  have hmask : s.raw.toNat &&& 0xFF7F
      = ((s.raw.toNat >>> 8) &&& 0xFF) <<< 8 ||| (s.raw.toNat &&& 0x7F) := by
    rw [show 0xFF7F = 0xFF <<< 8 ||| 0x7F from rfl, Nat.and_or_distrib_left, and_shiftLeft]
  have hword : s.raw &&& 0xFF7F = 0 ↔ s.raw.toNat &&& 0xFF7F = 0 := by
    rw [← UInt32.toNat_inj, UInt32.toNat_and]
    rfl
  rw [hword, hmask, Nat.or_eq_zero_iff, Nat.shiftLeft_eq_zero_iff]
  have hlow : s.low = s.raw.toNat &&& 0x7F := UInt32.toNat_and s.raw 0x7F
  have hcode : ((s.raw >>> 8) &&& 0xFF).toNat = (s.raw.toNat >>> 8) &&& 0xFF := by
    rw [UInt32.toNat_and, UInt32.toNat_shiftRight]
    rfl
  rw [exitCode?, hlow, hcode]
  split
  · next h => simp [h]
  · next h => simp [h]

/-- The number of a signal is neither that of an exit nor that of a stop. -/
theorem signal?_bounds (h : s.signal? = some n) : 1 ≤ n ∧ n ≤ 126 := by
  have hle := s.low_le
  rw [signal?] at h
  split at h
  · cases h
  · next hlow =>
    cases h
    simp only [Bool.or_eq_true, decide_eq_true_eq, not_or] at hlow
    omega

end WaitStatus

namespace RunStatus

/-- A run counts as a success only if the program exited with zero. -/
theorem code_ofWait_eq_zero_iff (s : WaitStatus) :
    (RunStatus.ofWait s).code = 0 ↔ s.exitCode? = some 0 := by
  rcases hexit : s.exitCode? with _ | code
  · rcases hsignal : s.signal? with _ | signal
    · simp [ofWait, hexit, hsignal, notExecutable]
    · -- a signal counts from 128 on
      have hne : (128 + signal : ℤ) ≠ 0 := by omega
      simpa [ofWait, hexit, hsignal] using hne
  · simp [ofWait, hexit]

/-- No signal is so large that its status leaves the range. -/
theorem code_ofWait_bounds (s : WaitStatus) :
    0 ≤ (RunStatus.ofWait s).code ∧ (RunStatus.ofWait s).code ≤ 255 := by
  rcases hexit : s.exitCode? with _ | code
  · rcases hsignal : s.signal? with _ | signal
    · simp [ofWait, hexit, hsignal, notExecutable]
    · have hbounds := WaitStatus.signal?_bounds hsignal
      simp only [ofWait, hexit, hsignal]
      omega
  · have hle := WaitStatus.exitCode?_le hexit
    simp only [ofWait, hexit]
    omega

theorem code_ofStartFault_bounds (fault : Fault) :
    0 < (RunStatus.ofStartFault fault).code ∧ (RunStatus.ofStartFault fault).code ≤ 255 := by
  rw [ofStartFault]
  split <;> decide

end RunStatus

/-! ### Requests -/

namespace Platform

variable {σ η : Type}

/-- What is asked of a platform, with the answer to it. -/
inductive Request (η : Type) where
  | isDir (path : Path) (answer : Except Fault Bool)
  | openInput (path : Path) (answer : Except Fault η)
  | create (path : Path) (answer : Except Fault η)
  | start (command : Command) (input output : η) (answer : Except Fault WaitStatus)

/-- Asks for something and puts the request into the log. -/
def recording {α : Type} (x : StateM σ α) (request : α → Request η) :
    StateM (σ × List (Request η)) α :=
  fun (w, log) =>
    let (a, w) := x w
    (a, w, log ++ [request a])

/-- The platform with a log of all requests, the latest last. Notes are not put into it. -/
def recorded (p : Platform σ η) : Platform (σ × List (Request η)) η where
  isDir path := recording (p.isDir path) (.isDir path)
  openInput path := recording (p.openInput path) (.openInput path)
  create path := recording (p.create path) (.create path)
  start command input output := recording (p.start command input output) (.start command input output)
  note n := fun (w, log) => ((), (p.note n w).2, log)

/-- The log of a run. -/
def log (p : Platform σ η) (command : Command) (stdin stdout : Path) (w : σ) : List (Request η) :=
  (p.recorded.run command stdin stdout (w, [])).2.2

/-- The input could not be opened: there is none, it is a directory, or it was refused. -/
def InputFails (stdin : Path) (log : List (Request η)) : Prop :=
  (∃ fault, .isDir stdin (.error fault) ∈ log) ∨ .isDir stdin (.ok true) ∈ log ∨
    ∃ fault, .openInput stdin (.error fault) ∈ log

/-- The output could not be created. -/
def OutputFails (stdout : Path) (log : List (Request η)) : Prop :=
  ∃ fault, .create stdout (.error fault) ∈ log

/-- No file was created or emptied, and no program was started that could have written to one. -/
def Untouched (log : List (Request η)) : Prop :=
  (∀ path output, .create path (.ok output) ∉ log) ∧
    ∀ command input output answer, .start command input output answer ∉ log

/-- What is seen of the system is not changed by looking at a file, by opening it for reading, by
failing to create one, or by taking a note. -/
structure Keeps {β : Type} (p : Platform σ η) (view : σ → β) : Prop where
  isDir : ∀ {path w answer w'}, p.isDir path w = (answer, w') → view w' = view w
  openInput : ∀ {path w answer w'}, p.openInput path w = (answer, w') → view w' = view w
  create : ∀ {path w fault w'}, p.create path w = (.error fault, w') → view w' = view w
  note : ∀ n w, view (p.note n w).2 = view w

/-! ### Courses -/

/-- The ways in which opening an input can go, from the state `w` on: what is asked, what comes of it,
and the state after it. -/
inductive Opening (p : Platform σ η) (path : Path) (w : σ) :
    List (Request η) → Except Fault η → σ → Prop
  | missing {fault w'} : p.isDir path w = (.error fault, w') →
    Opening p path w [.isDir path (.error fault)] (.error fault) w'
  | directory {w'} : p.isDir path w = (.ok true, w') →
    Opening p path w [.isDir path (.ok true)] (.error .inputIsDir) w'
  | answered {w₁ r w'} : p.isDir path w = (.ok false, w₁) → p.openInput path w₁ = (r, w') →
    Opening p path w [.isDir path (.ok false), .openInput path r] r w'

/-- The ways in which running a command between two files can go, from the state `w` on: what is asked,
the status that comes of it, and the state after it. -/
inductive Course (p : Platform σ η) (command : Command) (stdin stdout : Path) (w : σ) :
    List (Request η) → RunStatus → σ → Prop
  | unopened {log fault w₁} : Opening p stdin w log (.error fault) w₁ →
    Course p command stdin stdout w log .redirectFailure (p.note (.inputNotOpened stdin fault) w₁).2
  | uncreated {log input fault w₁ w₂} : Opening p stdin w log (.ok input) w₁ →
    p.create stdout w₁ = (.error fault, w₂) →
    Course p command stdin stdout w (log ++ [.create stdout (.error fault)]) .redirectFailure
      (p.note (.outputNotCreated stdout fault) w₂).2
  | unstarted {log input output fault w₁ w₂ w₃} : Opening p stdin w log (.ok input) w₁ →
    p.create stdout w₁ = (.ok output, w₂) →
    p.start command input output w₂ = (.error fault, w₃) →
    Course p command stdin stdout w
      (log ++ [.create stdout (.ok output), .start command input output (.error fault)])
      (.ofStartFault fault)
      (p.note (.notStarted command fault (RunStatus.ofStartFault fault).code) w₃).2
  | ended {log input output ended w₁ w₂ w₃} : Opening p stdin w log (.ok input) w₁ →
    p.create stdout w₁ = (.ok output, w₂) →
    p.start command input output w₂ = (.ok ended, w₃) →
    Course p command stdin stdout w
      (log ++ [.create stdout (.ok output), .start command input output (.ok ended)])
      (.ofWait ended) w₃

variable (p : Platform σ η) (command : Command) (stdin stdout : Path)

private theorem bind_of {α β : Type} {x : StateM σ α} {f : α → StateM σ β} {w w' : σ} {a : α}
    (h : x w = (a, w')) : (x >>= f) w = f a w' := by
  show f (x w).1 (x w).2 = f a w'
  rw [h]

private theorem recording_of {α : Type} {x : StateM σ α} {w w' : σ} {a : α}
    (request : α → Request η) (h : x w = (a, w')) (log : List (Request η)) :
    recording x request (w, log) = (a, w', log ++ [request a]) := by
  rw [recording, h]

section Ways

variable {p} {stdin stdout} {input output : η} {fault : Fault} {w w₁ w₂ w₃ : σ}

theorem openFile_of_missing (h : p.isDir stdin w = (.error fault, w₁)) :
    p.openFile stdin w = (.error fault, w₁) := by
  rw [openFile, bind_of h]
  rfl

theorem openFile_of_directory (h : p.isDir stdin w = (.ok true, w₁)) :
    p.openFile stdin w = (.error .inputIsDir, w₁) := by
  rw [openFile, bind_of h]
  rfl

theorem openFile_of_answered {r : Except Fault η} (h : p.isDir stdin w = (.ok false, w₁))
    (hopen : p.openInput stdin w₁ = (r, w₂)) : p.openFile stdin w = (r, w₂) := by
  rw [openFile, bind_of h]
  exact hopen

theorem run_of_unopened (h : p.openFile stdin w = (.error fault, w₁)) :
    p.run command stdin stdout w
      = (.redirectFailure, (p.note (.inputNotOpened stdin fault) w₁).2) := by
  rw [run, bind_of h]
  rfl

theorem run_of_uncreated (h : p.openFile stdin w = (.ok input, w₁))
    (hcreate : p.create stdout w₁ = (.error fault, w₂)) :
    p.run command stdin stdout w
      = (.redirectFailure, (p.note (.outputNotCreated stdout fault) w₂).2) := by
  rw [run, bind_of h]
  exact bind_of hcreate

theorem run_of_unstarted (h : p.openFile stdin w = (.ok input, w₁))
    (hcreate : p.create stdout w₁ = (.ok output, w₂))
    (hstart : p.start command input output w₂ = (.error fault, w₃)) :
    p.run command stdin stdout w = (.ofStartFault fault,
      (p.note (.notStarted command fault (RunStatus.ofStartFault fault).code) w₃).2) := by
  rw [run, bind_of h]
  exact (bind_of hcreate).trans (bind_of hstart)

theorem run_of_ended {ended : WaitStatus} (h : p.openFile stdin w = (.ok input, w₁))
    (hcreate : p.create stdout w₁ = (.ok output, w₂))
    (hstart : p.start command input output w₂ = (.ok ended, w₃)) :
    p.run command stdin stdout w = (.ofWait ended, w₃) := by
  rw [run, bind_of h]
  exact (bind_of hcreate).trans (bind_of hstart)

end Ways

/-- Opening an input goes in one of these ways. -/
theorem openFile_opening (path : Path) (w : σ) (log : List (Request η)) :
    ∃ r w' new, p.openFile path w = (r, w') ∧
      p.recorded.openFile path (w, log) = (r, w', log ++ new) ∧ Opening p path w new r w' := by
  rcases hdir : p.isDir path w with ⟨fault | directory, w₁⟩ <;>
    have hdir' := recording_of (.isDir path) hdir log
  · exact ⟨_, _, _, openFile_of_missing hdir, openFile_of_missing hdir', .missing hdir⟩
  cases directory with
  | true => exact ⟨_, _, _, openFile_of_directory hdir, openFile_of_directory hdir', .directory hdir⟩
  | false =>
    rcases hopen : p.openInput path w₁ with ⟨r, w₂⟩
    have hopen' := recording_of (.openInput path) hopen (log ++ [.isDir path (.ok false)])
    rw [List.append_assoc] at hopen'
    exact ⟨_, _, _, openFile_of_answered hdir hopen, openFile_of_answered hdir' hopen',
      .answered hdir hopen⟩

/-- **Every run takes one of these courses**, and keeping a log changes nothing about it. -/
theorem run_course (w : σ) : ∃ status w' log,
    p.run command stdin stdout w = (status, w') ∧
      p.recorded.run command stdin stdout (w, []) = (status, w', log) ∧
      Course p command stdin stdout w log status w' := by
  obtain ⟨opened, w₁, log, hopened, hopened', hopening⟩ := openFile_opening p stdin w []
  rw [List.nil_append] at hopened'
  rcases opened with fault | input
  · exact ⟨_, _, _, run_of_unopened command hopened, run_of_unopened command hopened',
      .unopened hopening⟩
  rcases hcreate : p.create stdout w₁ with ⟨created, w₂⟩
  have hcreate' := recording_of (.create stdout) hcreate log
  rcases created with fault | output
  · exact ⟨_, _, _, run_of_uncreated command hopened hcreate,
      run_of_uncreated command hopened' hcreate', .uncreated hopening hcreate⟩
  rcases hstart : p.start command input output w₂ with ⟨started, w₃⟩
  have hstart' := recording_of (.start command input output) hstart
    (log ++ [.create stdout (.ok output)])
  rw [List.append_assoc] at hstart'
  rcases started with fault | ended
  · exact ⟨_, _, _, run_of_unstarted command hopened hcreate hstart,
      run_of_unstarted command hopened' hcreate' hstart', .unstarted hopening hcreate hstart⟩
  · exact ⟨_, _, _, run_of_ended command hopened hcreate hstart,
      run_of_ended command hopened' hcreate' hstart', .ended hopening hcreate hstart⟩

/-! ### What a status says -/

variable {p} {command} {stdin stdout} {log : List (Request η)} {w w' : σ}

namespace Opening

variable {r : Except Fault η} {input : η} {fault : Fault}

theorem log_eq_of_ok (h : Opening p stdin w log (.ok input) w') :
    log = [.isDir stdin (.ok false), .openInput stdin (.ok input)] := by
  cases h
  rfl

/-- Before an input is open, nothing has been created or started. -/
theorem of_error (h : Opening p stdin w log (.error fault) w') :
    InputFails stdin log ∧ Untouched log := by
  cases h <;> simp [InputFails, Untouched]

theorem keeps {β : Type} {view : σ → β} (hview : p.Keeps view) (h : Opening p stdin w log r w') :
    view w' = view w := by
  cases h with
  | missing hdir => exact hview.isDir hdir
  | directory hdir => exact hview.isDir hdir
  | answered hdir hopen => exact (hview.openInput hopen).trans (hview.isDir hdir)

end Opening

namespace Course

variable {status : RunStatus}

theorem code_bounds (h : Course p command stdin stdout w log status w') :
    0 ≤ status.code ∧ status.code ≤ 255 := by
  cases h with
  | unopened => decide
  | uncreated => decide
  | unstarted =>
    obtain ⟨hpos, hle⟩ := RunStatus.code_ofStartFault_bounds _
    exact ⟨hpos.le, hle⟩
  | ended => exact RunStatus.code_ofWait_bounds _

/-- **Zero means that everything went well**: the input was there and no directory, it was opened, the
output was created, and the program was started on the two and exited with zero. -/
theorem code_eq_zero_iff (h : Course p command stdin stdout w log status w') :
    status.code = 0 ↔ ∃ input output ended,
      log = [.isDir stdin (.ok false), .openInput stdin (.ok input), .create stdout (.ok output),
        .start command input output (.ok ended)] ∧ ended.exitCode? = some 0 := by
  cases h with
  | unopened hopening => cases hopening <;> simp [RunStatus.redirectFailure]
  | uncreated hopening => rw [hopening.log_eq_of_ok]; simp [RunStatus.redirectFailure]
  | @unstarted _ _ _ fault _ _ _ hopening =>
    rw [hopening.log_eq_of_ok]
    simpa using (RunStatus.code_ofStartFault_bounds fault).1.ne'
  | ended hopening =>
    rw [hopening.log_eq_of_ok, RunStatus.code_ofWait_eq_zero_iff]
    simp

/-- Files are left alone just when the input was not opened or the output not created. -/
theorem untouched_iff (h : Course p command stdin stdout w log status w') :
    Untouched log ↔ InputFails stdin log ∨ OutputFails stdout log := by
  cases h with
  | unopened hopening =>
    obtain ⟨hfails, huntouched⟩ := hopening.of_error
    exact iff_of_true huntouched (.inl hfails)
  | uncreated hopening =>
    rw [hopening.log_eq_of_ok]
    simp [Untouched, OutputFails]
  | unstarted hopening =>
    rw [hopening.log_eq_of_ok]
    simp [Untouched, InputFails, OutputFails]
  | ended hopening =>
    rw [hopening.log_eq_of_ok]
    simp [Untouched, InputFails, OutputFails]

/-- Otherwise the output has been created or emptied, whatever became of the program. -/
theorem created_iff (h : Course p command stdin stdout w log status w') :
    (∃ output, .create stdout (.ok output) ∈ log) ↔
      ¬ (InputFails stdin log ∨ OutputFails stdout log) := by
  cases h with
  | unopened hopening =>
    obtain ⟨hfails, huntouched⟩ := hopening.of_error
    exact iff_of_false (fun ⟨output, hcreated⟩ => huntouched.1 stdout output hcreated)
      (fun h => h (.inl hfails))
  | uncreated hopening =>
    rw [hopening.log_eq_of_ok]
    simp [OutputFails]
  | unstarted hopening =>
    rw [hopening.log_eq_of_ok]
    simp [InputFails, OutputFails]
  | ended hopening =>
    rw [hopening.log_eq_of_ok]
    simp [InputFails, OutputFails]

/-- Nothing else is created. -/
theorem created_path (h : Course p command stdin stdout w log status w') {path : Path}
    {answer : Except Fault η} (hcreate : .create path answer ∈ log) : path = stdout := by
  cases h with
  | unopened hopening => cases hopening <;> simp at hcreate
  | uncreated hopening =>
    rw [hopening.log_eq_of_ok] at hcreate
    obtain ⟨rfl, -⟩ : path = stdout ∧ answer = .error _ := by simpa using hcreate
    rfl
  | unstarted hopening =>
    rw [hopening.log_eq_of_ok] at hcreate
    obtain ⟨rfl, -⟩ : path = stdout ∧ answer = .ok _ := by simpa using hcreate
    rfl
  | ended hopening =>
    rw [hopening.log_eq_of_ok] at hcreate
    obtain ⟨rfl, -⟩ : path = stdout ∧ answer = .ok _ := by simpa using hcreate
    rfl

theorem keeps {β : Type} {view : σ → β} (hview : p.Keeps view)
    (h : Course p command stdin stdout w log status w')
    (hfails : InputFails stdin log ∨ OutputFails stdout log) : view w' = view w := by
  cases h with
  | unopened hopening => rw [hview.note, hopening.keeps hview]
  | uncreated hopening hcreate => rw [hview.note, hview.create hcreate, hopening.keeps hview]
  | unstarted hopening =>
    rw [hopening.log_eq_of_ok] at hfails
    simp [InputFails, OutputFails] at hfails
  | ended hopening =>
    rw [hopening.log_eq_of_ok] at hfails
    simp [InputFails, OutputFails] at hfails

end Course

/-- Keeping a log changes nothing about a run, whose course is in it. -/
theorem course_log (p : Platform σ η) (command : Command) (stdin stdout : Path) (w : σ) :
    p.recorded.run command stdin stdout (w, []) = ((p.run command stdin stdout w).1,
      (p.run command stdin stdout w).2, p.log command stdin stdout w) ∧
    Course p command stdin stdout w (p.log command stdin stdout w)
      (p.run command stdin stdout w).1 (p.run command stdin stdout w).2 := by
  obtain ⟨status, w', log, hrun, hrecorded, hcourse⟩ := run_course p command stdin stdout w
  rw [Platform.log, hrun, hrecorded]
  exact ⟨rfl, hcourse⟩

/-- Of two numbers that are not negative, one is not zero just if the sum is positive. -/
private theorem not_success_or_iff {r r' : RunStatus} (h : 0 ≤ r.code) (h' : 0 ≤ r'.code) :
    (!r.success || !r'.success) = true ↔ 0 < r.code + r'.code := by
  simp only [RunStatus.success, Bool.or_eq_true, Bool.not_eq_true', beq_eq_false_iff_ne]
  omega

/-- **No false success.** Whatever the operating system answers, the status of a run is from 0 to 255.
It is 0 just when the input is no directory and was opened, the output was created by this run, and the
program was started on the two and exited with zero, so that its word has neither a signal nor an exit
code. Nothing is created or started just when the input
could not be opened or the output not created, and then nothing is changed that such failures leave
alone; else the output was created or emptied. So of any two statuses one is no success just when their
sum is positive, and a case whose programs run like this is left without a verdict just when it is. -/
theorem status_sound (p : Platform σ η) (command : Command) (stdin stdout : Path) (w : σ) :
    p.recorded.run command stdin stdout (w, []) = ((p.run command stdin stdout w).1,
      (p.run command stdin stdout w).2, p.log command stdin stdout w) ∧
    (0 ≤ (p.run command stdin stdout w).1.code ∧ (p.run command stdin stdout w).1.code ≤ 255) ∧
    ((p.run command stdin stdout w).1.code = 0 ↔ ∃ input output ended,
      p.log command stdin stdout w = [.isDir stdin (.ok false), .openInput stdin (.ok input),
        .create stdout (.ok output), .start command input output (.ok ended)] ∧
      ended.raw &&& 0xFF7F = 0) ∧
    (Untouched (p.log command stdin stdout w) ↔
      InputFails stdin (p.log command stdin stdout w) ∨
        OutputFails stdout (p.log command stdin stdout w)) ∧
    ((∃ output, .create stdout (.ok output) ∈ p.log command stdin stdout w) ↔
      ¬ (InputFails stdin (p.log command stdin stdout w) ∨
        OutputFails stdout (p.log command stdin stdout w))) ∧
    (∀ {β : Type} {view : σ → β}, p.Keeps view →
      InputFails stdin (p.log command stdin stdout w) ∨
        OutputFails stdout (p.log command stdin stdout w) →
      view (p.run command stdin stdout w).2 = view w) ∧
    (∀ (command' : Command) (stdin' stdout' : Path) (w' : σ),
      (!(p.run command stdin stdout w).1.success ||
        !(p.run command' stdin' stdout' w').1.success) = true ↔
      0 < (p.run command stdin stdout w).1.code + (p.run command' stdin' stdout' w').1.code) ∧
    ∀ (s : Services σ) (config : Config) (case : TestCase) (r : CaseResult) (v v' : σ),
      s.launch = p.run → (s.runCase config case).run v = (.ok r, v') →
      (r.verdict = none ↔ 0 < r.reference.code + r.candidate.code) := by
  have hbounds (command : Command) (stdin stdout : Path) (w : σ) :
      0 ≤ (p.run command stdin stdout w).1.code ∧ (p.run command stdin stdout w).1.code ≤ 255 :=
    (course_log p command stdin stdout w).2.code_bounds
  obtain ⟨hrecorded, hcourse⟩ := course_log p command stdin stdout w
  have hzero := hcourse.code_eq_zero_iff
  simp only [WaitStatus.exitCode?_eq_some_zero_iff] at hzero
  refine ⟨hrecorded, hbounds _ _ _ _, hzero, hcourse.untouched_iff,
    hcourse.created_iff, fun hview => hcourse.keeps hview, fun command' stdin' stdout' w' => ?_,
    fun s config case r v v' hlaunch hrun => ?_⟩
  · exact not_success_or_iff (hbounds _ _ _ _).1 (hbounds _ _ _ _).1
  · obtain ⟨-, ⟨v₁, hreference⟩, ⟨v₂, hcandidate⟩, hverdict⟩ := Services.runCase_ok hrun
    rw [hlaunch] at hreference hcandidate
    have h := (hbounds config.reference case.path (case.outputIn config.expectedDir) v₁).1
    have h' := (hbounds config.candidate case.path (case.outputIn config.resultsDir) v₂).1
    rw [hreference] at h
    rw [hcandidate] at h'
    rw [hverdict]
    omega

/-- A platform with one output file, whose content is the state. Directories are spelled with a slash
at the end, and a signal ends every program before it writes. -/
def killing : Platform Bytes Unit where
  isDir path := pure (.ok path.endsInSlash)
  openInput _ := pure (.ok ())
  create _ := fun _ => (.ok (), [])
  start _ _ _ := pure (.ok (.signalled 9))
  note _ := pure ()

/-- With a directory as its input, a run keeps the output of an earlier one, and does not succeed. -/
theorem status_sound_directory :
    InputFails (Path.ofString "t/") (killing.log { program := Path.ofString "cat" }
      (Path.ofString "t/") (Path.ofString "o") [0x78]) ∧
    (killing.run { program := Path.ofString "cat" } (Path.ofString "t/") (Path.ofString "o")
      [0x78]).2 = [0x78] ∧
    0 < (killing.run { program := Path.ofString "cat" } (Path.ofString "t/") (Path.ofString "o")
        [0x78]).1.code
      + (killing.run { program := Path.ofString "cat" } (Path.ofString "t") (Path.ofString "o")
        [0x78]).1.code := by
  have hfails : InputFails (Path.ofString "t/") (killing.log { program := Path.ofString "cat" }
      (Path.ofString "t/") (Path.ofString "o") [0x78]) :=
    .inr (.inl (List.mem_singleton.mpr rfl))
  have hview : killing.Keeps id := {
    isDir := fun h => congrArg Prod.snd h.symm
    openInput := fun h => congrArg Prod.snd h.symm
    create := fun h => by cases congrArg Prod.fst h
    note := fun _ _ => rfl }
  obtain ⟨-, -, -, -, -, hkept, htest, -⟩ := status_sound killing { program := Path.ofString "cat" }
    (Path.ofString "t/") (Path.ofString "o") [0x78]
  exact ⟨hfails, hkept hview (.inl hfails), (htest _ _ _ _).mp (by decide)⟩

end Platform

end Tandem
