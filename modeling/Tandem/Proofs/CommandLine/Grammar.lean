import Mathlib
import Tandem.CommandLine
import Tandem.Proofs.Text.Utf8

/-!
# The grammar of the command line

The command lines that name a test directory are few: one *occurrence* of the option, which brings
its value along or has it as the next argument, and perhaps a `--` at the end (`Names`). The reader
goes through the arguments with a state and postpones the examination of a value that stands apart,
so it does not follow this grammar. It accepts the same command lines nevertheless, with the same
value (`parse_eq_ok_iff`, `parse_accepts`).

What a state still accepts is said by one lemma for each kind of state (`readAll_settled`,
`readAll_valued`, `readAll_awaiting`). Once a value is taken, a second occurrence leads into states
from which nothing is accepted (`readAll_hopeless`).
-/

namespace Tandem.CommandLine

/-! ### The grammar -/

/-- The option as a single letter. -/
def shortFlag : Bytes := Utf8.encode "-d"

/-- The spellings of the option. -/
def flags : List Bytes :=
  [shortFlag, Utf8.encode "--test_dir", Utf8.encode "--test-dir"]

/-- The argument after which there are no options. -/
def terminator : Bytes := [dash, dash]

/-- The argument is no option: it starts with a dash only if it is nothing else. -/
def Plain (arg : Bytes) : Prop :=
  arg.head? = some dash → arg = [dash]

/-- The argument is the option with the value `v` attached to it. -/
inductive Attached : Bytes → Bytes → Prop
  /-- The value follows the letter at once. -/
  | glued {v : Bytes} : v ≠ [] → v.head? ≠ some equals → Attached (shortFlag ++ v) v
  /-- The value follows an equals sign, which is no part of it. -/
  | assigned {flag v : Bytes} : flag ∈ flags → Attached (flag ++ equals :: v) v

/-- The arguments are the option with the value `v`. -/
inductive Occurrence : List Bytes → Bytes → Prop
  | apart {flag v : Bytes} : flag ∈ flags → v ≠ [] → Plain v → Occurrence [flag, v] v
  | attached {arg v : Bytes} : Attached arg v → v ≠ [] → Occurrence [arg] v

/-- The command line names the test directory `v`. -/
def Names (args : List Bytes) (v : Bytes) : Prop :=
  ∃ occurrence, Occurrence occurrence v ∧
    (args = occurrence ∨ args = occurrence ++ [terminator])

/-! ### One argument -/

variable {s t : State} {arg v w : Bytes} {args : List Bytes} {dir : Path}

theorem shortFlag_eq : shortFlag = [dash, 0x64] := by decide

/-- The long names of the option are two. -/
theorem ofName?_eq_testDir_iff {name : Bytes} :
    Long.ofName? name = some .testDir ↔
      name = Utf8.encode "test_dir" ∨ name = Utf8.encode "test-dir" := by
  refine ⟨fun h => ?_, by rintro (rfl | rfl) <;> rfl⟩
  simp only [Long.ofName?, longNames, List.find?_cons, List.find?_nil] at h
  split at h
  · rename_i heq; exact .inl (beq_iff_eq.mp heq).symm
  split at h
  · rename_i heq; exact .inr (beq_iff_eq.mp heq).symm
  · split at h
    · simp at h
    · split at h <;> simp at h

/-- The spellings of the option, as they are read. -/
theorem mem_flags : arg ∈ flags ↔
    arg = [dash, 0x64] ∨ ∃ name, Long.ofName? name = some .testDir ∧ arg = dash :: dash :: name := by
  have hflags : flags = [[dash, 0x64], dash :: dash :: Utf8.encode "test_dir",
      dash :: dash :: Utf8.encode "test-dir"] := by decide
  simp only [hflags, List.mem_cons, List.not_mem_nil, or_false, ofName?_eq_testDir_iff]
  constructor
  · rintro (rfl | rfl | rfl)
    · exact .inl rfl
    · exact .inr ⟨_, .inl rfl, rfl⟩
    · exact .inr ⟨_, .inr rfl, rfl⟩
  · rintro (rfl | ⟨name, rfl | rfl, rfl⟩)
    · exact .inl rfl
    · exact .inr (.inl rfl)
    · exact .inr (.inr rfl)

/-- The letter `d` takes what follows it as a value, without an equals sign in front. -/
theorem readShort_d (s : State) (rest : Bytes) :
    readShort s 0x64 rest = match rest with
      | [] => s.bare
      | v :: vs => s.attached (if v = equals then vs else v :: vs) := by
  have hnext : Utf8.next 0x64 rest = (.scalar 'd', rest) :=
    Utf8.next_of_lt (by decide) rest
  rw [readShort, hnext]
  rfl

theorem not_mem_of_ofName? {name : Bytes} (h : Long.ofName? name = some .testDir) :
    ∀ b ∈ name, (b != equals) = true := by
  have hall : name.all (· != equals) = true := by
    rcases ofName?_eq_testDir_iff.mp h with rfl | rfl <;> decide
  exact List.all_eq_true.mp hall

theorem readLong_name {name : Bytes} (h : Long.ofName? name = some .testDir) :
    readLong s name = s.bare := by
  rw [readLong, List.takeWhile_eq_self_iff.mpr (not_mem_of_ofName? h),
    List.dropWhile_eq_nil_iff.mpr (not_mem_of_ofName? h), h]

/-- A long name ends where an equals sign starts a value. -/
theorem readLong_assign {name : Bytes} (h : Long.ofName? name = some .testDir) (v : Bytes) :
    readLong s (name ++ equals :: v) = s.attached v := by
  have htake : (name ++ equals :: v).takeWhile (· != equals) = name := by
    rw [List.takeWhile_append_of_pos (not_mem_of_ofName? h)]
    simp
  have hdrop : (name ++ equals :: v).dropWhile (· != equals) = equals :: v := by
    rw [List.dropWhile_append_of_pos (not_mem_of_ofName? h)]
    simp
  rw [readLong, htake, hdrop, h]

theorem read_flag (h : arg ∈ flags) : read s arg = s.bare := by
  rcases mem_flags.mp h with rfl | ⟨name, hname, rfl⟩
  · exact readShort_d s []
  · exact readLong_name hname

theorem read_attached (h : Attached arg v) : read s arg = s.attached v := by
  cases h with
  | glued hne heq =>
    obtain ⟨b, vs, rfl⟩ := List.exists_cons_of_ne_nil hne
    have hb : b ≠ equals := by simpa using heq
    exact (readShort_d s (b :: vs)).trans (by simp [hb])
  | assigned h =>
    rcases mem_flags.mp h with rfl | ⟨name, hname, rfl⟩
    · exact readShort_d s (equals :: v)
    · exact readLong_assign hname v

theorem read_plain (h : Plain arg) : read s arg = readPlain s arg := by
  match arg with
  | [] => rfl
  | [b] => rfl
  | a :: b :: rest =>
    have ha : a ≠ dash := by
      rintro rfl
      simp [Plain] at h
    rw [read, if_neg ha]

/-! ### What reading one argument can do -/

theorem finish_ne_ok (s : State) (stop : Stop) : s.finish stop ≠ .ok t := by
  rw [State.finish]
  cases s.settle <;> simp [Except.bind]

/-- A long option that is read on after takes the test directory, without a value or with one. -/
theorem readLong_cases (h : readLong s arg = .ok t) :
    dash :: dash :: arg ∈ flags ∧ s.bare = .ok t ∨
      ∃ v, Attached (dash :: dash :: arg) v ∧ s.attached v = .ok t := by
  have hsplit := List.takeWhile_append_dropWhile (p := (· != equals)) (l := arg)
  have hhead := List.head?_dropWhile_not (· != equals) arg
  rw [readLong] at h
  -- the argument is a name up to the first equals sign, and the rest from there on
  generalize arg.takeWhile (· != equals) = name at h hsplit
  generalize arg.dropWhile (· != equals) = rest at h hsplit hhead
  subst hsplit
  cases rest with
  | nil =>
    split at h
    · contradiction
    · rename_i hname _
      rw [List.append_nil]
      exact .inl ⟨mem_flags.mpr (.inr ⟨name, hname, rfl⟩), h⟩
    · contradiction
    · exact absurd h (finish_ne_ok s _)
    · exact absurd h (finish_ne_ok s _)
    · contradiction
  | cons b v =>
    obtain rfl : b = equals := by simpa using hhead
    split at h
    · rename_i hname hv
      cases hv
      exact .inr ⟨v, .assigned (mem_flags.mpr (.inr ⟨name, hname, rfl⟩)), h⟩
    all_goals contradiction

/-- A group of letters that is read on after is the test directory, without a value or with one. -/
theorem readShort_cases {b : UInt8} (h : readShort s b arg = .ok t) :
    dash :: b :: arg ∈ flags ∧ s.bare = .ok t ∨
      ∃ v, Attached (dash :: b :: arg) v ∧ s.attached v = .ok t := by
  -- the letters `h` and `V` end the reading, and only the byte of `d` is read as a `d`
  obtain ⟨rfl, hd⟩ : b = 0x64 ∧ readShort s 0x64 arg = .ok t := by
    rw [readShort] at h
    split at h
    · rename_i c rest hnext
      split at h
      · rename_i hc
        subst hc
        obtain ⟨hb, rfl⟩ := Utf8.eq_of_next hnext (by decide) (by decide)
        obtain rfl : b = 0x64 := UInt8.toNat_inj.mp hb
        exact ⟨rfl, (readShort_d s rest).trans h⟩
      split at h
      · exact absurd h (finish_ne_ok s _)
      split at h
      · exact absurd h (finish_ne_ok s _)
      · contradiction
    · contradiction
  rw [readShort_d] at hd
  cases arg with
  | nil => exact .inl ⟨mem_flags.mpr (.inl rfl), hd⟩
  | cons v vs =>
    by_cases hv : v = equals
    · subst hv
      exact .inr ⟨vs, .assigned (mem_flags.mpr (.inl rfl)), by simpa using hd⟩
    · simp only [hv, if_false] at hd
      exact .inr ⟨v :: vs, .glued (by simp) (by simpa using hv), hd⟩

/-- What reading one argument can do: it takes the option without a value, the option with a value,
or an argument that is no option. -/
theorem read_cases (h : read s arg = .ok t) :
    arg ∈ flags ∧ s.bare = .ok t ∨ (∃ v, Attached arg v ∧ s.attached v = .ok t) ∨
      Plain arg ∧ readPlain s arg = .ok t := by
  rw [← or_assoc]
  match arg with
  | [] => exact .inr ⟨by simp [Plain], h⟩
  | [b] => exact .inr ⟨by simp [Plain], h⟩
  | a :: b :: rest =>
    rw [read] at h
    split at h
    · rename_i ha
      subst ha
      split at h
      · rename_i hb
        subst hb
        exact .inl (readLong_cases h)
      · exact .inl (readShort_cases h)
    · rename_i ha
      exact .inr ⟨by simpa [Plain] using ha, h⟩

/-! ### What a state still accepts -/

/-- No arguments are left but perhaps a `--`. -/
def AtEnd (args : List Bytes) : Prop :=
  args = [] ∨ args = [terminator]

theorem readAll_atEnd (h : AtEnd args) : readAll s args = conclude s := by
  rcases h with rfl | rfl <;> rfl

theorem readAll_cons (h : arg ≠ terminator) :
    readAll s (arg :: args) = (read s arg).bind (readAll · args) :=
  if_neg h

/-- Whoever gets a test directory has come to the end, or goes on with one argument. -/
theorem readAll_cases (h : readAll s args = .ok dir) :
    AtEnd args ∧ conclude s = .ok dir ∨
      ∃ arg rest t, args = arg :: rest ∧ read s arg = .ok t ∧ readAll t rest = .ok dir := by
  match args with
  | [] => exact .inl ⟨.inl rfl, h⟩
  | arg :: rest =>
    by_cases harg : arg = terminator
    · subst harg
      match rest with
      | [] => exact .inl ⟨.inr rfl, h⟩
      | extra :: _ => exact absurd h (by simp [readAll, terminator])
    · rw [readAll_cons harg] at h
      cases hread : read s arg with
      | error stop => rw [hread] at h; contradiction
      | ok t => exact .inr ⟨arg, rest, t, rfl, hread, by rwa [hread] at h⟩

/-- With a value taken, anything pending is a mistake. -/
theorem settle_hopeless (htaken : s.taken.isSome) (hpending : s.pending ≠ .nothing) :
    ∃ stop, s.settle = .error stop := by
  obtain ⟨taken, _ | _ | v⟩ := s
  · contradiction
  · exact ⟨.noValue, rfl⟩
  · exact ⟨.repeated, if_pos htaken⟩

/-- An argument that is no option is the value that the option waits for. -/
theorem readPlain_cases (h : readPlain s arg = .ok t) :
    s.pending = .option ∧ t = { s with pending := .value arg } := by
  rw [readPlain] at h
  split at h
  · rename_i hpending
    cases h
    exact ⟨hpending, rfl⟩
  · contradiction

/-- **A second occurrence is never accepted**: once a value is taken and the option met again,
whatever follows ends in a mistake. -/
theorem readAll_hopeless (htaken : s.taken.isSome) (hpending : s.pending ≠ .nothing) :
    readAll s args ≠ .ok dir := by
  intro h
  -- that something is pending carries through all states from here on
  induction args generalizing s with
  | nil =>
    obtain ⟨stop, hstop⟩ := settle_hopeless htaken hpending
    simp [readAll, conclude, hstop, Except.bind] at h
  | cons arg args ih =>
    obtain ⟨stop, hstop⟩ := settle_hopeless htaken hpending
    rcases readAll_cases h with ⟨-, hend⟩ | ⟨_, _, t, hargs, hread, hrest⟩
    · simp [conclude, hstop, Except.bind] at hend
    cases hargs
    rcases read_cases hread with ⟨-, hbare⟩ | ⟨v, -, hattached⟩ | ⟨-, hplain⟩
    · simp [State.bare, hstop, Except.map] at hbare
    · simp [State.attached, hstop, Except.bind] at hattached
    · -- the option may still be given a value: what is pending stays pending
      obtain ⟨-, rfl⟩ := readPlain_cases hplain
      exact ih (s := { s with pending := .value arg }) htaken (by simp) hrest

theorem readAll_settled :
    readAll { taken := some w } args = .ok dir ↔ AtEnd args ∧ dir = ⟨w⟩ := by
  constructor
  · intro h
    rcases readAll_cases h with ⟨hend, hdir⟩ | ⟨arg, rest, t, rfl, hread, hrest⟩
    · cases hdir
      exact ⟨hend, rfl⟩
    rcases read_cases hread with ⟨-, hbare⟩ | ⟨v, -, hattached⟩ | ⟨-, hplain⟩
    · cases hbare
      exact absurd hrest (readAll_hopeless rfl (by simp))
    · cases hattached
    · cases hplain
  · rintro ⟨hend, rfl⟩
    exact readAll_atEnd hend

theorem readAll_valued :
    readAll { pending := .value w } args = .ok dir ↔ w ≠ [] ∧ AtEnd args ∧ dir = ⟨w⟩ := by
  -- the value is examined at the end, or as soon as the option is met again
  cases w with
  | nil =>
    have hstop : State.settle { pending := .value [] } = .error .noValue := rfl
    refine iff_of_false (fun h => ?_) (by simp)
    rcases readAll_cases h with ⟨-, hdir⟩ | ⟨arg, rest, t, rfl, hread, -⟩
    · simp [conclude, hstop, Except.bind] at hdir
    rcases read_cases hread with ⟨-, hbare⟩ | ⟨v, -, hattached⟩ | ⟨-, hplain⟩
    · simp [State.bare, hstop, Except.map] at hbare
    · simp [State.attached, hstop, Except.bind] at hattached
    · cases hplain
  | cons b bs =>
    constructor
    · intro h
      rcases readAll_cases h with ⟨hend, hdir⟩ | ⟨arg, rest, t, rfl, hread, hrest⟩
      · cases hdir
        exact ⟨by simp, hend, rfl⟩
      rcases read_cases hread with ⟨-, hbare⟩ | ⟨v, -, hattached⟩ | ⟨-, hplain⟩
      · cases hbare
        exact absurd hrest (readAll_hopeless rfl (by simp))
      · cases hattached
      · cases hplain
    · rintro ⟨-, hend, rfl⟩
      exact readAll_atEnd hend

theorem readAll_awaiting :
    readAll { pending := .option } args = .ok ⟨v⟩ ↔
      ∃ rest, args = v :: rest ∧ v ≠ [] ∧ Plain v ∧ AtEnd rest := by
  constructor
  · intro h
    rcases readAll_cases h with ⟨-, hdir⟩ | ⟨arg, rest, t, rfl, hread, hrest⟩
    · cases hdir
    rcases read_cases hread with ⟨-, hbare⟩ | ⟨v, -, hattached⟩ | ⟨harg, hplain⟩
    · cases hbare
    · cases hattached
    · cases hplain
      obtain ⟨hne, hend, hdir⟩ := readAll_valued.mp hrest
      cases hdir
      exact ⟨rest, rfl, hne, harg, hend⟩
  · rintro ⟨rest, rfl, hne, hplain, hend⟩
    have hv : v ≠ terminator := by
      rintro rfl
      exact absurd (hplain rfl) (by decide)
    rw [readAll_cons hv, read_plain hplain]
    exact readAll_valued.mpr ⟨hne, hend, rfl⟩

/-! ### The command line as a whole -/

theorem flag_ne_terminator (h : arg ∈ flags) : arg ≠ terminator := by
  rintro rfl
  exact absurd h (by decide)

theorem attached_ne_terminator (h : Attached arg v) : arg ≠ terminator := by
  have hd : (0x64 : UInt8) ≠ dash := by decide
  cases h with
  | glued => simp [shortFlag_eq, terminator, hd]
  | assigned hflag =>
    rcases mem_flags.mp hflag with rfl | ⟨name, -, rfl⟩ <;> simp [terminator]

theorem parse_eq_ok_iff : parse args = .ok ⟨v⟩ ↔ Names args v := by
  constructor
  · intro h
    rcases readAll_cases h with ⟨-, hdir⟩ | ⟨arg, rest, t, rfl, hread, hrest⟩
    · cases hdir
    rcases read_cases hread with ⟨hflag, hbare⟩ | ⟨w, harg, hattached⟩ | ⟨-, hplain⟩
    · cases hbare
      obtain ⟨rest, rfl, hne, hplain, hend⟩ := readAll_awaiting.mp hrest
      refine ⟨[arg, v], .apart hflag hne hplain, ?_⟩
      rcases hend with rfl | rfl
      · exact .inl rfl
      · exact .inr rfl
    · cases w with
      | nil => cases hattached
      | cons b bs =>
        cases hattached
        obtain ⟨hend, hdir⟩ := readAll_settled.mp hrest
        cases hdir
        refine ⟨[arg], .attached harg (by simp), ?_⟩
        rcases hend with rfl | rfl
        · exact .inl rfl
        · exact .inr rfl
    · cases hplain
  · rintro ⟨occurrence, hocc, hargs⟩
    obtain ⟨rest, rfl, hend⟩ : ∃ rest, args = occurrence ++ rest ∧ AtEnd rest := by
      rcases hargs with rfl | rfl
      · exact ⟨[], by simp, .inl rfl⟩
      · exact ⟨[terminator], rfl, .inr rfl⟩
    cases hocc with
    | apart hflag hne hplain =>
      rw [parse, List.cons_append, readAll_cons (flag_ne_terminator hflag), read_flag hflag]
      exact readAll_awaiting.mpr ⟨rest, rfl, hne, hplain, hend⟩
    | attached harg hne =>
      obtain ⟨b, bs, rfl⟩ := List.exists_cons_of_ne_nil hne
      rw [parse, List.singleton_append, readAll_cons (attached_ne_terminator harg),
        read_attached harg]
      exact readAll_settled.mpr ⟨hend, rfl⟩

/-- **The command line is accepted exactly if it fits the grammar.** The test directory is then the
value of the one occurrence; every other command line asks for help or for the version, or is a
mistake. -/
theorem parse_accepts (args : List Bytes) :
    (∀ v, parse args = .ok ⟨v⟩ ↔ Names args v) ∧
      ((∃ v, Names args v) ∨ ∃ stop, parse args = .error stop ∧
        (stop = .help ∨ stop = .version ∨ stop.isMistake)) := by
  refine ⟨fun v => parse_eq_ok_iff, ?_⟩
  rcases hparse : parse args with stop | dir
  · exact .inr ⟨stop, rfl, by cases stop <;> simp [Stop.isMistake]⟩
  · exact .inl ⟨dir.bytes, parse_eq_ok_iff.mp hparse⟩

/-- Only one equals sign is dropped. -/
example : parse [Utf8.encode "-d==-x", terminator] = .ok ⟨Utf8.encode "=-x"⟩ := by cbv

end Tandem.CommandLine
