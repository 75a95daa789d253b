import Tandem.Command
import Tandem.Proofs.Text.Blank
import Tandem.Proofs.Text.Encoding

/-!
# Commands that are made of words

Only commands whose program and arguments are words can be written on a line and read back
(`Command.OfWords`). Every command that is read off a line is one of these (`ofWords_of_parse`), and
each of them comes back from the line that displays it (`parse_display`). So a line may be exchanged
for the display of what it spells, and display and reading undo each other on exactly these commands
(`line_round_trip`). A line spells the bare command of one word just when stripping it leaves this
word (`strip_eq_iff_parse_eq`).
-/

namespace Tandem

@[simp] theorem Path.display_ofString (s : String) : (Path.ofString s).display = s :=
  Utf8.lossy_encode s

theorem Path.ofString_injective : Function.Injective Path.ofString :=
  fun _ _ h => Utf8.encode_injective (Path.mk.inj h)

namespace Command

variable {c : Command} {line w : String}

/-- The program and all arguments are words. -/
structure OfWords (c : Command) : Prop where
  program : ∃ w, IsWord w ∧ c.program = Path.ofString w
  args : ∀ arg ∈ c.args, IsWord arg

theorem parse_eq_some_iff : parse line = some c ↔
    ∃ program, words line = program :: c.args ∧ c.program = Path.ofString program := by
  rw [parse]
  rcases words line with _ | ⟨program, args⟩
  · simp
  · rw [Option.some.injEq]
    constructor
    · rintro rfl
      exact ⟨program, rfl, rfl⟩
    · rintro ⟨program', hwords, hprogram⟩
      obtain ⟨rfl, rfl⟩ := List.cons.inj hwords
      rw [← hprogram]

/-- Only a blank line spells nothing. -/
theorem parse_eq_none_iff : parse line = none ↔ allBlank line = true := by
  rw [← words_eq_nil_iff, parse]
  rcases words line with _ | ⟨program, args⟩ <;> simp

/-- What is read off a line is made of words. -/
theorem ofWords_of_parse (h : parse line = some c) : c.OfWords := by
  obtain ⟨program, hwords, hprogram⟩ := parse_eq_some_iff.mp h
  have hword : ∀ w ∈ program :: c.args, IsWord w :=
    fun w hw => isWord_of_mem_words (hwords ▸ hw)
  rw [List.forall_mem_cons] at hword
  exact ⟨⟨program, hword.1, hprogram⟩, hword.2⟩

/-- Words with one space before each but the first are the words of a line. -/
private theorem runs_spaced {run : List Char} {args : List String}
    (hrun : Words.IsRun isBlank run) (hargs : ∀ arg ∈ args, IsWord arg) :
    Words.runs isBlank (run ++ args.flatMap fun arg => ' ' :: arg.toList)
      = run :: args.map String.toList := by
  induction args generalizing run with
  | nil => rw [List.flatMap_nil, List.append_nil, Words.runs_of_isRun hrun, List.map_nil]
  | cons arg args ih =>
    rw [List.forall_mem_cons] at hargs
    rw [List.flatMap_cons, List.cons_append, Words.runs_append_cons hrun rfl,
      ih (isWord_iff.mp hargs.1) hargs.2, List.map_cons]

/-- **A command made of words is read back from its display.** -/
theorem parse_display (h : c.OfWords) : parse c.display = some c := by
  obtain ⟨⟨program, hword, hprogram⟩, hargs⟩ := h
  refine parse_eq_some_iff.mpr ⟨program, words_eq_iff.mpr ?_, hprogram⟩
  have hspaced (arg : String) : (" " ++ arg).toList = ' ' :: arg.toList := by
    rw [String.toList_append]
    rfl
  have hline : c.display.toList
      = program.toList ++ c.args.flatMap fun arg => ' ' :: arg.toList := by
    rw [display, hprogram, Path.display_ofString, String.toList_append, String.toList_join,
      List.flatMap_map, funext hspaced]
  rw [hline, runs_spaced (isWord_iff.mp hword) hargs, List.map_cons]

/-- The line of a command made of words is not blank. -/
theorem allBlank_display (h : c.OfWords) : allBlank c.display = false := by
  obtain ⟨program, hwords, -⟩ := parse_eq_some_iff.mp (parse_display h)
  rw [← Bool.not_eq_true, ← words_eq_nil_iff, hwords]
  exact List.cons_ne_nil _ _

/-- **A line spells a bare word** just when the word is what stripping leaves of it. -/
theorem strip_eq_iff_parse_eq (hw : IsWord w) :
    strip line = w ↔ parse line = some { program := Path.ofString w } := by
  rw [strip_eq_iff hw, parse_eq_some_iff]
  constructor
  · intro hwords
    exact ⟨w, hwords, rfl⟩
  · rintro ⟨program, hwords, hprogram⟩
    rwa [Path.ofString_injective hprogram]

/-- What a command made of words shows for its program and its arguments are the words of a line that
spells it. -/
theorem words_of_parse (h : parse line = some c) : words line = c.program.display :: c.args := by
  obtain ⟨program, hwords, hprogram⟩ := parse_eq_some_iff.mp h
  rw [hwords, hprogram, Path.display_ofString]

/-- **Lines and commands.** A command is read back from its display, byte for byte, exactly if its
program is the encoding of a word and its arguments are words. Exactly the blank lines spell no
command. Every other line spells a command made of words, and these are the maximal runs of the line
without a blank, in order; so the display of the command spells the same command again. -/
theorem line_round_trip :
    (∀ c : Command, parse c.display = some c ↔
      (Utf8.IsText c.program.bytes ∧ IsWord c.program.display) ∧ ∀ arg ∈ c.args, IsWord arg) ∧
    ∀ line : String,
      (parse line = none ↔ ∀ ch ∈ line.toList, isBlank ch = true) ∧
      ((∃ ch ∈ line.toList, isBlank ch = false) → ∃ c, parse line = some c ∧ c.OfWords ∧
        Words.AreMaximalRuns isBlank line.toList
          ((c.program.display :: c.args).map String.toList) ∧
        parse c.display = some c) := by
  refine ⟨fun c => ⟨fun h => ?_, fun h => ?_⟩, fun line => ⟨?_, fun h => ?_⟩⟩
  · obtain ⟨⟨w, hw, hprogram⟩, hargs⟩ := ofWords_of_parse h
    rw [hprogram, Path.display_ofString]
    exact ⟨⟨⟨w, rfl⟩, hw⟩, hargs⟩
  · obtain ⟨⟨htext, hw⟩, hargs⟩ := h
    refine parse_display ⟨⟨_, hw, ?_⟩, hargs⟩
    exact congrArg Path.mk htext.encode_lossy.symm
  · rw [parse_eq_none_iff, allBlank, List.all_eq_true]
  · rcases hparse : parse line with _ | c
    · rw [parse_eq_none_iff, allBlank, List.all_eq_true] at hparse
      obtain ⟨ch, hmem, hch⟩ := h
      simp [hparse ch hmem] at hch
    · have hwords := ofWords_of_parse hparse
      refine ⟨c, rfl, hwords, ?_, parse_display hwords⟩
      rw [← words_of_parse hparse]
      exact areMaximalRuns_words line

/-- Blanks outside ASCII divide words too, and a space stands for each of them afterwards. A program
that is no text is shown, but not read back. -/
theorem line_round_trip_wide :
    let line := "\u3000./csem\u2003\t-v\u0085"
    let c : Command := { program := Path.ofString "./csem", args := ["-v"] }
    let odd : Command := { program := ⟨[0x61, 0xFF]⟩ }
    (parse line = some c ∧
      Words.AreMaximalRuns isBlank line.toList (["./csem", "-v"].map String.toList) ∧
      parse "./csem -v" = some c) ∧
    parse odd.display ≠ some odd := by
  intro line c odd
  have hparse : parse line = some c := by decide
  have hdisplay : c.display = "./csem -v" := by
    rw [display, Path.display_ofString]
    rfl
  have hill : Utf8.isValid odd.program.bytes = false := by decide +kernel
  obtain ⟨c', hparse', -, hruns, hback⟩ :=
    (line_round_trip.2 line).2 ⟨'v', by decide, by decide⟩
  obtain rfl : c = c' := Option.some.inj (hparse.symm.trans hparse')
  refine ⟨⟨hparse, ?_, hdisplay ▸ hback⟩, fun h => ?_⟩
  · rwa [Path.display_ofString] at hruns
  · have htext := ((line_round_trip.1 odd).mp h).1.1
    rw [htext.isValid] at hill
    cases hill

end Command

end Tandem
