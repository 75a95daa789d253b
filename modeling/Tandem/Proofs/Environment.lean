import Mathlib.Tactic
import Tandem.Config
import Tandem.Proofs.Command

/-!
# Configurations that an environment can give

An environment gives every setting by a text, and what has no text of its own cannot be given. A
configuration is *spellable* (`Config.Spellable`) if its commands are made of words, its diff
program is not the one word that means none, and its output directories have texts that are not
blank. These are the configurations that environments give (`spellable_ofEnv`), and for each of them
there is a plain one that does: every variable holds what the setting displays (`Config.toEnv`,
`ofEnv_toEnv`).

Three readings of a text have to agree for this. Whether it is blank, whether it is the word
`builtin` and which words it has are all settled by its words (`words_eq_nil_iff`,
`Command.strip_eq_iff_parse_eq`).
-/

namespace Tandem

/-! ### Texts of settings -/

/-- The path has a text, and this is not blank. -/
def Path.Spellable (p : Path) : Prop :=
  ∃ s : String, (∃ c ∈ s.toList, isBlank c = false) ∧ p = Path.ofString s

namespace DiffChoice

/-- A diff program is made of words, and is not the bare word that stands for none. -/
def Spellable : DiffChoice → Prop
  | .builtin => True
  | .external command =>
    command.OfWords ∧ ¬ (command.program = Path.ofString "builtin" ∧ command.args = [])

/-- The text of a choice. -/
def text : DiffChoice → String
  | .builtin => "builtin"
  | .external command => command.display

end DiffChoice

/-- All settings. -/
def Setting.all : List Setting :=
  [.reference, .candidate, .diff, .expectedDir, .resultsDir]

namespace Config

/-- Everything but the test directory can be given by a text. -/
structure Spellable (c : Config) : Prop where
  reference : c.reference.OfWords
  candidate : c.candidate.OfWords
  diff : c.diff.Spellable
  expectedDir : c.expectedDir.Spellable
  resultsDir : c.resultsDir.Spellable

/-- The text of a setting. -/
def text (c : Config) : Setting → String
  | .reference => c.reference.display
  | .candidate => c.candidate.display
  | .diff => c.diff.text
  | .expectedDir => c.expectedDir.display
  | .resultsDir => c.resultsDir.display

/-- The environment in which each variable holds the text of its setting. -/
def toEnv (c : Config) : Env :=
  fun name => (Setting.all.find? (·.variableName = name)).map c.text

/-- The two configurations have the same value for a setting. -/
def AgreesOn (c d : Config) : Setting → Prop
  | .reference => c.reference = d.reference
  | .candidate => c.candidate = d.candidate
  | .diff => c.diff = d.diff
  | .expectedDir => c.expectedDir = d.expectedDir
  | .resultsDir => c.resultsDir = d.resultsDir

end Config

/-! ### Blank texts -/

theorem allBlank_eq_false_iff {s : String} :
    allBlank s = false ↔ ∃ c ∈ s.toList, isBlank c = false := by
  simp [allBlank]

namespace Env

variable {env env' : Env} {s : Setting} {v : String}

theorem setting_eq_some_iff :
    env.setting s = some v ↔ env s.variableName = some v ∧ allBlank v = false := by
  rw [setting, Option.filter_eq_some_iff, Bool.not_eq_true']

/-- A blank value is as good as none. -/
theorem setting_congr (h : env' s.variableName = env s.variableName ∨
    env' s.variableName = none ∧ ∃ v, env s.variableName = some v ∧ allBlank v = true) :
    env'.setting s = env.setting s := by
  rcases h with h | ⟨hnone, v, hv, hblank⟩
  · rw [setting, setting, h]
  · rw [setting, setting, hnone, hv, Option.filter_some, hblank]
    rfl

/-- A setting with a default is the default, or is read from a value that is not blank. -/
theorem getD_setting {α : Type} {P : α → Prop} {read : String → Option α} {base : α}
    (hbase : P base) (hread : ∀ v a, allBlank v = false → read v = some a → P a) :
    P (((env.setting s).bind read).getD base) := by
  rcases hsetting : (env.setting s).bind read with _ | a
  · exact hbase
  · obtain ⟨v, hv, ha⟩ := Option.bind_eq_some_iff.mp hsetting
    exact hread v a (setting_eq_some_iff.mp hv).2 ha

end Env

/-! ### From an environment and back -/

namespace DiffChoice

theorem spellable_of_diffOfText {v : String} {choice : DiffChoice}
    (h : Config.diffOfText v = some choice) : choice.Spellable := by
  rw [Config.diffOfText] at h
  split at h
  · cases h
    trivial
  · next hstrip =>
    obtain ⟨command, hparse, rfl⟩ := Option.map_eq_some_iff.mp h
    refine ⟨Command.ofWords_of_parse hparse, ?_⟩
    rintro ⟨hprogram, hargs⟩
    -- the bare word would have been found by stripping
    obtain rfl : command = { program := Path.ofString "builtin" } := by
      rw [← hprogram, ← hargs]
    exact hstrip ((Command.strip_eq_iff_parse_eq (by decide)).mpr hparse)

theorem diffOfText_text {choice : DiffChoice} (h : choice.Spellable) :
    Config.diffOfText choice.text = some choice := by
  cases choice with
  | builtin => decide
  | external command =>
    obtain ⟨hwords, hbare⟩ := h
    have hparse := Command.parse_display hwords
    have hstrip : strip command.display ≠ "builtin" := by
      rw [Ne, Command.strip_eq_iff_parse_eq (by decide), hparse, Option.some.injEq]
      rintro rfl
      exact hbare ⟨rfl, rfl⟩
    rw [text, Config.diffOfText, if_neg hstrip, hparse, Option.map_some]

theorem allBlank_text {choice : DiffChoice} (h : choice.Spellable) :
    allBlank choice.text = false := by
  cases choice with
  | builtin => decide
  | external command => exact Command.allBlank_display h.1

end DiffChoice

namespace Path

variable {p : Path}

theorem spellable_ofString {s : String} (h : allBlank s = false) : (Path.ofString s).Spellable :=
  ⟨s, allBlank_eq_false_iff.mp h, rfl⟩

theorem Spellable.ofString_display (h : p.Spellable) : Path.ofString p.display = p := by
  obtain ⟨s, -, rfl⟩ := h
  rw [display_ofString]

theorem Spellable.allBlank_display (h : p.Spellable) : allBlank p.display = false := by
  obtain ⟨s, hs, rfl⟩ := h
  rw [display_ofString, allBlank_eq_false_iff]
  exact hs

end Path

namespace Config

variable {c : Config} {env : Env}

theorem toEnv_variableName (c : Config) (s : Setting) :
    c.toEnv s.variableName = some (c.text s) := by
  cases s <;> rfl

/-- **What an environment gives is spellable**; so are the defaults. -/
theorem spellable_ofEnv (testDir : Path) (env : Env) : (ofEnv testDir env).Spellable := by
  have hcommand (s : Setting) {base : Command} (hbase : base.OfWords) :
      (((env.setting s).bind Command.parse).getD base).OfWords :=
    Env.getD_setting hbase fun _ _ _ => Command.ofWords_of_parse
  have hdir (s : Setting) {base : Path} (hbase : base.Spellable) :
      (((env.setting s).map Path.ofString).getD base).Spellable := by
    rw [Option.map_eq_bind]
    refine Env.getD_setting hbase fun v a hv ha => ?_
    cases ha
    exact Path.spellable_ofString hv
  exact {
    reference := hcommand _ ⟨⟨"./sem_base.exe", by decide, rfl⟩, by simp [ofDir]⟩
    candidate := hcommand _ ⟨⟨"./csem", by decide, rfl⟩, by simp [ofDir]⟩
    diff := Env.getD_setting ⟨⟨⟨"diff", by decide, rfl⟩, by simp⟩, by decide⟩
      fun _ _ _ => DiffChoice.spellable_of_diffOfText
    expectedDir := hdir _ (Path.spellable_ofString (by decide))
    resultsDir := hdir _ (Path.spellable_ofString (by decide)) }

/-- The texts of a spellable configuration are not blank, and the environment that holds them gives
them. -/
theorem setting_toEnv {s : Setting} (h : c.Spellable) : c.toEnv.setting s = some (c.text s) := by
  refine Env.setting_eq_some_iff.mpr ⟨toEnv_variableName c s, ?_⟩
  cases s with
  | reference => exact Command.allBlank_display h.reference
  | candidate => exact Command.allBlank_display h.candidate
  | diff => exact DiffChoice.allBlank_text h.diff
  | expectedDir => exact h.expectedDir.allBlank_display
  | resultsDir => exact h.resultsDir.allBlank_display

/-- **A spellable configuration is given by its texts.** -/
theorem ofEnv_toEnv (h : c.Spellable) : ofEnv c.testDir c.toEnv = c := by
  simp only [ofEnv, setting_toEnv h, text, Option.bind_some, Option.map_some,
    Command.parse_display h.reference, Command.parse_display h.candidate,
    DiffChoice.diffOfText_text h.diff, h.expectedDir.ofString_display,
    h.resultsDir.ofString_display, Option.getD_some]
  rfl

/-- A setting of the configuration depends on the same setting of the environment and on nothing
else. -/
theorem ofEnv_agreesOn {env' : Env} {s : Setting} (h : env.setting s = env'.setting s)
    (testDir testDir' : Path) : (ofEnv testDir env).AgreesOn (ofEnv testDir' env') s := by
  cases s <;> simp only [AgreesOn, ofEnv, h, ofDir]

/-- **The environment and the configuration.** An environment gives a configuration just when it is
spellable, and then the texts of its settings give it. Each setting depends only on the variable
that is its own, and where a variable is blank it may as well be absent. -/
theorem ofEnv_round_trip (testDir : Path) :
    (∀ c : Config, (∃ env, ofEnv testDir env = c) ↔ c.testDir = testDir ∧ c.Spellable) ∧
    (∀ c : Config, ofEnv testDir c.toEnv = c ↔ c.testDir = testDir ∧ c.Spellable) ∧
    (∀ (s : Setting) (env env' : Env) (testDir' : Path),
      env s.variableName = env' s.variableName →
        (ofEnv testDir env).AgreesOn (ofEnv testDir' env') s) ∧
    ∀ env env' : Env, (∀ name, env' name = env name ∨
        env' name = none ∧ ∃ v, env name = some v ∧ allBlank v = true) →
      ofEnv testDir env' = ofEnv testDir env := by
  have hgiven (env : Env) (c : Config) (h : ofEnv testDir env = c) :
      c.testDir = testDir ∧ c.Spellable := by
    subst h
    exact ⟨rfl, spellable_ofEnv testDir env⟩
  have hback (c : Config) (h : c.testDir = testDir ∧ c.Spellable) :
      ofEnv testDir c.toEnv = c := by
    obtain ⟨rfl, hspellable⟩ := h
    exact ofEnv_toEnv hspellable
  refine ⟨fun c => ⟨fun ⟨env, h⟩ => hgiven env c h, fun h => ⟨_, hback c h⟩⟩,
    fun c => ⟨hgiven _ c, hback c⟩, fun s env env' testDir' h => ?_, fun env env' h => ?_⟩
  · exact ofEnv_agreesOn (by rw [Env.setting, Env.setting, h]) testDir testDir'
  · have hsetting (s : Setting) : env'.setting s = env.setting s :=
      Env.setting_congr (h s.variableName)
    simp only [ofEnv, hsetting]

end Config

end Tandem
