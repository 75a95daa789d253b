import Tandem.Proofs.Text.Encoding
import Tandem.Report

/-!
# The words of a report

What the console shows of a case, spelled out in full: the line of a failure (`Wording.failure`), the
lines above the differences of a case (`Wording.banner`), and the two line ends below them
(`Wording.close`). Nothing here goes by how events are written; the texts of events are these
(`Event.text_failed`, `Event.text_banner`, `Event.text_diffed`).
-/

namespace Tandem

namespace Wording

/-- A command: its program, and each argument after a space. -/
def command (c : Command) : Bytes :=
  Utf8.encode (Utf8.lossy c.program.bytes) ++ c.args.flatMap fun arg => 0x20 :: Utf8.encode arg

/-- The line that says with what the two programs exited on a case. -/
def failure (name : Name) (reference : Command) (r : ℤ) (candidate : Command) (c : ℤ) : Bytes :=
  Utf8.encode "ERROR: " ++ Utf8.encode (Utf8.lossy name) ++ Utf8.encode ": " ++
    command reference ++ Utf8.encode " exited with " ++ Utf8.encode (toString r) ++
    Utf8.encode ", " ++
    command candidate ++ Utf8.encode " exited with " ++ Utf8.encode (toString c) ++ [0x0A]

/-- The four lines above the differences of a case. -/
def banner (name : Name) : Bytes :=
  Utf8.encode "=============================================================\nFILE " ++
    Utf8.encode (Utf8.lossy name) ++
    Utf8.encode "\n=============================================================\n\n"

/-- What stands below the differences of a case. -/
def close : Bytes :=
  [0x0A, 0x0A]

end Wording

/-- Numbers are written as usual. -/
theorem Decimal.text_eq (i : ℤ) : Decimal.text i = toString i := by
  cases i with
  | ofNat n => rfl
  | negSucc n =>
    rw [text, if_pos (Int.negSucc_lt_zero n)]
    rfl

theorem Command.encode_display (c : Command) : Utf8.encode c.display = Wording.command c := by
  have hargs (args : List String) : Utf8.encode (String.join (args.map (" " ++ ·)))
      = args.flatMap fun arg => 0x20 :: Utf8.encode arg := by
    rw [Utf8.encode, String.toList_join, List.flatMap_assoc, List.flatMap_map]
    refine List.flatMap_congr fun arg _ => ?_
    rw [← Utf8.encode, Utf8.encode_append]
    rfl
  rw [display, Utf8.encode_append, hargs]
  rfl

namespace Event

variable {case : TestCase} {reference candidate : Command} {r c : RunStatus} {verdict : Verdict}

theorem text_failed : (failed case reference r candidate c).text
    = Wording.failure case.name reference r.code candidate c.code := by
  simp only [text, lines, List.flatten_cons, List.flatten_nil, List.append_nil, Utf8.encode_append,
    Command.encode_display, Decimal.text_eq]
  rfl

theorem text_banner : (banner case).text = Wording.banner case.name := by
  have habove : rule ++ Utf8.encode "FILE "
      = Utf8.encode "=============================================================\nFILE " := by decide
  have hbelow : Utf8.encode "\n" ++ (rule ++ [0x0A])
      = Utf8.encode "\n=============================================================\n\n" := by
    decide
  simp only [text, lines, List.flatten_cons, List.flatten_nil, List.append_nil, Utf8.encode_append]
  rw [Wording.banner, ← habove, ← hbelow]
  simp only [List.append_assoc]
  rfl

theorem text_diffed : (diffed case verdict).text = Wording.close := rfl

end Event

end Tandem
