import Rehearsal.Command.Compare
import Rehearsal.Proofs.Step
import Rehearsal.Proofs.Text.Utf8

/-!
# What a comparison comes to

Two texts are compared, and the second is that of a file: they are equal, or the file is a golden file that is to be updated
and gets the first recorded for it, or the line fails (`eval_cmp`).
-/

namespace Rehearsal

open Step (eval)

theorem eval_text (file : String) (s : Script) : eval (Action.text file) s = (s.text file, s) := by
  rw [Action.text, Step.eval_get_bind]
  cases s.text file <;> rfl

namespace Script

theorem ne_stream_of_slash {p : String} (h : '/' ∈ p.toList) : p ≠ "stdout" ∧ p ≠ "stderr" := by
  constructor
  · rintro rfl
    exact absurd h (by decide)
  · rintro rfl
    exact absurd h (by decide)

theorem text_stdout (s : Script) : s.text "stdout" = .ok s.stdout := rfl

theorem text_stderr (s : Script) : s.text "stderr" = .ok s.stderr := rfl

/-- A file holds a text, every line end of which is read as a newline. -/
theorem text_of_read {s : Script} {file text : String} (hfile : file ≠ "stdout" ∧ file ≠ "stderr")
    (h : s.scene.disk.read (Path.clean (s.absolute file)) = .ok (Utf8.encode text)) :
    s.text file = .ok (String.ofList (Line.unifyNewlines text.toList)) := by
  have hout : (file == "stdout") = false := by simpa using hfile.1
  have herr : (file == "stderr") = false := by simpa using hfile.2
  have hchars : Utf8.decodeChars (Utf8.encode text) = .ok text.toList := Utf8.decodeChars_encodeChars text.toList
  rw [Script.text, hout, herr, if_neg Bool.false_ne_true, if_neg Bool.false_ne_true, h]
  simp only [hchars]

/-- A path is absolute where the directory is that it is seen from. -/
theorem absolute_of_isAbsolute {s : Script} {path : String} (h : Path.isAbsolute path = true) : s.absolute path = path := by
  rw [absolute, Path.join, h, if_pos rfl]

end Script

namespace Command

/-- Two texts are compared. -/
theorem eval_cmp {m : Modifier} (hm : m ≠ .negated) {s : Script} {first second old text : String}
    (hfirst : s.text first = .ok old) (htext : s.text (s.absolute second) = .ok text) :
    eval (cmp m [first, second]) s =
      if old = text then (.ok (), s)
      else match golden? s first (s.absolute second) with
        | some name => (.ok (), { s with updates := Table.insert name old s.updates })
        | none =>
          let diff := Diff.unified first second old text
          (.error (.mismatch (.differ first second)), s.logLine s!"[diff -{first} +{second}]\n{diff}") := by
  have hplain : (m == Modifier.negated) = false := by simpa using hm
  have hold : eval (Action.text first) s = (.ok old, s) := by rw [eval_text, hfirst]
  have hpath : eval (absolute second) s = (.ok (s.absolute second), s) := rfl
  have hsecond : eval (Action.text (s.absolute second)) s = (.ok text, s) := by rw [eval_text, htext]
  rw [cmp, compare, hplain, if_neg Bool.false_ne_true]
  refine (Step.eval_bind_of_ok hold).trans ((Step.eval_bind_of_ok hpath).trans ((Step.eval_bind_of_ok hsecond).trans ?_))
  rw [Step.eval_get_bind]
  dsimp only
  by_cases heq : old = text
  · have hbeq : (old == text) = true := by simpa using heq
    simp only [Bool.false_eq_true, if_false, hbeq, if_pos heq, if_true, Step.eval_pure]
  · have hbeq : (old == text) = false := by simpa using heq
    simp only [Bool.false_eq_true, if_false, hbeq, if_neg heq]
    cases golden? s first (s.absolute second) <;> rfl

end Command

end Rehearsal
