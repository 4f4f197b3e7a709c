import Rehearsal.Proofs.Script.Change
import Rehearsal.Script.Phase
import Rehearsal.Transcript

/-!
# What commands log

Texts written one after the other are one text (`Transcript.write_write`), so all that commands do to a transcript is to
append to it: `Logs` covers every change. `Whole` transcripts have no gap before the place of writing; for them `logged` is
what was appended.
-/

namespace Rehearsal

open Step (eval Keeps Lasting)

namespace Transcript

/-! ## Writing and cutting -/

/-- A transcript that is written on at its end. -/
def Whole (t : Transcript) : Prop := t.position = t.text.length

theorem whole_empty : empty.Whole := rfl

@[simp] theorem write_empty (t : Transcript) : t.write "" = t := rfl

theorem Whole.write {t : Transcript} (h : t.Whole) (s : String) :
    t.write s = ⟨t.text ++ s.toList, (t.text ++ s.toList).length⟩ := by
  rw [Transcript.write]
  split
  next hs =>
    rw [String.isEmpty_iff] at hs
    obtain ⟨text, position⟩ := t
    obtain rfl : position = text.length := h
    simp [hs]
  next =>
    have hgap : t.position - t.text.length = 0 := by rw [h, Nat.sub_self]
    simp only [hgap, List.replicate_zero, List.append_nil]

theorem whole_write {t : Transcript} (h : t.Whole) (s : String) : (t.write s).Whole := by
  rw [h.write]
  rfl

/-- Two texts written one after the other are one text. -/
theorem write_write (t : Transcript) (a b : String) : (t.write a).write b = t.write (a ++ b) := by
  by_cases ha : a = ""
  · rw [ha, write_empty, String.empty_append]
  · have hwhole : (t.write a).Whole := by
      rw [Transcript.write, if_neg (by simpa using ha)]
      rfl
    rw [hwhole.write, Transcript.write, Transcript.write, if_neg (by simpa using ha), if_neg (by simp [ha])]
    simp [String.toList_append]

/-- A transcript cut back to what it began with. -/
theorem truncate_append (front back : List Char) (position : Nat) :
    truncate ⟨front ++ back, position⟩ front.length = ⟨front, front.length⟩ := by
  rw [truncate, List.take_left]

end Transcript

/-! ## Logging -/

/-- What can have happened to a script in which only commands were carried out, as far as its transcript is concerned. -/
structure Logs (s t : Script) : Prop where
  plan : t.plan = s.plan
  file : t.file = s.file
  mark : t.mark = s.mark
  phaseStart : t.phaseStart = s.phaseStart
  lineNumber : t.lineNumber = s.lineNumber
  log : ∃ text, t.log = s.log.write text

theorem Logs.of_log_eq {s t : Script} (plan : t.plan = s.plan) (file : t.file = s.file) (mark : t.mark = s.mark)
    (phaseStart : t.phaseStart = s.phaseStart) (lineNumber : t.lineNumber = s.lineNumber) (log : t.log = s.log) :
    Logs s t :=
  ⟨plan, file, mark, phaseStart, lineNumber, "", by rw [log, Transcript.write_empty]⟩

/-- Whatever a command does, it appends to the transcript and leaves what was there. -/
instance : Covers Logs where
  refl s := .of_log_eq rfl rfl rfl rfl rfl rfl
  trans h h' := by
    obtain ⟨a, ha⟩ := h.log
    obtain ⟨b, hb⟩ := h'.log
    exact ⟨h'.plan.trans h.plan, h'.file.trans h.file, h'.mark.trans h.mark, h'.phaseStart.trans h.phaseStart,
      h'.lineNumber.trans h.lineNumber, a ++ b, by rw [hb, ha, Transcript.write_write]⟩
  change h := by
    cases h with
    | write text => exact ⟨rfl, rfl, rfl, rfl, rfl, text, rfl⟩
    | _ => exact .of_log_eq rfl rfl rfl rfl rfl rfl

/-- What was logged between two states of a script. -/
def Script.logged (s t : Script) : List Char := t.log.text.drop s.log.text.length

/-- What was logged stands behind what was there. -/
theorem Logs.text_eq {s t : Script} (h : Logs s t) (hwhole : s.log.Whole) :
    t.log = ⟨s.log.text ++ s.logged t, (s.log.text ++ s.logged t).length⟩ := by
  obtain ⟨text, htext⟩ := h.log
  have hlogged : s.logged t = text.toList := by
    rw [Script.logged, htext, hwhole.write, List.drop_left]
  rw [hlogged, htext, hwhole.write]

/-- What is logged in one go and in another is logged in both together. -/
theorem Logs.logged_trans {s t u : Script} (h : Logs s t) (h' : Logs t u) (hwhole : s.log.Whole) :
    s.logged u = s.logged t ++ t.logged u := by
  have ht := h.text_eq hwhole
  have htwhole : t.log.Whole := by rw [ht]; rfl
  rw [Script.logged, h'.text_eq htwhole, ht, List.append_assoc, List.drop_left]

end Rehearsal
