import Rehearsal.Proofs.Archive.Marker

/-!
# Sections and their final newlines

A section of an archive is given a final newline if it lacks one. This adds nothing to whole lines
(`fixNewline_of_isEnded`), and of other byte strings it completes the last line alone (`fixNewline_append_newline`,
`lines_fixNewline`), so that what marks no file marks none afterwards (`isPlain_fixNewline`).
-/

namespace Rehearsal.Archive

open Bytes (newline endsInNewline IsLine IsEnded)

theorem fixNewline_of_isEnded {d : Bytes} (h : IsEnded d) : fixNewline d = d := by
  rw [fixNewline, if_pos]
  rcases h with rfl | h
  · rfl
  · rw [h, Bool.or_true]

theorem isEnded_fixNewline (d : Bytes) : IsEnded (fixNewline d) := by
  rw [fixNewline]
  split
  next h =>
    rw [Bool.or_eq_true, List.isEmpty_iff] at h
    exact h
  next => exact Bytes.isEnded_newline d

@[simp] theorem fixNewline_fixNewline (d : Bytes) : fixNewline (fixNewline d) = fixNewline d :=
  fixNewline_of_isEnded (isEnded_fixNewline d)

@[simp] theorem fixNewline_nil : fixNewline [] = [] := rfl

theorem fixNewline_of_not_mem {body : Bytes} (h : newline ∉ body) (hne : body ≠ []) :
    fixNewline body = body ++ [newline] := by
  rw [fixNewline, if_neg]
  rw [Bool.or_eq_true, List.isEmpty_iff]
  exact Bytes.not_isEnded h hne

/-- The last byte alone decides what is added. -/
theorem fixNewline_concat (front : Bytes) (b : UInt8) :
    fixNewline (front ++ [b]) = front ++ [b] ++ if b = newline then [] else [newline] := by
  by_cases hb : b = newline <;> simp [fixNewline, endsInNewline, hb]

/-- Only the end of a byte string is given a newline. -/
theorem fixNewline_append_newline (body rest : Bytes) :
    fixNewline (body ++ newline :: rest) = body ++ newline :: fixNewline rest := by
  rcases List.eq_nil_or_concat rest with rfl | ⟨front, b, rfl⟩
  · exact fixNewline_of_isEnded (Bytes.isEnded_newline body)
  · have hfront : body ++ newline :: (front ++ [b]) = (body ++ newline :: front) ++ [b] := by simp
    rw [List.concat_eq_append, hfront, fixNewline_concat, fixNewline_concat]
    simp

theorem fixNewline_append {d : Bytes} (h : IsEnded d) (rest : Bytes) : fixNewline (d ++ rest) = d ++ fixNewline rest := by
  induction d, h using Bytes.endedInduction with
  | nil => rfl
  | line body more _ _ ih =>
    rw [List.append_assoc, List.cons_append, fixNewline_append_newline, ih, List.append_assoc, List.cons_append]

/-- Giving a section its newline gives it to every line, which only the last can lack. -/
theorem lines_fixNewline (d : Bytes) : Bytes.lines (fixNewline d) = (Bytes.lines d).map fixNewline := by
  induction d using Bytes.lineInduction with
  | nil => rfl
  | last body h hne =>
    rw [Bytes.lines_of_not_mem h hne, fixNewline_of_not_mem h hne, Bytes.lines_append_newline h,
      List.map_singleton, fixNewline_of_not_mem h hne]
    rfl
  | line body rest h ih =>
    have hended : fixNewline (body ++ [newline]) = body ++ [newline] := fixNewline_append_newline body []
    rw [fixNewline_append_newline, Bytes.lines_append_newline h, Bytes.lines_append_newline h, ih,
      List.map_cons, hended]

/-- A line and the same line with a newline are told apart by nothing else. -/
theorem trimRight_fixNewline {line : Bytes} (h : IsLine line) :
    Bytes.trimRight newline (fixNewline line) = Bytes.trimRight newline line := by
  cases h with
  | ended hbody => rw [fixNewline_append_newline, fixNewline_nil]
  | «open» hbody hne =>
    rw [fixNewline_of_not_mem hbody hne, Bytes.trimRight_newline_ended hbody, Bytes.trimRight_newline_open hbody]

theorem IsLine.fixNewline {line : Bytes} (h : IsLine line) : IsLine (fixNewline line) := by
  cases h with
  | ended hbody =>
    rw [fixNewline_append_newline, fixNewline_nil]
    exact .ended hbody
  | «open» hbody hne =>
    rw [fixNewline_of_not_mem hbody hne]
    exact .ended hbody

theorem isPlain_nil : IsPlain [] := fun _ h => nomatch h

theorem isPlain_fixNewline {d : Bytes} (h : IsPlain d) : IsPlain (fixNewline d) := by
  intro line hline
  rw [lines_fixNewline] at hline
  obtain ⟨old, hold, rfl⟩ := List.mem_map.mp hline
  rw [trimRight_fixNewline (Bytes.isLine_of_mem_lines hold)]
  exact h old hold

end Rehearsal.Archive
