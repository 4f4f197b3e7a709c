import Mathlib.Data.List.TakeWhile
import Rehearsal.Proofs.Archive.Reading
import Rehearsal.Settings.Search

/-!
# The settings file that is written

A document of empty lines and comments, with one header of a table among them, holds that table and nothing in it
(`Toml.ofText_of_remarks`). The file that is written for a project is one: `ofText_template` says that it is read, and that it
makes no settings.
-/

namespace Rehearsal.Toml

/-! ## Lines that say nothing -/

/-- Whether a line is empty or a comment. -/
def isRemark : List Char → Bool
  | [] => true
  | c :: text => c == '#' && text.all fun c => !isControl c

variable {line rest cs cs' : List Char} {lines before after : List (List Char)} {d : Document}

theorem not_mem_of_isControl {c : Char} (hc : isControl c = true) (h : isRemark line = true) : c ∉ line := by
  cases line with
  | nil => exact List.not_mem_nil
  | cons first text =>
    rw [isRemark, Bool.and_eq_true, beq_iff_eq] at h
    obtain ⟨rfl, htext⟩ := h
    intro hmem
    rcases List.mem_cons.mp hmem with rfl | hmem
    · exact absurd hc (by decide)
    · have hplain := List.all_eq_true.mp htext c hmem
      rw [hc] at hplain
      cases hplain

/-- A reader goes on from where its first part has come to. -/
theorem run_bind {α β : Type} {a : Reader α} {f : α → Reader β} {x : α} (h : a.run cs = .ok (x, cs')) :
    (a >>= f).run cs = (f x).run cs' := by
  rw [StateT.run_bind, h]
  rfl

theorem run_skipComment {text : List Char} (hplain : text.any isControl = false) (hline : '\n' ∉ text) (rest : List Char) :
    skipComment.run ('#' :: (text ++ '\n' :: rest)) = .ok ((), '\n' :: rest) := by
  have hall : ∀ c ∈ text, (c != '\n') = true := fun c hc => by
    rw [bne_iff_ne]
    rintro rfl
    exact hline hc
  have hmark : (accept "#").run ('#' :: (text ++ '\n' :: rest)) = .ok (true, text ++ '\n' :: rest) := rfl
  have hrun : (takeRun (· != '\n')).run (text ++ '\n' :: rest) = .ok (text, '\n' :: rest) := by
    have htake : (takeRun (· != '\n')).run (text ++ '\n' :: rest) =
        .ok ((text ++ '\n' :: rest).takeWhile (· != '\n'), (text ++ '\n' :: rest).dropWhile (· != '\n')) := rfl
    rw [htake, List.takeWhile_append_of_pos hall, List.dropWhile_append_of_pos hall]
    simp
  rw [skipComment, run_bind hmark, if_pos rfl, run_bind hrun, hplain]
  rfl

theorem run_statements_nil (n : Nat) (d : Document) : (statements n d).run [] = .ok (d, []) := by
  cases n <;> rfl

/-- A line that says nothing is passed. -/
theorem run_statements_remark (h : isRemark line = true) (n : Nat) (d : Document) (rest : List Char) :
    (statements (n + 1) d).run (line ++ '\n' :: rest) = (statements n d).run rest := by
  cases line with
  | nil => rfl
  | cons c text =>
    have hline : '\n' ∉ text := fun hmem => not_mem_of_isControl (by decide) h (List.mem_cons_of_mem _ hmem)
    rw [isRemark, Bool.and_eq_true, beq_iff_eq] at h
    obtain ⟨rfl, htext⟩ := h
    have hskip := run_skipComment (by simpa using htext) hline rest
    have hspace : skipSpace.run ('#' :: (text ++ '\n' :: rest)) = .ok ((), '#' :: (text ++ '\n' :: rest)) := rfl
    have hpeek : peek.run ('#' :: (text ++ '\n' :: rest)) = .ok (some '#', '#' :: (text ++ '\n' :: rest)) := rfl
    have hnewline : ('#' == '\n') = false := by decide
    have hheader : ('#' == '[') = false := by decide
    rw [List.cons_append, statements, run_bind hspace, run_bind hpeek]
    simp only [hnewline, hheader, beq_self_eq_true, if_true, Bool.false_eq_true, if_false, pure_bind]
    rw [run_bind hspace, run_bind hskip]
    rfl

/-- So is any number of them. -/
theorem run_statements_remarks (h : ∀ line ∈ lines, isRemark line = true) (n : Nat) (d : Document) (rest : List Char) :
    (statements (lines.length + n) d).run (lines.flatMap (· ++ ['\n']) ++ rest) = (statements n d).run rest := by
  induction lines with
  | nil => rw [List.length_nil, Nat.zero_add, List.flatMap_nil, List.nil_append]
  | cons line lines ih =>
    have hfuel : (line :: lines).length + n = lines.length + n + 1 := by
      rw [List.length_cons]
      omega
    rw [List.flatMap_cons, List.append_assoc, List.append_assoc, List.singleton_append, hfuel,
      run_statements_remark (h line List.mem_cons_self)]
    exact ih fun l hl => h l (List.mem_cons_of_mem _ hl)

theorem run_statements_header (n : Nat) (rest : List Char) :
    (statements (n + 1) ⟨[], [], [], []⟩).run ("[hlscript]".toList ++ '\n' :: rest) =
      (statements n ⟨[(.text "hlscript", .table [])], [(["hlscript"], .opened)], [], ["hlscript"]⟩).run rest := by
  rw [statements]
  rfl

theorem unifyEnds_of_not_mem (h : '\r' ∉ cs) : unifyEnds cs = cs := by
  induction cs with
  | nil => rfl
  | cons c rest ih =>
    rw [List.mem_cons, not_or] at h
    have hc : (c == '\r') = false := by simpa using Ne.symm h.1
    rw [unifyEnds, hc, Bool.false_and, if_neg Bool.false_ne_true, ih h.2]

theorem length_le_length_flatMap (lines : List (List Char)) : lines.length ≤ (lines.flatMap (· ++ ['\n'])).length := by
  induction lines with
  | nil => exact Nat.le_refl 0
  | cons line lines ih =>
    rw [List.flatMap_cons, List.length_append, List.length_append, List.length_singleton, List.length_cons]
    omega

/-- The characters of a document that opens a table between remarks. -/
def openedBetween (before after : List (List Char)) : List Char :=
  before.flatMap (· ++ ['\n']) ++ ("[hlscript]".toList ++ '\n' :: after.flatMap (· ++ ['\n']))

theorem return_not_mem_remarks (h : ∀ line ∈ lines, isRemark line = true) : '\r' ∉ lines.flatMap (· ++ ['\n']) := by
  intro hmem
  obtain ⟨line, hline, hmem⟩ := List.mem_flatMap.mp hmem
  rcases List.mem_append.mp hmem with hmem | hmem
  · exact not_mem_of_isControl (by decide) (h line hline) hmem
  · exact absurd hmem (by decide)

theorem return_not_mem_openedBetween (hbefore : ∀ line ∈ before, isRemark line = true)
    (hafter : ∀ line ∈ after, isRemark line = true) : '\r' ∉ openedBetween before after := by
  rw [openedBetween]
  intro hmem
  rcases List.mem_append.mp hmem with hmem | hmem
  · exact return_not_mem_remarks hbefore hmem
  rcases List.mem_append.mp hmem with hmem | hmem
  · exact absurd hmem (by decide)
  rcases List.mem_cons.mp hmem with hmem | hmem
  · exact absurd hmem (by decide)
  · exact return_not_mem_remarks hafter hmem

/-- **A document that opens a table between remarks holds that table, and nothing in it.** -/
theorem ofText_of_remarks {s : String} (hs : s.toList = openedBetween before after)
    (hbefore : ∀ line ∈ before, isRemark line = true) (hafter : ∀ line ∈ after, isRemark line = true) :
    ofText s = .ok [(.text "hlscript", .table [])] := by
  have hlength : before.length + 1 + after.length ≤ (openedBetween before after).length := by
    have hb := length_le_length_flatMap before
    have ha := length_le_length_flatMap after
    simp only [openedBetween, List.length_append, List.length_cons]
    omega
  obtain ⟨more, hmore⟩ := Nat.le.dest hlength
  have hfuel : (openedBetween before after).length + 1 = before.length + (after.length + (more + 1) + 1) := by omega
  have hrun : (statements ((openedBetween before after).length + 1) ⟨[], [], [], []⟩).run (openedBetween before after) =
      .ok (⟨[(.text "hlscript", .table [])], [(["hlscript"], .opened)], [], ["hlscript"]⟩, []) := by
    have hrest := run_statements_remarks hafter (more + 1)
      ⟨[(.text "hlscript", .table [])], [(["hlscript"], .opened)], [], ["hlscript"]⟩ []
    rw [List.append_nil] at hrest
    rw [hfuel, openedBetween, run_statements_remarks hbefore, run_statements_header, hrest, run_statements_nil]
  rw [ofText, hs, unifyEnds_of_not_mem (return_not_mem_openedBetween hbefore hafter)]
  rw [hrun]

end Rehearsal.Toml

namespace Rehearsal.Settings

open Toml (isRemark openedBetween)

theorem intercalate_newline (lines : List (List Char)) :
    ['\n'].intercalate (lines ++ [[]]) = lines.flatMap (· ++ ['\n']) := by
  induction lines with
  | nil => rfl
  | cons line lines ih =>
    have hmore : lines ++ [[]] ≠ [] := by simp
    obtain ⟨next, rest, hnext⟩ := List.exists_cons_of_ne_nil hmore
    rw [List.cons_append, hnext, List.intercalate_cons_cons, ← hnext, ih, List.flatMap_cons]

/-- The lines of the file that is written: remarks, the header, and remarks. The last is empty. -/
theorem exists_lines_template : ∃ lines : List (List Char), template.toList = ['\n'].intercalate lines ∧
    lines = lines.take 3 ++ "[hlscript]".toList :: ((lines.drop 4).dropLast ++ [[]]) ∧
    (lines.take 3).all isRemark = true ∧ (lines.drop 4).dropLast.all isRemark = true := by
  rw [template, String.toList_intercalate]
  simp only [List.map_cons, List.map_nil, String.reduceToList]
  refine ⟨_, rfl, ?_, ?_, ?_⟩
  · rfl
  · rfl
  · decide +kernel

/-- The file that is written opens the table between remarks. -/
theorem exists_remarks_template : ∃ before after, template.toList = openedBetween before after ∧
    (∀ line ∈ before, isRemark line = true) ∧ ∀ line ∈ after, isRemark line = true := by
  obtain ⟨lines, htext, hlines, hbefore, hafter⟩ := exists_lines_template
  refine ⟨lines.take 3, (lines.drop 4).dropLast, ?_, List.all_eq_true.mp hbefore, List.all_eq_true.mp hafter⟩
  have hcut := htext.trans (congrArg _ hlines)
  rw [hcut, ← List.cons_append, ← List.append_assoc, intercalate_newline, List.flatMap_append, List.flatMap_cons,
    openedBetween]
  simp only [List.append_assoc, List.singleton_append]

theorem return_not_mem_template : '\r' ∉ template.toList := by
  obtain ⟨before, after, htext, hbefore, hafter⟩ := exists_remarks_template
  rw [htext]
  exact Toml.return_not_mem_openedBetween hbefore hafter

/-- **The file that is written is read, and makes no settings.** -/
theorem ofText_template (file : String) : ofText file template = .ok [] := by
  obtain ⟨before, after, htext, hbefore, hafter⟩ := exists_remarks_template
  rw [ofText, Toml.ofText_of_remarks htext hbefore hafter]
  rfl

end Rehearsal.Settings
