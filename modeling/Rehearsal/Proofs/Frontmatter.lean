import Mathlib.Data.List.TakeWhile
import Rehearsal.Frontmatter
import Rehearsal.Proofs.Text.Split

/-!
# Front matter and the numbers of lines

A block of settings is found between two lines of dashes, and newlines are left in its place. `lines_of_split` says that
no line behind the block changes its number: the lines of the block are empty, and all others are where they were.
`lines_of_read` is the same for a script with a block or without.
-/

namespace Rehearsal.Frontmatter

/-- What stands behind the first line of a text, and whether that line has a newline. -/
inductive BehindLine : List Char → Bool → List Char → Prop
  | ended {line more : List Char} : '\n' ∉ line → BehindLine (line ++ '\n' :: more) true more
  | last {line : List Char} : '\n' ∉ line → BehindLine line false []

/-- A line of dashes is one line. -/
theorem behindLine_of_afterMark? {cs more : List Char} {newline : Bool} (h : afterMark? cs = some (newline, more)) :
    BehindLine cs newline more := by
  unfold afterMark? at h
  split at h
  next rest =>
    let blank (c : Char) : Bool := c == ' ' || c == '\t'
    have hblank : '\n' ∉ rest.takeWhile blank := by
      intro hmem
      have hnewline : blank '\n' = true := List.mem_takeWhile_imp hmem
      exact absurd hnewline (by decide)
    have hdashes : '\n' ∉ ['-', '-', '-'] ++ rest.takeWhile blank := by
      rw [List.mem_append, not_or]
      exact ⟨by decide, hblank⟩
    have hline : '-' :: '-' :: '-' :: rest = ['-', '-', '-'] ++ rest.takeWhile blank ++ rest.dropWhile blank := by
      rw [List.append_assoc, List.takeWhile_append_dropWhile]
      rfl
    rw [hline]
    split at h
    next hdrop =>
      cases h
      rw [show rest.dropWhile blank = [] from hdrop, List.append_nil]
      exact .last hdashes
    next behind hdrop =>
      cases h
      rw [show rest.dropWhile blank = '\n' :: more from hdrop]
      exact .ended hdashes
    next => cases h
  next => cases h

/-- A block is followed by the line that closes it. -/
theorem exists_of_splitAtMark {atStart : Bool} {cs block more : List Char} {newline : Bool}
    (h : splitAtMark atStart cs = some (block, newline, more)) :
    ∃ rest, cs = block ++ rest ∧ BehindLine rest newline more := by
  induction cs generalizing atStart block with
  | nil => cases h
  | cons c cs ih =>
    rw [splitAtMark] at h
    split at h
    next hmark =>
      cases h
      refine ⟨c :: cs, rfl, behindLine_of_afterMark? ?_⟩
      cases atStart with
      | true => exact hmark
      | false => cases hmark
    next =>
      obtain ⟨⟨inner, newline, more⟩, hinner, heq⟩ := Option.map_eq_some_iff.mp h
      cases heq
      obtain ⟨rest, hcs, hrest⟩ := ih hinner
      exact ⟨rest, by rw [hcs, List.cons_append], hrest⟩

/-- Where `n` newlines are in front of the line that closes a block, the body behind the block is the text with its
first `n + 1` lines empty. If that line is the last one, an empty line stands for it. -/
theorem lines_of_behindLine (front : List Char) {rest more : List Char} {newline : Bool}
    (h : BehindLine rest newline more) :
    let n := front.count '\n' + 1
    n ≤ ((front ++ rest).splitOn '\n').length ∧
      (List.replicate (front.count '\n' + if newline then 1 else 0) '\n' ++ more).splitOn '\n' =
        List.replicate n [] ++ ((front ++ rest).splitOn '\n').drop n := by
  intro n
  cases h with
  | @ended line more hline =>
    have hcount : (front ++ line).count '\n' = front.count '\n' := by
      rw [List.count_append, List.count_eq_zero.mpr hline, Nat.add_zero]
    have hdrop := Line.drop_splitOn '\n' (front ++ line) more
    rw [hcount, List.append_assoc] at hdrop
    constructor
    · rw [Line.length_splitOn, List.count_append]
      omega
    · rw [if_pos rfl, Line.splitOn_replicate_append, hdrop]
  | last hline =>
    have hlength : ((front ++ rest).splitOn '\n').length = n := by
      rw [Line.length_splitOn, List.count_append, List.count_eq_zero.mpr hline, Nat.add_zero]
    constructor
    · exact hlength.ge
    · rw [List.drop_of_length_le hlength.le, if_neg Bool.false_ne_true, Line.splitOn_replicate_append, List.splitOn_nil,
        List.append_nil, Nat.add_zero]
      exact List.replicate_succ'.symm

/-- **Where a block stands in front, its lines are left empty and no other line moves.** -/
theorem lines_of_split {script block body : String} (h : split script = some (block, body)) :
    ∃ n ≤ (Line.split script).length,
      Line.split body = List.replicate n "" ++ (Line.split script).drop n := by
  unfold split at h
  split at h
  next cs hopen =>
    obtain ⟨⟨inner, newline, more⟩, hinner, heq⟩ := Option.map_eq_some_iff.mp h
    obtain ⟨-, rfl⟩ := Prod.mk.inj heq
    obtain ⟨rest, rfl, hrest⟩ := exists_of_splitAtMark hinner
    obtain ⟨first, hfirst, hscript⟩ : ∃ first, '\n' ∉ first ∧ script.toList = first ++ '\n' :: inner ++ rest := by
      generalize script.toList = whole at hopen
      cases behindLine_of_afterMark? hopen with
      | @ended line _ hline => exact ⟨line, hline, by simp⟩
    have hcount : (first ++ '\n' :: inner).count '\n' = 1 + inner.count '\n' := by
      rw [List.count_append, List.count_cons_self, List.count_eq_zero.mpr hfirst]
      omega
    obtain ⟨hlength, hlines⟩ := lines_of_behindLine (first ++ '\n' :: inner) hrest
    rw [hcount] at hlength hlines
    refine ⟨1 + inner.count '\n' + 1, ?_, ?_⟩
    · rwa [Line.split, Line.splitOn_eq, List.length_map, hscript]
    · simp only [Line.split, Line.splitOn_eq, String.toList_ofList, hscript, hlines, List.map_append, List.map_drop,
        List.map_replicate, String.ofList_nil]
  next => cases h

/-- **The lines of a script keep their numbers when its settings are read.** Those of the block are empty; all of them
stay where there is no block. -/
theorem lines_of_read {script body : String} {settings : Option Frontmatter}
    (h : (read script).result = .ok (settings, body)) :
    ∃ n ≤ (Line.split script).length,
      Line.split body = List.replicate n "" ++ (Line.split script).drop n ∧ (split script = none → n = 0) := by
  unfold read at h
  cases hsplit : split script with
  | none =>
    simp only [hsplit] at h
    cases h
    exact ⟨0, Nat.zero_le _, rfl, fun _ => rfl⟩
  | some found =>
    obtain ⟨block, rest⟩ := found
    obtain ⟨n, hn, hlines⟩ := lines_of_split hsplit
    have hrest : rest = body := by
      simp only [hsplit] at h
      split at h
      · cases h
        rfl
      · cases hblock : (ofBlock block).2 with
        | error e =>
          simp only [hblock, Except.map] at h
          cases h
        | ok found =>
          simp only [hblock, Except.map] at h
          cases h
          rfl
    exact ⟨n, hn, hrest ▸ hlines, fun hnone => nomatch hnone⟩

end Rehearsal.Frontmatter
