import Mathlib.Data.List.DropRight
import Mathlib.Data.List.TakeWhile
import Rehearsal.Text.Bytes

/-!
# The lines of a byte string

`Bytes.lines` cuts behind newlines. The laws here say what the pieces are: each is a line in the sense of `IsLine`, a
line is the only piece of itself, the pieces in their order are the whole string, and a string that ends in a newline can
be cut by itself wherever it stands in front of another.

`lineInduction` is the induction they all go by: a byte string is empty, or one line without a newline, or a line with
its newline in front of a byte string.

The second half is about the ends of a byte string: what `trimRight` and `trim` take away is blank, and what they leave
has no blank end.
-/

namespace Rehearsal.Bytes

/-! ## Cutting behind newlines -/

theorem lines_newline_cons (rest : Bytes) : lines (newline :: rest) = [newline] :: lines rest := by
  simp [lines]

/-- A newline ends the line in front of it, and what is behind it is cut by itself. -/
theorem lines_append_newline {body : Bytes} (h : newline ∉ body) (rest : Bytes) :
    lines (body ++ newline :: rest) = (body ++ [newline]) :: lines rest := by
  induction body with
  | nil => exact lines_newline_cons rest
  | cons b body ih =>
    have hb : (b == newline) = false := by
      simpa using fun e : b = newline => h (e ▸ List.mem_cons_self)
    have hbody : newline ∉ body := fun m => h (List.mem_cons_of_mem _ m)
    simp only [List.cons_append, lines, hb, ih hbody, Bool.false_eq_true, if_false]

/-- Without a newline there is one line. -/
theorem lines_of_not_mem {body : Bytes} (h : newline ∉ body) (hne : body ≠ []) : lines body = [body] := by
  induction body with
  | nil => exact absurd rfl hne
  | cons b body ih =>
    have hb : (b == newline) = false := by
      simpa using fun e : b = newline => h (e ▸ List.mem_cons_self)
    have hbody : newline ∉ body := fun m => h (List.mem_cons_of_mem _ m)
    cases body with
    | nil => simp [lines, hb]
    | cons c body =>
      have hrest := ih hbody (List.cons_ne_nil _ _)
      rw [lines]
      simp only [hb, hrest, Bool.false_eq_true, if_false]

/-- Induction along the lines of a byte string. -/
@[elab_as_elim]
theorem lineInduction {motive : Bytes → Prop} (nil : motive [])
    (last : ∀ body, newline ∉ body → body ≠ [] → motive body)
    (line : ∀ body rest, newline ∉ body → motive rest → motive (body ++ newline :: rest)) :
    ∀ d, motive d := by
  intro d
  induction hn : d.length using Nat.strongRecOn generalizing d with
  | ind n ih =>
    by_cases hmem : newline ∈ d
    · obtain ⟨body, rest, rfl, hbody⟩ := List.eq_append_cons_of_mem hmem
      refine line body rest hbody (ih rest.length ?_ rest rfl)
      rw [← hn, List.length_append, List.length_cons]
      omega
    · by_cases hd : d = []
      · exact hd ▸ nil
      · exact last d hmem hd

/-- Nothing is lost between the lines. -/
theorem flatten_lines (d : Bytes) : (lines d).flatten = d := by
  induction d using lineInduction with
  | nil => rfl
  | last body h hne => simp [lines_of_not_mem h hne]
  | line body rest h ih => simp [lines_append_newline h, ih]

/-! ## What a line is -/

/-- One line: bytes that are no newlines, with a newline behind them or, if there are any, without. -/
inductive IsLine : Bytes → Prop
  | ended {body : Bytes} : newline ∉ body → IsLine (body ++ [newline])
  | open {body : Bytes} : newline ∉ body → body ≠ [] → IsLine body

/-- Every piece is a line. -/
theorem isLine_of_mem_lines {d line : Bytes} (h : line ∈ lines d) : IsLine line := by
  induction d using lineInduction with
  | nil => cases h
  | last body hbody hne =>
    rw [lines_of_not_mem hbody hne, List.mem_singleton] at h
    exact h ▸ .open hbody hne
  | line body rest hbody ih =>
    rw [lines_append_newline hbody, List.mem_cons] at h
    rcases h with rfl | h
    · exact .ended hbody
    · exact ih h

/-- A line is its own only piece. -/
theorem IsLine.lines_eq {line : Bytes} (h : IsLine line) : lines line = [line] := by
  cases h with
  | ended hbody => exact lines_append_newline hbody []
  | «open» hbody hne => exact lines_of_not_mem hbody hne

/-! ## Final newlines -/

theorem endsInNewline_iff {d : Bytes} : endsInNewline d = true ↔ ∃ front, d = front ++ [newline] := by
  rw [endsInNewline, beq_iff_eq, List.getLast?_eq_some_iff]

/-- A byte string of whole lines: every one of them has its newline. -/
def IsEnded (d : Bytes) : Prop := d = [] ∨ endsInNewline d = true

theorem isEnded_newline (front : Bytes) : IsEnded (front ++ [newline]) := .inr (endsInNewline_iff.mpr ⟨front, rfl⟩)

theorem not_isEnded {body : Bytes} (h : newline ∉ body) (hne : body ≠ []) : ¬IsEnded body := by
  rintro (hnil | hend)
  · exact hne hnil
  · obtain ⟨front, rfl⟩ := endsInNewline_iff.mp hend
    simp at h

/-- What is behind a newline in whole lines is whole lines. -/
theorem isEnded_append_newline {body rest : Bytes} : IsEnded (body ++ newline :: rest) ↔ IsEnded rest := by
  rcases List.eq_nil_or_concat rest with rfl | ⟨front, b, rfl⟩
  · exact iff_of_true (isEnded_newline body) (.inl rfl)
  · simp [IsEnded, endsInNewline, List.getLast?_cons]

/-- Induction along whole lines. -/
@[elab_as_elim]
theorem endedInduction {motive : (d : Bytes) → IsEnded d → Prop} (nil : motive [] (.inl rfl))
    (line : ∀ body rest (_ : newline ∉ body) (hrest : IsEnded rest), motive rest hrest →
      motive (body ++ newline :: rest) (isEnded_append_newline.mpr hrest)) :
    ∀ d (h : IsEnded d), motive d h := by
  intro d
  induction d using lineInduction with
  | nil => exact fun _ => nil
  | last body h hne => exact fun hend => absurd hend (not_isEnded h hne)
  | line body rest h ih => exact fun hend => line body rest h _ (ih (isEnded_append_newline.mp hend))

/-- Whole lines are cut by themselves in front of others. -/
theorem lines_append {d : Bytes} (h : IsEnded d) (rest : Bytes) : lines (d ++ rest) = lines d ++ lines rest := by
  induction d, h using endedInduction with
  | nil => rfl
  | line body more hbody _ ih =>
    rw [List.append_assoc, List.cons_append, lines_append_newline hbody, lines_append_newline hbody, ih,
      List.cons_append]

/-! ## The ends of a byte string -/

/-- What is cut off at the end is a run of the byte, and what stays does not end in it. -/
theorem exists_trimRight (b : UInt8) (d : Bytes) :
    ∃ n, d = trimRight b d ++ List.replicate n b ∧ (trimRight b d).getLast? ≠ some b := by
  induction d using List.reverseRecOn with
  | nil => exact ⟨0, rfl, by simp [trimRight]⟩
  | append_singleton d c ih =>
    by_cases hc : c = b
    · obtain ⟨n, hd, hlast⟩ := ih
      have htrim : trimRight b (d ++ [c]) = trimRight b d := by simp [trimRight, hc]
      rw [htrim]
      refine ⟨n + 1, ?_, hlast⟩
      rw [List.replicate_succ', ← List.append_assoc, ← hd, hc]
    · have htrim : trimRight b (d ++ [c]) = d ++ [c] := by simp [trimRight, hc]
      rw [htrim]
      exact ⟨0, by simp, by simpa using hc⟩

/-- A run of the byte at the end is cut off whole. -/
theorem trimRight_append_replicate {b : UInt8} {d : Bytes} (h : d.getLast? ≠ some b) (n : Nat) :
    trimRight b (d ++ List.replicate n b) = d := by
  induction n with
  | zero =>
    rcases List.eq_nil_or_concat d with rfl | ⟨front, c, rfl⟩
    · rfl
    · have hc : ¬c = b := by simpa using h
      simp [trimRight, hc]
  | succ n ih =>
    rw [List.replicate_succ', ← List.append_assoc]
    simpa [trimRight] using ih

/-- Cutting its newline off a line leaves the bytes in front. -/
theorem trimRight_newline_ended {body : Bytes} (h : newline ∉ body) :
    trimRight newline (body ++ [newline]) = body :=
  trimRight_append_replicate (fun hlast => h (List.mem_of_getLast? hlast)) 1

theorem trimRight_newline_open {body : Bytes} (h : newline ∉ body) : trimRight newline body = body := by
  simpa using trimRight_append_replicate (fun hlast => h (List.mem_of_getLast? hlast)) 0

/-- No newline is left in a line whose end is cut off. -/
theorem IsLine.newline_not_mem_trimRight {line : Bytes} (h : IsLine line) : newline ∉ trimRight newline line := by
  cases h with
  | ended hbody => rwa [trimRight_newline_ended hbody]
  | «open» hbody _ => rwa [trimRight_newline_open hbody]

/-- A byte string with no blank at either end. -/
structure Trimmed (d : Bytes) : Prop where
  head : ∀ b ∈ d.head?, isBlank b = false
  last : ∀ b ∈ d.getLast?, isBlank b = false

theorem Trimmed.trim_eq {d : Bytes} (h : Trimmed d) : trim d = d := by
  cases d with
  | nil => rfl
  | cons b rest =>
    have hfront : (b :: rest).dropWhile isBlank = b :: rest :=
      List.dropWhile_cons_of_neg (by simpa using h.head b rfl)
    obtain ⟨front, c, heq⟩ := List.eq_nil_or_concat (b :: rest) |>.resolve_left (List.cons_ne_nil _ _)
    have hback : (front.concat c).reverse.dropWhile isBlank = (front.concat c).reverse := by
      have hc : isBlank c = false := h.last c (by simp [heq])
      simp [hc]
    rw [trim, hfront, heq, hback, List.reverse_reverse]

/-- What `trim` takes away at the ends is blank, and what it leaves has no blank end. -/
theorem exists_trim (d : Bytes) :
    ∃ front back, d = front ++ trim d ++ back ∧ (∀ b ∈ front, isBlank b = true) ∧
      (∀ b ∈ back, isBlank b = true) ∧ Trimmed (trim d) := by
  let rest := d.dropWhile isBlank
  have hrest : rest = trim d ++ (rest.reverse.takeWhile isBlank).reverse := by
    rw [trim, ← List.reverse_append, List.takeWhile_append_dropWhile, List.reverse_reverse]
  refine ⟨d.takeWhile isBlank, (rest.reverse.takeWhile isBlank).reverse, ?_, ?_, ?_, ?_, ?_⟩
  · rw [List.append_assoc, ← hrest, List.takeWhile_append_dropWhile]
  · exact fun b hb => List.mem_takeWhile_imp hb
  · exact fun b hb => List.mem_takeWhile_imp (List.mem_reverse.mp hb)
  · -- The front of what is left is the front of `rest`, unless nothing is left.
    intro b hb
    obtain ⟨tail, htail⟩ : ∃ tail, trim d = b :: tail := by
      cases ht : trim d with
      | nil => simp [ht] at hb
      | cons c tail => exact ⟨tail, by simp_all⟩
    have hhead : (d.dropWhile isBlank).head? = some b := by
      show rest.head? = some b
      rw [hrest, htail]
      rfl
    simpa [hhead] using List.head?_dropWhile_not isBlank d
  · intro b hb
    rw [trim, List.getLast?_reverse] at hb
    have hnot := List.head?_dropWhile_not isBlank rest.reverse
    rw [Option.mem_def.mp hb] at hnot
    exact hnot

end Rehearsal.Bytes
