import Rehearsal.Archive.Quoting
import Rehearsal.Proofs.Archive.Section

/-!
# The search for marker lines

An archive is read by jumping from one opening of a marker line to the next. That finds what is found by looking at every
line in turn: `parse_eq_ofLines` and `needsQuote_eq_anyMarker` say so of all byte strings, and whatever else is said about
reading goes along the lines.

The search is taken line by line in `findMarker_append_newline`. A line that is jumped over begins with no opening, so it is
no marker; one that is tried and found to be none is passed over whole, because the next opening is looked for from there on.
-/

namespace Rehearsal.Archive

open Bytes (newline)

/-! ## Reading line by line -/

/-- Reads lines from the first on: the section in front of the first marker, and the files behind it. A line
that is no marker belongs to the section before it, and only the last line of all can lack its newline, which
it is given. The first marker whose name is not UTF-8 ends the reading. -/
def ofLines : List Bytes → Except Utf8.DecodeError Archive
  | [] => .ok empty
  | line :: rest =>
    match markerName? (Bytes.trimRight newline line) with
    | .error e => .error e
    | .ok name? =>
      match ofLines rest with
      | .error e => .error e
      | .ok tail =>
        match name? with
        | some name => .ok ⟨[], ⟨name, tail.comment⟩ :: tail.files⟩
        | none => .ok ⟨fixNewline line ++ tail.comment, tail.files⟩

/-- Whether some line is a marker. The search ends at the first marker, so a later one whose name is not
UTF-8 does no harm. -/
def anyMarker : List Bytes → Except Utf8.DecodeError Bool
  | [] => .ok false
  | line :: rest =>
    match markerName? (Bytes.trimRight newline line) with
    | .error e => .error e
    | .ok (some _) => .ok true
    | .ok none => anyMarker rest

/-! ## The first line -/

theorem takeWhile_append_newline {body : Bytes} (h : newline ∉ body) (rest : Bytes) :
    (body ++ newline :: rest).takeWhile (· != newline) = body ∧
      (body ++ newline :: rest).dropWhile (· != newline) = newline :: rest := by
  have hbody : ∀ b ∈ body, (b != newline) = true := fun b hb => bne_iff_ne.mpr fun heq => h (heq ▸ hb)
  rw [List.takeWhile_append_of_pos hbody, List.dropWhile_append_of_pos hbody]
  simp

theorem takeWhile_of_not_mem {body : Bytes} (h : newline ∉ body) :
    body.takeWhile (· != newline) = body ∧ body.dropWhile (· != newline) = [] := by
  have hbody : ∀ b ∈ body, (b != newline) = true := fun b hb => bne_iff_ne.mpr fun heq => h (heq ▸ hb)
  exact ⟨List.takeWhile_eq_self_iff.mpr hbody, List.dropWhile_eq_nil_iff.mpr hbody⟩

theorem leadingMarker?_append_newline {body : Bytes} (h : newline ∉ body) (rest : Bytes) :
    leadingMarker? (body ++ newline :: rest) =
      match markerName? body with
      | .error e => .error e
      | .ok none => .ok none
      | .ok (some name) => .ok (some (name, rest)) := by
  rw [leadingMarker?, (takeWhile_append_newline h rest).1, (takeWhile_append_newline h rest).2]
  rfl

theorem leadingMarker?_of_not_mem {body : Bytes} (h : newline ∉ body) :
    leadingMarker? body =
      match markerName? body with
      | .error e => .error e
      | .ok none => .ok none
      | .ok (some name) => .ok (some (name, [])) := by
  rw [leadingMarker?, (takeWhile_of_not_mem h).1, (takeWhile_of_not_mem h).2]
  rfl

/-- A line that does not begin as a marker does is none. -/
theorem leadingMarker?_of_not_opening {d : Bytes} (h : ¬opening <+: d) : leadingMarker? d = .ok none := by
  have hline : markerName? (d.takeWhile (· != newline)) = .ok none := by
    rw [markerName?_eq_none_iff]
    rintro ⟨body, n, hshape, -⟩
    have hfront : opening <+: d.takeWhile (· != newline) :=
      ⟨body ++ closing ++ List.replicate n Bytes.carriageReturn, by rw [hshape]; simp⟩
    exact h (hfront.trans (d.takeWhile_prefix _))
  rw [leadingMarker?, hline]

/-! ## The next opening -/

theorem nextOpening?_append_newline {body : Bytes} (h : newline ∉ body) (rest : Bytes) :
    nextOpening? (body ++ newline :: rest) =
      if opening.isPrefixOf rest then some (body ++ [newline], rest)
      else (nextOpening? rest).map fun p => (body ++ newline :: p.1, p.2) := by
  induction body with
  | nil =>
    rw [List.nil_append, nextOpening?, beq_self_eq_true, Bool.true_and]
    cases nextOpening? rest <;> rfl
  | cons b body ih =>
    rw [List.mem_cons, not_or] at h
    have hb : (b == newline) = false := beq_eq_false_iff_ne.mpr (Ne.symm h.1)
    rw [List.cons_append, nextOpening?, hb, Bool.false_and, if_neg Bool.false_ne_true, ih h.2]
    cases opening.isPrefixOf rest with
    | true => rfl
    | false => cases nextOpening? rest <;> rfl

theorem nextOpening?_of_not_mem {body : Bytes} (h : newline ∉ body) : nextOpening? body = none := by
  induction body with
  | nil => rfl
  | cons b body ih =>
    rw [List.mem_cons, not_or] at h
    have hb : (b == newline) = false := beq_eq_false_iff_ne.mpr (Ne.symm h.1)
    rw [nextOpening?, hb, Bool.false_and, if_neg Bool.false_ne_true, ih h.2]

/-! ## The first marker -/

/-- What was found behind a byte string that no marker begins in. -/
def behind (front : Bytes) (found : Bytes × Option (String × Bytes)) : Bytes × Option (String × Bytes) :=
  (front ++ found.1, found.2)

/-- The search tries the front, and then what the next opening begins. -/
theorem findMarker_eq (d : Bytes) :
    findMarker d =
      match leadingMarker? d with
      | .error e => .error e
      | .ok (some found) => .ok ([], some found)
      | .ok none =>
        match nextOpening? d with
        | none => .ok (fixNewline d, none)
        | some p => (findMarker p.2).map (behind p.1) := by
  rw [findMarker]
  rcases leadingMarker? d with e | _ | found
  · rfl
  · dsimp only
    split
    next hnext => rw [hnext]
    next front back hnext =>
      rw [hnext]
      dsimp only
      cases findMarker back <;> rfl
  · rfl

/-- A line in front is the marker, or the search goes on behind it. -/
theorem findMarker_append_newline {body : Bytes} (h : newline ∉ body) (rest : Bytes) :
    findMarker (body ++ newline :: rest) =
      match markerName? body with
      | .error e => .error e
      | .ok (some name) => .ok ([], some (name, rest))
      | .ok none => (findMarker rest).map (behind (body ++ [newline])) := by
  rw [findMarker_eq, leadingMarker?_append_newline h, nextOpening?_append_newline h]
  rcases markerName? body with e | _ | name
  · rfl
  · dsimp only
    by_cases hrest : opening <+: rest
    · -- The line behind is tried next.
      rw [if_pos (List.isPrefixOf_iff_prefix.mpr hrest)]
    · -- The line behind is no marker, and the search goes on as it does from there.
      rw [if_neg (mt List.isPrefixOf_iff_prefix.mp hrest), findMarker_eq rest, leadingMarker?_of_not_opening hrest]
      cases nextOpening? rest with
      | none => simp [Except.map, behind, fixNewline_append_newline]
      | some p =>
        rw [Option.map_some]
        dsimp only
        cases findMarker p.2 <;> simp [Except.map, behind]
  · rfl

/-- A last line without a newline is the marker, or there is none. -/
theorem findMarker_of_not_mem {body : Bytes} (h : newline ∉ body) :
    findMarker body =
      match markerName? body with
      | .error e => .error e
      | .ok (some name) => .ok ([], some (name, []))
      | .ok none => .ok (fixNewline body, none) := by
  rw [findMarker_eq, leadingMarker?_of_not_mem h, nextOpening?_of_not_mem h]
  rcases markerName? body with e | _ | name <;> rfl

/-! ## All markers -/

/-- A section with bytes in front of it. -/
def withFront (front : Bytes) (a : Archive) : Archive := { a with comment := front ++ a.comment }

@[simp] theorem parse_nil : parse [] = .ok empty := by
  rw [parse, findMarker_of_not_mem List.not_mem_nil]
  rfl

/-- Bytes that no marker begins in stand in front of the comment. -/
theorem parse_of_findMarker {d front rest : Bytes} (h : findMarker d = (findMarker rest).map (behind front)) :
    parse d = (parse rest).map (withFront front) := by
  rw [parse, parse.eq_1 rest, h]
  rcases findMarker rest with e | ⟨before, _ | ⟨name, after⟩⟩
  · rfl
  · rfl
  · dsimp only [Except.map, behind]
    cases parse after <;> rfl

/-- A file with the section that an archive begins with, in front of its files. -/
def withFile (name : String) (a : Archive) : Archive := ⟨[], ⟨name, a.comment⟩ :: a.files⟩

/-- A line in front begins a file with the section behind it, or belongs to that section. -/
theorem parse_append_newline {body : Bytes} (h : newline ∉ body) (rest : Bytes) :
    parse (body ++ newline :: rest) =
      match markerName? body with
      | .error e => .error e
      | .ok none => (parse rest).map (withFront (body ++ [newline]))
      | .ok (some name) => (parse rest).map (withFile name) := by
  have hfind := findMarker_append_newline h rest
  rcases hname : markerName? body with e | _ | name
  all_goals rw [hname] at hfind
  · rw [parse, hfind]
  · exact parse_of_findMarker hfind
  · rw [parse, hfind]
    dsimp only
    cases parse rest <;> rfl

/-- **Reading an archive is reading it line by line.** -/
theorem parse_eq_ofLines (d : Bytes) : parse d = ofLines (Bytes.lines d) := by
  induction d using Bytes.lineInduction with
  | nil => exact parse_nil
  | last body h hne =>
    rw [Bytes.lines_of_not_mem h hne, ofLines, Bytes.trimRight_newline_open h, ofLines, parse, findMarker_of_not_mem h]
    rcases markerName? body with e | _ | name
    · rfl
    · simp [empty]
    · simp [empty]
  | line body rest h ih =>
    have hended : fixNewline (body ++ [newline]) = body ++ [newline] := fixNewline_append_newline body []
    rw [Bytes.lines_append_newline h, ofLines, Bytes.trimRight_newline_ended h, ← ih, hended, parse_append_newline h]
    rcases markerName? body with e | _ | name
    · rfl
    all_goals cases parse rest <;> rfl

/-- **Contents must be quoted exactly if a line of them is a marker.** -/
theorem needsQuote_eq_anyMarker (d : Bytes) : needsQuote d = anyMarker (Bytes.lines d) := by
  induction d using Bytes.lineInduction with
  | nil =>
    rw [needsQuote, findMarker_of_not_mem List.not_mem_nil]
    rfl
  | last body h hne =>
    rw [Bytes.lines_of_not_mem h hne, anyMarker, Bytes.trimRight_newline_open h, anyMarker, needsQuote,
      findMarker_of_not_mem h]
    rcases markerName? body with e | _ | name <;> rfl
  | line body rest h ih =>
    rw [Bytes.lines_append_newline h, anyMarker, Bytes.trimRight_newline_ended h, ← ih, needsQuote,
      findMarker_append_newline h rest]
    rcases markerName? body with e | _ | name
    · rfl
    · rw [needsQuote]
      cases findMarker rest <;> rfl
    · rfl

end Rehearsal.Archive
