import Rehearsal.Proofs.Archive.RoundTrip
import Rehearsal.Proofs.Text.Split

/-!
# The comment of an archive in its file

The comment is the front of the file, up to the final newline it is given (`comment_of_parse`). So a line of the script
that is not empty is the line of the same number in the file (`line_of_comment`). An empty line is left out of the
statement for a reason: a comment that ends in a newline has one empty line behind it, where the file may go on with a
marker.
-/

namespace Rehearsal

namespace Utf8

open Bytes (newline)

/-- A character that is no newline has no newline in its code. -/
theorem newline_not_mem_encodeChars {cs : List Char} (h : '\n' ∉ cs) : newline ∉ encodeChars cs := by
  intro hmem
  have hiff := mem_encode_iff (s := String.ofList cs) (b := newline) (by decide)
  rw [encode, String.toList_ofList] at hiff
  exact h (hiff.mp hmem)

/-- The lines of an encoded text are the codes of its lines. -/
theorem splitOn_encodeChars (cs : List Char) :
    (encodeChars cs).splitOn newline = (cs.splitOn '\n').map encodeChars := by
  induction hn : cs.length using Nat.strongRecOn generalizing cs with
  | ind n ih =>
    by_cases hmem : '\n' ∈ cs
    · obtain ⟨line, rest, rfl, hline⟩ := List.eq_append_cons_of_mem hmem
      have hrest : rest.length < n := by
        rw [← hn, List.length_append, List.length_cons]
        omega
      have hcode : encodeChars (line ++ '\n' :: rest) = encodeChars line ++ newline :: encodeChars rest := by
        rw [encodeChars_append, encodeChars_cons]
        rfl
      rw [hcode, List.splitOn_append_cons_self_of_not_mem hline,
        List.splitOn_append_cons_self_of_not_mem (newline_not_mem_encodeChars hline), ih _ hrest rest rfl, List.map_cons]
    · rw [List.splitOn_eq_singleton hmem, List.splitOn_eq_singleton (newline_not_mem_encodeChars hmem)]
      rfl

end Utf8

namespace Archive

open Bytes (newline IsEnded)

/-- A first line either begins a file, and there is no comment, or belongs to the comment. -/
theorem comment_of_ofLines_cons {line : Bytes} {rest : List Bytes} {a : Archive} (h : ofLines (line :: rest) = .ok a) :
    ∃ tail, ofLines rest = .ok tail ∧ (a.comment = [] ∨ a.comment = fixNewline line ++ tail.comment) := by
  rw [ofLines] at h
  split at h
  next => cases h
  next name? _ =>
    cases htail : ofLines rest with
    | error e =>
      rw [htail] at h
      cases h
    | ok tail =>
      rw [htail] at h
      refine ⟨tail, rfl, ?_⟩
      cases name? with
      | some name =>
        cases h
        exact .inl rfl
      | none =>
        cases h
        exact .inr rfl

/-- The comment of an archive is the whole of its file, or whole lines at the front of it. -/
theorem comment_of_parse {d : Bytes} {a : Archive} (h : parse d = .ok a) :
    a.comment = fixNewline d ∨ IsEnded a.comment ∧ ∃ rest, d = a.comment ++ rest := by
  rw [parse_eq_ofLines] at h
  induction d using Bytes.lineInduction generalizing a with
  | nil =>
    cases h
    exact .inl rfl
  | last body hbody hne =>
    rw [Bytes.lines_of_not_mem hbody hne] at h
    obtain ⟨tail, htail, hnil | hcomment⟩ := comment_of_ofLines_cons h
    · rw [hnil]
      exact .inr ⟨.inl rfl, body, rfl⟩
    · cases htail
      rw [hcomment]
      exact .inl (List.append_nil _)
  | line body rest hbody ih =>
    rw [Bytes.lines_append_newline hbody] at h
    obtain ⟨tail, htail, hnil | hcomment⟩ := comment_of_ofLines_cons h
    · rw [hnil]
      exact .inr ⟨.inl rfl, body ++ newline :: rest, rfl⟩
    · have hline : fixNewline (body ++ [newline]) = body ++ [newline] := fixNewline_append_newline body []
      rw [hcomment, hline, List.append_assoc]
      rcases ih htail with hwhole | ⟨hended, more, hrest⟩
      · left
        rw [hwhole, fixNewline_append_newline]
        rfl
      · right
        refine ⟨Bytes.isEnded_append_newline.mpr hended, more, ?_⟩
        rw [hrest]
        simp

/-- The lines of what begins with whole lines are those lines and the ones behind them. -/
theorem splitOn_append_of_isEnded {d : Bytes} (h : IsEnded d) :
    ∃ lines, ∀ rest, (d ++ rest).splitOn newline = lines ++ rest.splitOn newline := by
  rcases h with rfl | h
  · exact ⟨[], fun _ => rfl⟩
  · obtain ⟨front, rfl⟩ := Bytes.endsInNewline_iff.mp h
    refine ⟨front.splitOn newline, fun rest => ?_⟩
    rw [List.append_assoc, List.singleton_append, List.splitOn_append_cons_self]

/-- A line of the comment that is not empty is the line of the same number in the file. -/
theorem getElem?_splitOn_of_comment {d : Bytes} {a : Archive} (h : parse d = .ok a) {i : Nat} {line : Bytes}
    (hline : (a.comment.splitOn newline)[i]? = some line) (hne : line ≠ []) :
    (d.splitOn newline)[i]? = some line := by
  have hlonger : ∀ lines : List Bytes, (lines ++ [[]])[i]? = some line → lines[i]? = some line := by
    intro lines hget
    rw [List.getElem?_append] at hget
    split at hget
    next => exact hget
    next =>
      rw [List.getElem?_singleton] at hget
      split at hget
      · exact absurd (Option.some.inj hget).symm hne
      · cases hget
  rcases comment_of_parse h with hwhole | ⟨hended, rest, rfl⟩
  · rw [hwhole, fixNewline] at hline
    split at hline
    next => exact hline
    next =>
      rw [List.splitOn_append_cons_self, List.splitOn_nil] at hline
      exact hlonger _ hline
  · obtain ⟨lines, hlines⟩ := splitOn_append_of_isEnded hended
    have hcomment := hlines []
    rw [List.append_nil, List.splitOn_nil] at hcomment
    rw [hcomment] at hline
    have hget := hlonger lines hline
    obtain ⟨hi, -⟩ := List.getElem?_eq_some_iff.mp hget
    rw [hlines, List.getElem?_append_left hi, hget]

/-- **A line of the script is the line of the same number in its file**, unless it is empty. -/
theorem line_of_comment {d : Bytes} {a : Archive} {text line : String} {i : Nat} (h : parse d = .ok a)
    (htext : Utf8.decode a.comment = .ok text) (hline : (Line.split text)[i]? = some line) (hne : line ≠ "") :
    (d.splitOn newline)[i]? = some (Utf8.encode line) := by
  apply getElem?_splitOn_of_comment h
  · have hcomment : a.comment.splitOn newline = (Line.split text).map Utf8.encode := by
      rw [← Utf8.encode_of_decode htext, Utf8.encode, Utf8.splitOn_encodeChars, Line.split, Line.splitOn_eq,
        List.map_map]
      refine List.map_congr_left fun cs _ => ?_
      rw [Function.comp_apply, Utf8.encode, String.toList_ofList]
    rw [hcomment, List.getElem?_map, hline]
    rfl
  · rwa [Ne, Utf8.encode_eq_nil_iff]

end Archive

end Rehearsal
