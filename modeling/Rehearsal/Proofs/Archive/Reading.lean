import Rehearsal.Proofs.Archive.Comment
import Rehearsal.Proofs.Archive.Update
import Rehearsal.Proofs.Files.Path

/-!
# What a stored text reads as

A text that was stored in an archive is read from the file it is put in, every line end a newline. Where it has no carriage
return, it reads as it was exactly if no line of it marks a file (`text_of_isStoredAs`): then it stands there as it is, and
otherwise quoted.

What this does not decide: how a text with a carriage return reads, which is never as it was.
-/

namespace Rehearsal

theorem Line.unifyNewlines_of_not_mem {cs : List Char} (h : '\r' ∉ cs) : unifyNewlines cs = cs := by
  induction cs with
  | nil => rfl
  | cons c rest ih =>
    rw [List.mem_cons, not_or] at h
    have hc : (c == '\r') = false := by simpa using Ne.symm h.1
    rw [unifyNewlines, hc, if_neg Bool.false_ne_true, ih h.2]

namespace Utf8

open Bytes (newline IsEnded)

theorem encodeChars_append_newline (line rest : List Char) :
    encodeChars (line ++ '\n' :: rest) = encodeChars line ++ newline :: encodeChars rest := by
  rw [encodeChars_append, encodeChars_cons]
  rfl

/-- The code of a text that ends in a newline does. -/
theorem isEnded_encode {text : String} (h : text.endsWith "\n") : IsEnded (encode text) := by
  obtain ⟨front, hfront⟩ := Path.endsWith_iff.mp h
  rw [encode, ← hfront]
  rw [show "\n".toList = '\n' :: [] from rfl, encodeChars_append_newline]
  exact Bytes.isEnded_newline _

end Utf8

namespace Archive

open Bytes (newline IsEnded)

/-- Every line of a text behind a quote mark is a text, and has no other characters than the text and the marks. -/
theorem exists_encodeChars_marked {cs : List Char} (h : IsEnded (Utf8.encodeChars cs)) :
    ∃ quoted, Utf8.encodeChars quoted = marked (Utf8.encodeChars cs) ∧ ∀ c ∈ quoted, c ∈ cs ∨ c = '>' := by
  induction hn : cs.length using Nat.strongRecOn generalizing cs with
  | ind n ih =>
    by_cases hmem : '\n' ∈ cs
    · obtain ⟨line, rest, rfl, hline⟩ := List.eq_append_cons_of_mem hmem
      have hrest : rest.length < n := by
        rw [← hn, List.length_append, List.length_cons]
        omega
      have hplain := Utf8.newline_not_mem_encodeChars hline
      rw [Utf8.encodeChars_append_newline, Bytes.isEnded_append_newline] at h
      obtain ⟨quoted, hquoted, hchars⟩ := ih _ hrest h rfl
      refine ⟨'>' :: (line ++ '\n' :: quoted), ?_, ?_⟩
      · rw [Utf8.encodeChars_append_newline, marked_append_newline hplain, Utf8.encodeChars_cons,
          Utf8.encodeChars_append_newline, hquoted]
        rfl
      · intro c hc
        simp only [List.mem_cons, List.mem_append] at hc ⊢
        rcases hc with rfl | hc | rfl | hc
        · exact .inr rfl
        · exact .inl (.inl hc)
        · exact .inl (.inr (.inl rfl))
        · exact (hchars c hc).imp_left fun hrest => .inr (.inr hrest)
    · -- Without a newline there is nothing.
      have hnil : Utf8.encodeChars cs = [] := by
        by_contra hne
        exact Bytes.not_isEnded (Utf8.newline_not_mem_encodeChars hmem) hne h
      exact ⟨[], by rw [hnil]; rfl, fun _ hc => absurd hc List.not_mem_nil⟩

/-- **A stored text reads as it was exactly if no line of it marks a file.** -/
theorem text_of_isStoredAs {text : String} {data : Bytes} (hend : text.endsWith "\n") (hreturn : '\r' ∉ text.toList)
    (h : IsStoredAs text data) :
    ∃ got : String, Utf8.encode got = data ∧ Line.unifyNewlines got.toList = got.toList ∧
      (got = text ↔ IsPlain (Utf8.encode text)) := by
  have hended := Utf8.isEnded_encode hend
  rw [IsStoredAs] at h
  split at h
  next hplain =>
    refine ⟨text, ?_, Line.unifyNewlines_of_not_mem hreturn, iff_of_true rfl hplain⟩
    rw [h, fixNewline_of_isEnded hended]
  next hmarked =>
    obtain ⟨-, rfl⟩ := eq_marked_of_quote h.1
    have hlines : IsEnded (Utf8.encodeChars text.toList) := hended
    obtain ⟨quoted, hquoted, hchars⟩ := exists_encodeChars_marked hlines
    have hcode : Utf8.encode (String.ofList quoted) = marked (Utf8.encode text) := by
      rw [Utf8.encode, String.toList_ofList]
      exact hquoted
    refine ⟨String.ofList quoted, hcode, ?_, iff_of_false ?_ hmarked⟩
    · rw [String.toList_ofList]
      apply Line.unifyNewlines_of_not_mem
      intro hmem
      rcases hchars _ hmem with htext | hmark
      · exact hreturn htext
      · exact absurd hmark (by decide)
    · -- What is quoted marks no file any more.
      intro heq
      rw [heq] at hcode
      exact hmarked (hcode ▸ isPlain_of_quote h.1)

end Archive

end Rehearsal
