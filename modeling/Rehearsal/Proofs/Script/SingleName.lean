import Rehearsal.Proofs.Environment
import Rehearsal.Proofs.Expansion
import Rehearsal.Script.Basic

/-!
# Names of one character

A variable whose name is a digit, a separator or one of a few other signs is meant to need no braces. In braces each of them
is put in, whatever stands around it (`expand_braced`), and so is each without braces that a dollar sign can refer to by itself
(`expand_special`). The two separators, which every script is given, are no such characters: behind a dollar sign a separator
begins no name, so both stay (`expand_separator`).
-/

namespace Rehearsal

namespace Expansion

/-- The names of one character that are meant to need no braces. -/
def singleNames : List Char := "/:*#$@!?-0123456789".toList

/-- A character that stands between the names of a path, or between paths. -/
def IsSeparator (c : Char) : Prop := c = '/' ∨ c = ':'

variable {c : Char}

theorem mem_singleNames_iff : c ∈ singleNames ↔ IsSeparator c ∨ IsSpecial c := by
  rw [← isSpecial_iff, isSpecial, List.contains_iff_mem, IsSeparator, or_assoc]
  exact List.mem_cons.trans (or_congr_right List.mem_cons)

/-- No separator begins a name. -/
theorem IsSeparator.itself (h : IsSeparator c) (rest : List Char) : Refers (c :: rest) (some (.literal '$')) (c :: rest) := by
  refine .itself fun d hd => ?_
  obtain rfl : c = d := Option.some.inj hd
  rw [← isSpecial_iff]
  refine ⟨?_, ?_, fun hbegins => ?_⟩
  · rcases h with rfl | rfl <;> decide
  · rcases h with rfl | rfl <;> decide
  · have hname := isNameChar_iff.mpr (.inl hbegins)
    rcases h with rfl | rfl <;> exact absurd hname (by decide)

/-- Neither separator closes braces. -/
theorem ne_closing_of_mem (h : c ∈ singleNames) : c ≠ '\x7d' := by
  rintro rfl
  exact absurd h (by decide)

section Texts

variable (lookup : String → String)

/-- What is in front of the first dollar sign stays as it is. -/
theorem expandChars_append {front : List Char} (h : '$' ∉ front) (rest : List Char) :
    expandChars lookup (front ++ rest) = front ++ expandChars lookup rest := by
  induction front with
  | nil => rfl
  | cons c front ih =>
    rw [List.mem_cons, not_or] at h
    rw [List.cons_append, expandChars_cons lookup (Ne.symm h.1), ih h.2, List.cons_append]

variable {a : String} (ha : '$' ∉ a.toList) (b : String)
include ha

/-- A text in which a dollar sign refers to something is expanded to what is in front, that, and the rest expanded. -/
theorem expand_dollar {text : String} {p : Piece} {rest : String}
    (h : Refers (text ++ b).toList (some p) rest.toList) :
    expand lookup (a ++ "$" ++ text ++ b) = a ++ p.value lookup ++ expand lookup rest := by
  have htext : (a ++ "$" ++ text ++ b).toList = a.toList ++ '$' :: (text ++ b).toList := by
    simp [String.toList_append]
  rw [← String.toList_inj, toList_expand, htext, expandChars_append lookup ha, expandChars_dollar lookup h]
  simp [String.toList_append, toList_expand]

/-- A name of one character is put in where it stands in braces. -/
theorem expand_braced (hc : c ∈ singleNames) :
    expand lookup (a ++ "$" ++ ("\x7b" ++ String.singleton c ++ "\x7d") ++ b) =
      a ++ lookup (String.singleton c) ++ expand lookup b := by
  have hsuffix : ¬['@', 'R'] <:+ [c] := fun h => by simpa using h.length_le
  have hname : '\x7d' ∉ [c] := by simpa using (ne_closing_of_mem hc).symm
  have hrefers : Refers (("\x7b" ++ String.singleton c ++ "\x7d") ++ b).toList (some (.reference [c])) b.toList := by
    simpa [String.toList_append] using (Refers.braced (List.cons_ne_nil c []) hname hsuffix : Refers _ _ b.toList)
  exact expand_dollar lookup ha b hrefers

/-- A special character is put in without braces. -/
theorem expand_special (hc : IsSpecial c) :
    expand lookup (a ++ "$" ++ String.singleton c ++ b) = a ++ lookup (String.singleton c) ++ expand lookup b := by
  have hrefers : Refers (String.singleton c ++ b).toList (some (.reference [c])) b.toList := by
    simpa [String.toList_append] using (Refers.special hc : Refers _ _ b.toList)
  exact expand_dollar lookup ha b hrefers

/-- A dollar sign in front of a separator stays, and so does the separator. -/
theorem expand_separator (hc : IsSeparator c) :
    expand lookup (a ++ "$" ++ String.singleton c ++ b) = a ++ "$" ++ String.singleton c ++ expand lookup b := by
  have hplain : '$' ∉ (String.singleton c).toList := by
    rcases hc with rfl | rfl <;> decide
  have hrefers : Refers ("" ++ (String.singleton c ++ b)).toList (some (.literal '$')) (String.singleton c ++ b).toList := by
    simpa [String.toList_append] using hc.itself b.toList
  have hrest : expand lookup (String.singleton c ++ b) = String.singleton c ++ expand lookup b := by
    rw [← String.toList_inj, toList_expand, String.toList_append, expandChars_append lookup hplain, String.toList_append,
      toList_expand]
  have hdollar := expand_dollar lookup ha (String.singleton c ++ b) hrefers
  have hvalue : Piece.value lookup (.literal '$') = "$" := by
    show String.singleton '$' = "$"
    decide
  rw [hrest, hvalue, String.append_empty, ← String.append_assoc, ← String.append_assoc] at hdollar
  exact hdollar

end Texts

end Expansion

namespace Environment

theorem assignments_cons {key : String} (h : '=' ∉ key.toList) (value : String) (rest : List String) :
    assignments (entry key value :: rest) = (key, value) :: assignments rest := by
  rw [← List.singleton_append, assignments_append, assignments_entry h, List.singleton_append]

/-- Among the variables that every script is given are both separators. What comes behind them is called otherwise. -/
theorem assignments_standard (p : Platform) (outside : Table String) (workDir : String) :
    ∃ front back, assignments (standard p outside workDir) = front ++ ("/", "/") :: (":", ":") :: back ∧
      ∀ a ∈ back, a.1 = "SYSTEMROOT" ∨ a.1 = "exe" := by
  have hhome : '=' ∉ (homeName p).toList := by
    unfold homeName
    split
    · decide
    · split <;> decide
  have htemp : '=' ∉ (tempName p).toList := by
    unfold tempName
    split <;> decide
  refine ⟨[("WORK", workDir), ("PATH", (outside.get? "PATH").getD ""), (homeName p, "/no-home"),
    (tempName p, Path.join workDir "tmp"), ("devnull", "/dev/null")], ?_⟩
  rw [standard, assignments_append, assignments_cons (by decide), assignments_cons (by decide), assignments_cons hhome,
    assignments_cons htemp, assignments_cons (by decide), assignments_cons (by decide), assignments_cons (by decide)]
  refine ⟨assignments _, rfl, ?_⟩
  split
  next =>
    rw [assignments_cons (by decide), assignments_entry (by decide)]
    simp
  next =>
    rw [assignments_entry (by decide)]
    simp

/-- What the separators are called is not changed by folding case, and it is not what another variable behind them is
called. -/
theorem normalName_ne_separator {c : Char} (hc : Expansion.IsSeparator c) (p : Platform) :
    normalName p (String.singleton c) = String.singleton c ∧ normalName p "SYSTEMROOT" ≠ String.singleton c ∧
      normalName p "exe" ≠ String.singleton c := by
  unfold normalName
  split <;> rcases hc with rfl | rfl <;> decide +kernel

/-- A separator is the value of the variable that is called after it. -/
theorem last?_standard_separator {c : Char} (hc : Expansion.IsSeparator c) (p : Platform) (outside : Table String)
    (workDir : String) :
    last? p (String.singleton c) (standard p outside workDir) = some (String.singleton c, String.singleton c) := by
  obtain ⟨front, back, hassignments, hback⟩ := assignments_standard p outside workDir
  obtain ⟨-, hroot, hexe⟩ := normalName_ne_separator hc p
  have hnone : back.reverse.find? (fun a => normalName p a.1 == String.singleton c) = none := by
    rw [List.find?_eq_none]
    intro a ha
    rcases hback a (List.mem_reverse.mp ha) with hname | hname
    · simpa [hname] using hroot
    · simpa [hname] using hexe
  have hsigns : String.singleton '/' = "/" ∧ String.singleton ':' = ":" := by decide
  have hslash : normalName p "/" = "/" := by
    rw [← hsigns.1]
    exact (normalName_ne_separator (.inl rfl) p).1
  have hcolon : normalName p ":" = ":" := by
    rw [← hsigns.2]
    exact (normalName_ne_separator (.inr rfl) p).1
  have hreverse : (assignments (standard p outside workDir)).reverse =
      back.reverse ++ (":", ":") :: ("/", "/") :: front.reverse := by
    rw [hassignments]
    simp
  rw [last?, hreverse, List.find?_append, hnone, Option.none_or, List.find?_cons, List.find?_cons, hslash, hcolon]
  rcases hc with rfl | rfl
  · rw [hsigns.1]
    rfl
  · rw [hsigns.2]
    rfl

end Environment

namespace Script

open Expansion

/-- A script that begins has the separators under the names that they are. -/
theorem valueOf_opening_separator {c : Char} (hc : IsSeparator c) (plan : Plan) (platform : Platform)
    (file name root : String) (scene : Scene) :
    (opening plan platform file name root scene).valueOf (String.singleton c) = String.singleton c := by
  have hnormal := (Environment.normalName_ne_separator hc platform).1
  rw [valueOf, opening, hnormal, Environment.get?_table, Environment.last?_standard_separator hc]
  rfl

/-- **A name of one character needs no braces, unless it is a separator.** With braces all of them are put in, and every
script begins with the separators as the values of their names; without braces a separator stays behind its dollar sign. -/
theorem single_name_expands {c : Char} (hc : c ∈ singleNames) {a : String} (ha : '$' ∉ a.toList) (b : String) :
    (∀ lookup, Expansion.expand lookup (a ++ "$" ++ ("\x7b" ++ String.singleton c ++ "\x7d") ++ b) =
        a ++ lookup (String.singleton c) ++ Expansion.expand lookup b) ∧
      ((∀ lookup, Expansion.expand lookup (a ++ "$" ++ String.singleton c ++ b) =
          a ++ lookup (String.singleton c) ++ Expansion.expand lookup b) ↔ ¬IsSeparator c) ∧
      (IsSeparator c →
        (∀ lookup, Expansion.expand lookup (a ++ "$" ++ String.singleton c ++ b) =
          a ++ "$" ++ String.singleton c ++ Expansion.expand lookup b) ∧
        ∀ plan platform file name root scene,
          (opening plan platform file name root scene).expand (a ++ "$" ++ ("\x7b" ++ String.singleton c ++ "\x7d") ++ b) =
            a ++ String.singleton c ++ (opening plan platform file name root scene).expand b) := by
  have hbraced := fun lookup => expand_braced lookup ha b hc
  refine ⟨hbraced, ⟨fun hall hseparator => ?_, fun hplain lookup => ?_⟩, fun hseparator => ⟨?_, ?_⟩⟩
  · -- Where all variables are empty, the separator would have to disappear.
    have hgone := (expand_separator (fun _ => "") ha b hseparator).symm.trans (hall fun _ => "")
    have hlength := congrArg String.length hgone
    simp only [String.length_append] at hlength
    have hone : "$".length = 1 := by decide
    have hnone : "".length = 0 := by decide
    omega
  · exact expand_special lookup ha b ((mem_singleNames_iff.mp hc).resolve_left hplain)
  · exact fun lookup => expand_separator lookup ha b hseparator
  · intro plan platform file name root scene
    rw [Script.expand, hbraced, valueOf_opening_separator hseparator]
    rfl

theorem single_name_expands_slash :
    '/' ∈ singleNames ∧ '$' ∉ "cd ".toList ∧ IsSeparator '/' ∧
      (∀ lookup, Expansion.expand lookup "cd $\x7b/\x7dtmp" = "cd " ++ lookup "/" ++ Expansion.expand lookup "tmp") ∧
      ∀ lookup, Expansion.expand lookup "cd $/tmp" = "cd $/" ++ Expansion.expand lookup "tmp" := by
  have htext : "cd " ++ "$" ++ ("\x7b" ++ String.singleton '/' ++ "\x7d") ++ "tmp" = "cd $\x7b/\x7dtmp" ∧
      "cd " ++ "$" ++ String.singleton '/' ++ "tmp" = "cd $/tmp" ∧ "cd " ++ "$" ++ String.singleton '/' = "cd $/" ∧
      String.singleton '/' = "/" := by decide +kernel
  obtain ⟨hbraces, hplain, hfront, hsign⟩ := htext
  obtain ⟨hbraced, -, hseparator⟩ :=
    single_name_expands (c := '/') (by decide) (a := "cd ") (by decide) "tmp"
  refine ⟨by decide, by decide, .inl rfl, fun lookup => ?_, fun lookup => ?_⟩
  · rw [← hbraces, hbraced, hsign]
  · rw [← hplain, (hseparator (.inl rfl)).1, hfront]

/-- A script that begins in `/t`. -/
def beginning : Script := opening Plan.usual ⟨"linux", "x86_64"⟩ "a.hls" "a" "/t" default

/-- A separator that a script was given stays behind its dollar sign, where its value was to be put in. -/
theorem separator_unexpanded :
    '/' ∈ singleNames ∧ '$' ∉ "".toList ∧ beginning.valueOf "/" = "/" ∧
      beginning.expand ("" ++ "$" ++ "/" ++ "") = "$/" ∧
      beginning.expand ("" ++ "$" ++ "/" ++ "") ≠ "" ++ beginning.valueOf "/" ++ beginning.expand "" := by
  have hsign : String.singleton '/' = "/" := by decide
  have hvalue : beginning.valueOf "/" = "/" := by
    rw [← hsign]
    exact valueOf_opening_separator (.inl rfl) _ _ _ _ _ _
  have hnothing : beginning.expand "" = "" := expand_of_not_mem _ (by decide)
  have hstays : beginning.expand ("" ++ "$" ++ "/" ++ "") = "" ++ "$" ++ "/" ++ beginning.expand "" := by
    rw [← hsign]
    exact expand_separator beginning.valueOf (by decide) "" (.inl rfl)
  rw [hnothing] at hstays
  refine ⟨by decide, by decide, hvalue, hstays, ?_⟩
  rw [hstays, hvalue, hnothing]
  decide

end Script

end Rehearsal
