import Mathlib.Data.List.TakeWhile
import Mathlib.Data.String.Basic
import Mathlib.Tactic.Tauto
import Rehearsal.Expansion

/-!
# What a text refers to

The references of a text depend on the text alone. `Refers` is the grammar of a single dollar sign: what it stands for, and
what is left of the text behind it. `Reads` takes a text apart into characters that are themselves and such references, from
the left. Every text has one such reading, and putting values in is putting them in for the references of it, whatever the
values are (`expand_reads_once`): a dollar sign in a value refers to nothing.

Only a dollar sign refers to anything: a text without one stays as it is (`expand_of_not_mem`).
-/

namespace Rehearsal.Expansion

/-! ## The grammar -/

/-- A piece of a text: a character that is itself, or a reference to the value of a variable, which may be escaped for a
pattern. -/
inductive Piece where
  | literal (c : Char)
  | reference (name : List Char)
  | escaped (name : List Char)
  deriving DecidableEq, Repr, Inhabited

/-- The text a piece stands for. -/
def Piece.value (lookup : String → String) : Piece → String
  | .literal c => String.singleton c
  | .reference name => lookup (String.ofList name)
  | .escaped name => String.ofList (Pattern.escape (lookup (String.ofList name)).toList)

/-- A character that is a whole name by itself. -/
def IsSpecial (c : Char) : Prop := c ∈ ['*', '#', '$', '@', '!', '?', '-'] ∨ c.isDigit

/-- A character that a name without braces begins with. -/
def BeginsName (c : Char) : Prop := c.isAlpha ∨ c = '_'

/-- A character that a name without braces goes on with. -/
def ContinuesName (c : Char) : Prop := BeginsName c ∨ c.isDigit

/-- What a dollar sign is, given the text behind it: a piece or nothing, and the text that is left. -/
inductive Refers : List Char → Option Piece → List Char → Prop
  | special {c : Char} {rest : List Char} (hc : IsSpecial c) : Refers (c :: rest) (some (.reference [c])) rest
  | name {c : Char} {name rest : List Char} (hc : BeginsName c) (hname : ∀ d ∈ name, ContinuesName d)
      (hrest : ∀ d ∈ rest.head?, ¬ContinuesName d) : Refers (c :: (name ++ rest)) (some (.reference (c :: name))) rest
  | braced {name rest : List Char} (hne : name ≠ []) (hname : '\x7d' ∉ name) (hsuffix : ¬['@', 'R'] <:+ name) :
      Refers ('\x7b' :: (name ++ '\x7d' :: rest)) (some (.reference name)) rest
  | escaped {name rest : List Char} (hname : '\x7d' ∉ name) :
      Refers ('\x7b' :: (name ++ ['@', 'R'] ++ '\x7d' :: rest)) (some (.escaped name)) rest
  | emptyBraces {rest : List Char} : Refers ('\x7b' :: '\x7d' :: rest) none rest
  | unclosed {rest : List Char} (h : '\x7d' ∉ rest) : Refers ('\x7b' :: rest) none rest
  | itself {rest : List Char} (h : ∀ c ∈ rest.head?, c ≠ '\x7b' ∧ ¬IsSpecial c ∧ ¬BeginsName c) :
      Refers rest (some (.literal '$')) rest

/-- The pieces of a text, from the left. -/
inductive Reads : List Char → List Piece → Prop
  | nil : Reads [] []
  | literal {c : Char} {rest : List Char} {ps : List Piece} (hc : c ≠ '$') (hrest : Reads rest ps) :
      Reads (c :: rest) (.literal c :: ps)
  | dollar {cs rest : List Char} {p? : Option Piece} {ps : List Piece} (h : Refers cs p? rest) (hrest : Reads rest ps) :
      Reads ('$' :: cs) (p?.toList ++ ps)

/-! ## The characters of names -/

theorem isSpecial_iff {c : Char} : isSpecial c = true ↔ IsSpecial c := by
  have hdigit : c ∈ "0123456789".toList ↔ c.isDigit = true := by
    simp only [Char.isDigit, Bool.and_eq_true, decide_eq_true_eq, UInt32.le_iff_toNat_le]
    simp [← Char.toNat_inj]
    show _ ↔ 48 ≤ c.toNat ∧ c.toNat ≤ 57
    omega
  rw [IsSpecial, ← hdigit, isSpecial, List.contains_iff_mem]
  exact List.mem_append (s := ['*', '#', '$', '@', '!', '?', '-'])

theorem isNameChar_iff {c : Char} : isNameChar c = true ↔ ContinuesName c := by
  simp only [isNameChar, ContinuesName, BeginsName, Char.isAlphanum, Bool.or_eq_true, beq_iff_eq]
  tauto

theorem not_isDigit_of_beginsName {c : Char} (h : BeginsName c) : ¬c.isDigit = true := by
  rcases h with halpha | rfl
  · intro hdigit
    have hend : c.val ≤ 57 := of_decide_eq_true (Bool.and_eq_true_iff.mp hdigit).2
    have hletter : 65 ≤ c.val := by
      rcases Bool.or_eq_true_iff.mp halpha with hupper | hlower
      · exact (of_decide_eq_true hupper).1
      · exact UInt32.le_trans (by decide) (of_decide_eq_true (Bool.and_eq_true_iff.mp hlower).1)
    exact absurd (UInt32.le_trans hletter hend) (by decide)
  · decide

/-- No name without braces begins with a special character. -/
theorem not_isSpecial_of_beginsName {c : Char} (h : BeginsName c) : ¬IsSpecial c := by
  rintro (hmem | hdigit)
  · simp only [List.mem_cons, List.not_mem_nil, or_false] at hmem
    have hname := isNameChar_iff.mpr (.inl h)
    rcases hmem with rfl | rfl | rfl | rfl | rfl | rfl | rfl <;> exact absurd hname (by decide)
  · exact not_isDigit_of_beginsName h hdigit

theorem ne_brace_of_isSpecial {c : Char} (h : IsSpecial c) : c ≠ '\x7b' ∧ c ≠ '\x7d' := by
  constructor <;> rintro rfl <;> exact absurd (isSpecial_iff.mpr h) (by decide)

theorem ne_brace_of_beginsName {c : Char} (h : BeginsName c) : c ≠ '\x7b' := by
  rintro rfl
  exact absurd (isNameChar_iff.mpr (.inl h)) (by decide)

/-! ## The name behind a dollar sign -/

theorem nameInBraces_of_not_mem {cs : List Char} (h : '\x7d' ∉ cs) : nameInBraces cs = ([], 1) := by
  rw [nameInBraces, List.idxOf?_eq_none_iff.mpr h]

/-- The name in braces is what stands before the first closing one. -/
theorem nameInBraces_append {name : List Char} (h : '\x7d' ∉ name) (rest : List Char) :
    nameInBraces (name ++ '\x7d' :: rest) = (name, name.length + 2) := by
  have hfind : (name ++ '\x7d' :: rest).idxOf? '\x7d' = some name.length := by
    rw [List.idxOf?_eq_some_iff]
    refine ⟨by simp, by simp, fun j hj heq => h ?_⟩
    rw [List.getElem_append_left hj] at heq
    exact heq ▸ List.getElem_mem hj
  rw [nameInBraces, hfind]
  cases name with
  | nil => rfl
  | cons c name => exact congrArg (·, _) List.take_left

/-- A special name is read in braces as any other. -/
theorem nameAt_brace (rest : List Char) : nameAt '\x7b' rest = nameInBraces rest := by
  unfold nameAt
  rw [if_pos (beq_self_eq_true _)]
  split
  next d more =>
    split
    next hd =>
      have hname : '\x7d' ∉ [d] := by simpa using (ne_brace_of_isSpecial (isSpecial_iff.mp hd)).2.symm
      exact (nameInBraces_append hname more).symm
    next => rfl
  next => rfl

theorem nameAt_special {c : Char} (h : IsSpecial c) (rest : List Char) : nameAt c rest = ([c], 1) := by
  have hbrace : ¬(c == '\x7b') = true := by simpa using (ne_brace_of_isSpecial h).1
  unfold nameAt
  rw [if_neg hbrace, if_pos (isSpecial_iff.mpr h)]

theorem nameAt_plain {c : Char} (hbrace : c ≠ '\x7b') (hspecial : ¬IsSpecial c) (rest : List Char) :
    nameAt c rest = ((c :: rest).takeWhile isNameChar, ((c :: rest).takeWhile isNameChar).length) := by
  unfold nameAt
  rw [if_neg (by simpa using hbrace), if_neg (mt isSpecial_iff.mp hspecial)]

/-- Without braces a name goes as far as it can. -/
theorem takeWhile_isNameChar {name rest : List Char} (hname : ∀ d ∈ name, ContinuesName d)
    (hrest : ∀ d ∈ rest.head?, ¬ContinuesName d) : (name ++ rest).takeWhile isNameChar = name := by
  rw [List.takeWhile_append_of_pos fun d hd => isNameChar_iff.mpr (hname d hd)]
  cases rest with
  | nil => simp
  | cons d rest => rw [List.takeWhile_cons_of_neg (mt isNameChar_iff.mp (hrest d rfl)), List.append_nil]

/-! ## What a dollar sign refers to -/

/-- The piece that a name is, or what its absence is. -/
def pieceOf (name : List Char) (width : Nat) : Option Piece :=
  if !name.isEmpty then
    if escapeSuffix.isSuffixOf name then some (.escaped (name.take (name.length - escapeSuffix.length)))
    else some (.reference name)
  else if width == 0 then some (.literal '$') else none

/-- What a dollar sign is found to be: its piece, and the text that is left. -/
def readDollar : List Char → Option Piece × List Char
  | [] => (some (.literal '$'), [])
  | c :: rest => (pieceOf (nameAt c rest).1 (nameAt c rest).2, (c :: rest).drop (nameAt c rest).2)

theorem pieceOf_reference {name : List Char} (hne : name ≠ []) (h : ¬['@', 'R'] <:+ name) (width : Nat) :
    pieceOf name width = some (.reference name) := by
  have hname : (!name.isEmpty) = true := by simpa using hne
  have hsuffix : ¬escapeSuffix.isSuffixOf name = true := mt List.isSuffixOf_iff_suffix.mp h
  rw [pieceOf, if_pos hname, if_neg hsuffix]

theorem pieceOf_escaped (name : List Char) (width : Nat) : pieceOf (name ++ ['@', 'R']) width = some (.escaped name) := by
  have hsuffix : escapeSuffix.isSuffixOf (name ++ ['@', 'R']) = true :=
    List.isSuffixOf_iff_suffix.mpr (List.suffix_append name _)
  have htake : (name ++ ['@', 'R']).take ((name ++ ['@', 'R']).length - escapeSuffix.length) = name := by
    simp [escapeSuffix]
  rw [pieceOf, if_pos (by simp), if_pos hsuffix, htake]

/-- No name without braces asks for an escaped value. -/
theorem not_suffix_of_continuesName {name : List Char} (h : ∀ d ∈ name, ContinuesName d) : ¬['@', 'R'] <:+ name := by
  rintro ⟨front, rfl⟩
  exact absurd (isNameChar_iff.mpr (h '@' (by simp))) (by decide)

/-- What a dollar sign refers to is what it is found to be. -/
theorem Refers.readDollar_eq {cs rest : List Char} {p? : Option Piece} (h : Refers cs p? rest) :
    readDollar cs = (p?, rest) := by
  cases h with
  | special hc =>
    have hsuffix : ∀ c : Char, ¬['@', 'R'] <:+ [c] := fun c hc => by simpa using hc.length_le
    rw [readDollar, nameAt_special hc, pieceOf_reference (List.cons_ne_nil _ _) (hsuffix _)]
    rfl
  | @name c name rest hc hname hrest =>
    have hall : ∀ d ∈ c :: name, ContinuesName d := List.forall_mem_cons.mpr ⟨.inl hc, hname⟩
    rw [readDollar, nameAt_plain (ne_brace_of_beginsName hc) (not_isSpecial_of_beginsName hc), ← List.cons_append,
      takeWhile_isNameChar hall hrest, pieceOf_reference (List.cons_ne_nil _ _) (not_suffix_of_continuesName hall),
      List.drop_left]
  | braced hne hname hsuffix =>
    rw [readDollar, nameAt_brace, nameInBraces_append hname, pieceOf_reference hne hsuffix]
    simp
  | @escaped name rest hname =>
    have hall : '\x7d' ∉ name ++ ['@', 'R'] := by simpa using hname
    rw [readDollar, nameAt_brace, nameInBraces_append hall, pieceOf_escaped]
    simp
  | @emptyBraces rest =>
    rw [readDollar, nameAt_brace, ← List.nil_append ('\x7d' :: rest), nameInBraces_append List.not_mem_nil]
    rfl
  | unclosed h =>
    rw [readDollar, nameAt_brace, nameInBraces_of_not_mem h]
    rfl
  | itself h =>
    cases cs with
    | nil => rfl
    | cons c rest =>
      obtain ⟨hbrace, hspecial, hbegins⟩ := h c rfl
      have hdigit : ¬c.isDigit = true := fun hd => hspecial (.inr hd)
      have hc : ¬isNameChar c = true := fun hc => (isNameChar_iff.mp hc).elim hbegins hdigit
      rw [readDollar, nameAt_plain hbrace hspecial, List.takeWhile_cons_of_neg hc]
      rfl

/-- A dollar sign refers to one thing at most. -/
theorem Refers.unique {cs rest rest' : List Char} {p? q? : Option Piece} (h : Refers cs p? rest)
    (h' : Refers cs q? rest') : p? = q? ∧ rest = rest' :=
  Prod.mk.inj (h.readDollar_eq.symm.trans h'.readDollar_eq)

/-- Every dollar sign refers to something, or is itself. -/
theorem exists_refers (cs : List Char) : ∃ p? rest, Refers cs p? rest := by
  cases cs with
  | nil => exact ⟨_, _, .itself (by simp)⟩
  | cons c cs =>
    by_cases hbrace : c = '\x7b'
    · subst hbrace
      by_cases hclosed : '\x7d' ∈ cs
      · obtain ⟨name, rest, rfl, hname⟩ := List.eq_append_cons_of_mem hclosed
        by_cases hne : name = []
        · subst hne
          exact ⟨_, _, .emptyBraces⟩
        by_cases hsuffix : ['@', 'R'] <:+ name
        · obtain ⟨front, rfl⟩ := hsuffix
          exact ⟨_, _, .escaped fun hmem => hname (List.mem_append_left _ hmem)⟩
        · exact ⟨_, _, .braced hne hname hsuffix⟩
      · exact ⟨_, _, .unclosed hclosed⟩
    by_cases hspecial : IsSpecial c
    · exact ⟨_, _, .special hspecial⟩
    by_cases hbegins : BeginsName c
    · have hcut := List.takeWhile_append_dropWhile (p := isNameChar) (l := cs)
      rw [← hcut]
      refine ⟨_, _, .name hbegins (fun d hd => isNameChar_iff.mp (List.mem_takeWhile_imp hd)) fun d hd hcont => ?_⟩
      have hnot := List.head?_dropWhile_not isNameChar cs
      rw [Option.mem_def.mp hd] at hnot
      exact absurd (isNameChar_iff.mpr hcont) (by simpa using hnot)
    · refine ⟨_, _, .itself fun d hd => ?_⟩
      obtain rfl : c = d := Option.some.inj hd
      exact ⟨hbrace, hspecial, hbegins⟩

/-- What is left of a text is its end. -/
theorem Refers.suffix {cs rest : List Char} {p? : Option Piece} (h : Refers cs p? rest) : rest <:+ cs := by
  have hread := h.readDollar_eq
  cases cs with
  | nil =>
    obtain ⟨-, rfl⟩ := Prod.mk.inj hread
    exact List.suffix_rfl
  | cons c cs =>
    obtain ⟨-, rfl⟩ := Prod.mk.inj hread
    exact List.drop_suffix _ _

/-! ## The reading of a text -/

/-- Every text has a reading. -/
theorem exists_reads (cs : List Char) : ∃ ps, Reads cs ps := by
  induction hn : cs.length using Nat.strongRecOn generalizing cs with
  | ind n ih =>
    cases cs with
    | nil => exact ⟨_, .nil⟩
    | cons c cs =>
      rw [List.length_cons] at hn
      by_cases hc : c = '$'
      · subst hc
        obtain ⟨p?, rest, href⟩ := exists_refers cs
        obtain ⟨ps, hrest⟩ := ih rest.length (by have := href.suffix.length_le; omega) rest rfl
        exact ⟨_, .dollar href hrest⟩
      · obtain ⟨ps, hrest⟩ := ih cs.length (by omega) cs rfl
        exact ⟨_, .literal hc hrest⟩

/-- A text has one reading. -/
theorem Reads.unique {cs : List Char} {ps qs : List Piece} (h : Reads cs ps) (h' : Reads cs qs) : qs = ps := by
  induction h generalizing qs with
  | nil =>
    cases h'
    rfl
  | literal hc _ ih =>
    cases h' with
    | literal _ hrest => rw [ih hrest]
    | dollar => exact absurd rfl hc
  | dollar href _ ih =>
    cases h' with
    | literal hc => exact absurd rfl hc
    | dollar href' hrest =>
      obtain ⟨rfl, rfl⟩ := href.unique href'
      rw [ih hrest]

/-! ## Expanding -/

variable (lookup : String → String)

theorem value_pieceOf (name : List Char) (width : Nat) :
    (if !name.isEmpty then valueOf lookup name else if width == 0 then ['$'] else []) =
      (pieceOf name width).toList.flatMap fun p => (p.value lookup).toList := by
  rw [pieceOf, valueOf]
  split
  · split <;> simp [Piece.value]
  · split <;> simp [Piece.value]

/-- How a text is expanded, by its first character. What follows uses this and not the definition: it is unfolded here and
nowhere else. -/
theorem expandChars_equations :
    expandChars lookup [] = [] ∧
      (∀ c rest, c ≠ '$' ∨ rest = [] → expandChars lookup (c :: rest) = c :: expandChars lookup rest) ∧
      ∀ c rest, expandChars lookup ('$' :: c :: rest) =
        ((pieceOf (nameAt c rest).1 (nameAt c rest).2).toList.flatMap fun p => (p.value lookup).toList) ++
          expandChars lookup ((c :: rest).drop (nameAt c rest).2) := by
  refine ⟨by rw [expandChars], fun c rest h => ?_, fun c rest => ?_⟩
  · rw [expandChars.eq_3]
    rintro d more rfl rfl
    obtain h | h := h
    · exact h rfl
    · cases h
  · rw [expandChars]
    exact congrArg (· ++ _) (value_pieceOf lookup _ _)

theorem expandChars_cons {c : Char} (h : c ≠ '$') (rest : List Char) :
    expandChars lookup (c :: rest) = c :: expandChars lookup rest :=
  (expandChars_equations lookup).2.1 c rest (.inl h)

/-- A dollar sign becomes the value of what it refers to, and the rest of the text is expanded by itself. -/
theorem expandChars_dollar {cs rest : List Char} {p? : Option Piece} (h : Refers cs p? rest) :
    expandChars lookup ('$' :: cs) = (p?.toList.flatMap fun p => (p.value lookup).toList) ++ expandChars lookup rest := by
  have hread := h.readDollar_eq
  obtain ⟨-, hlone, hdollar⟩ := expandChars_equations lookup
  cases cs with
  | nil =>
    obtain ⟨rfl, rfl⟩ := Prod.mk.inj hread
    rw [hlone '$' [] (.inr rfl)]
    simp [Piece.value]
  | cons c cs =>
    obtain ⟨rfl, rfl⟩ := Prod.mk.inj hread
    exact hdollar c cs

/-- A text is expanded by putting the values in for the references of its reading. -/
theorem Reads.expandChars_eq {cs : List Char} {ps : List Piece} (h : Reads cs ps) :
    expandChars lookup cs = ps.flatMap fun p => (p.value lookup).toList := by
  induction h with
  | nil => rw [(expandChars_equations lookup).1, List.flatMap_nil]
  | literal hc _ ih =>
    rw [expandChars_cons lookup hc, ih, List.flatMap_cons]
    simp [Piece.value]
  | dollar href _ ih => rw [expandChars_dollar lookup href, ih, List.flatMap_append]

theorem expandChars_of_not_mem {cs : List Char} (h : '$' ∉ cs) : expandChars lookup cs = cs := by
  induction cs with
  | nil => exact (expandChars_equations lookup).1
  | cons c rest ih =>
    rw [List.mem_cons, not_or] at h
    rw [expandChars_cons lookup (Ne.symm h.1), ih h.2]

/-- A text without a dollar sign refers to nothing. -/
theorem expand_of_not_mem {s : String} (h : '$' ∉ s.toList) : expand lookup s = s := by
  rw [expand, if_neg (by simpa using h)]

theorem toList_expand (s : String) : (expand lookup s).toList = expandChars lookup s.toList := by
  rw [expand]
  split
  next => rw [String.toList_ofList]
  next h => rw [expandChars_of_not_mem lookup (by simpa using h)]

/-- **A text is read once, and its values are not read again.** Its one reading depends on nothing else, and whatever the
variables are, expanding it puts their values in for its references. -/
theorem expand_reads_once (s : String) :
    ∃ ps, Reads s.toList ps ∧ (∀ qs, Reads s.toList qs → qs = ps) ∧
      ∀ lookup, expand lookup s = String.join (ps.map (Piece.value lookup)) := by
  obtain ⟨ps, hreads⟩ := exists_reads s.toList
  refine ⟨ps, hreads, fun qs => hreads.unique, fun lookup => ?_⟩
  rw [← String.toList_inj, toList_expand, hreads.expandChars_eq, String.toList_join, List.flatMap_map]

end Rehearsal.Expansion
