import Rehearsal.Archive.Basic
import Rehearsal.Proofs.Text.Lines
import Rehearsal.Proofs.Text.Utf8

/-!
# Marker lines

What a marker line is, said without the function that looks for it: `IsMarker` is the shape of the line, `IsFileName` is
what may stand in it, and `IsPlain` is a section in which no line has the shape.

`markerName?_eq_none_iff` and `markerName?_eq_some_iff` say what the search finds in a line, and
`markerName?_markerLine` that the line written for a file name is found again.
-/

namespace Rehearsal.Archive

open Bytes (newline carriageReturn Trimmed)

/-- A line that marks a file: something that is not blank stands between its opening and its closing. Carriage returns
may follow. -/
def IsMarker (line : Bytes) : Prop :=
  ∃ body n, line = opening ++ body ++ closing ++ List.replicate n carriageReturn ∧ ∃ b ∈ body, Bytes.isBlank b = false

/-- A section without a line that marks a file. -/
def IsPlain (d : Bytes) : Prop := ∀ line ∈ Bytes.lines d, ¬IsMarker (Bytes.trimRight newline line)

/-- The characters that are trimmed off a name. -/
def blankChars : List Char := [' ', '\t', '\n', '\x0b', '\x0c', '\r']

/-- A name that a marker line can hold. -/
structure IsFileName (name : String) : Prop where
  nonempty : name ≠ ""
  oneLine : '\n' ∉ name.toList
  head : ∀ c ∈ name.toList.head?, c ∉ blankChars
  last : ∀ c ∈ name.toList.getLast?, c ∉ blankChars

-- The checks of the ends are Boolean: the search for an instance would go through every character there is.
instance (name : String) : Decidable (IsFileName name) :=
  decidable_of_iff (name ≠ "" ∧ '\n' ∉ name.toList ∧ name.toList.head?.all (· ∉ blankChars) ∧
      name.toList.getLast?.all (· ∉ blankChars)) (by
    simp only [Option.all_eq_true, decide_eq_true_eq]
    exact ⟨fun h => ⟨h.1, h.2.1, h.2.2.1, h.2.2.2⟩, fun h => ⟨h.nonempty, h.oneLine, h.head, h.last⟩⟩)

/-! ## Blank characters and blank bytes -/

theorem isBlank_iff {b : UInt8} : Bytes.isBlank b = true ↔ 9 ≤ b.toNat ∧ b.toNat ≤ 13 ∨ b.toNat = 32 := by
  simp [Bytes.isBlank, UInt8.le_iff_toNat_le, ← UInt8.toNat_inj]

theorem mem_blankChars_iff {c : Char} : c ∈ blankChars ↔ 9 ≤ c.toNat ∧ c.toNat ≤ 13 ∨ c.toNat = 32 := by
  simp only [blankChars, List.mem_cons, List.not_mem_nil, or_false, ← Char.toNat_inj]
  simp only [Char.reduceToNat]
  omega

/-- A byte in the code of a character is blank exactly when the character is. -/
theorem isBlank_iff_of_mem_encodeChar {c : Char} {b : UInt8} (h : b ∈ Utf8.encodeChar c) :
    Bytes.isBlank b = true ↔ c ∈ blankChars := by
  rw [isBlank_iff, mem_blankChars_iff]
  constructor
  · intro hb
    rw [(Utf8.encodeChar_of_ascii_mem (by omega) h).2]
    exact hb
  · intro hc
    rw [Utf8.encodeChar, if_pos (by omega), List.mem_singleton] at h
    rw [h, Utf8.toNat_toUInt8 (by omega)]
    exact hc

/-- A name is trimmed at its characters exactly when it is trimmed at its bytes. -/
theorem trimmed_encode_iff {name : String} : Trimmed (Utf8.encode name) ↔
    (∀ c ∈ name.toList.head?, c ∉ blankChars) ∧ (∀ c ∈ name.toList.getLast?, c ∉ blankChars) := by
  have hhead : (∀ b ∈ (Utf8.encode name).head?, Bytes.isBlank b = false) ↔
      ∀ c ∈ name.toList.head?, c ∉ blankChars := by
    cases hcs : name.toList with
    | nil => simp [Utf8.encode, Utf8.encodeChars, hcs]
    | cons c cs =>
      obtain ⟨b, tail, heq, -⟩ := Utf8.head_encodeChar c
      have hblank := isBlank_iff_of_mem_encodeChar (c := c) (b := b) (heq ▸ List.mem_cons_self)
      simp only [Utf8.encode, hcs, Utf8.encodeChars_cons, heq, List.cons_append, List.head?_cons, Option.mem_def,
        Option.some.injEq, forall_eq']
      rw [← hblank, Bool.not_eq_true]
  have hlast : (∀ b ∈ (Utf8.encode name).getLast?, Bytes.isBlank b = false) ↔
      ∀ c ∈ name.toList.getLast?, c ∉ blankChars := by
    rcases List.eq_nil_or_concat name.toList with hcs | ⟨cs, c, hcs⟩
    · simp [Utf8.encode, Utf8.encodeChars, hcs]
    · obtain ⟨front, b, heq⟩ := (List.eq_nil_or_concat (Utf8.encodeChar c)).resolve_left (Utf8.encodeChar_ne_nil c)
      have hblank := isBlank_iff_of_mem_encodeChar (c := c) (b := b) (by simp [heq])
      have hcode : Utf8.encode name = Utf8.encodeChars cs ++ front ++ [b] := by
        rw [Utf8.encode, hcs, List.concat_eq_append, Utf8.encodeChars_append, Utf8.encodeChars_cons, heq,
          List.concat_eq_append]
        simp [Utf8.encodeChars]
      simp only [hcode, hcs, List.concat_eq_append, List.getLast?_append, List.getLast?_singleton, Option.some_or,
        Option.mem_def, Option.some.injEq, forall_eq']
      rw [← hblank, Bool.not_eq_true]
  exact ⟨fun h => ⟨hhead.mp h.head, hlast.mp h.last⟩, fun h => ⟨hhead.mpr h.1, hlast.mpr h.2⟩⟩

theorem newline_mem_encode_iff {s : String} : newline ∈ Utf8.encode s ↔ '\n' ∈ s.toList :=
  Utf8.mem_encode_iff (by decide)

/-- A name can stand in a marker line exactly when its code is trimmed bytes without a newline. -/
theorem isFileName_iff {name : String} :
    IsFileName name ↔ name ≠ "" ∧ newline ∉ Utf8.encode name ∧ Trimmed (Utf8.encode name) := by
  rw [newline_mem_encode_iff, trimmed_encode_iff]
  exact ⟨fun h => ⟨h.nonempty, h.oneLine, h.head, h.last⟩, fun h => ⟨h.1, h.2.1, h.2.2.1, h.2.2.2⟩⟩

/-! ## What the search finds -/

theorem opening_eq : opening = [45, 45, 32] := by decide

theorem closing_eq : closing = [32, 45, 45] := by decide

/-- The shape that the search looks for: a middle between the opening and the closing, whatever it holds. -/
theorem markerMiddle?_eq_some_iff {line m : Bytes} : markerMiddle? line = some m ↔
    ∃ body, Bytes.trimRight carriageReturn line = opening ++ body ++ closing ∧ m = Bytes.trim body := by
  unfold markerMiddle?
  generalize Bytes.trimRight carriageReturn line = line
  simp only [Bool.and_eq_true, List.isPrefixOf_iff_prefix, List.isSuffixOf_iff_suffix, decide_eq_true_eq]
  constructor
  · intro h
    split at h
    next hshape =>
      obtain ⟨⟨⟨rest, rfl⟩, hsuffix⟩, hlength⟩ := hshape
      rw [List.length_append] at hlength
      obtain ⟨body, rfl⟩ : closing <:+ rest :=
        List.suffix_of_suffix_length_le hsuffix (List.suffix_append _ _) (by omega)
      refine ⟨body, (List.append_assoc _ _ _).symm, ?_⟩
      have htake : (opening ++ (body ++ closing)).length - opening.length - closing.length = body.length := by
        simp only [List.length_append]
        omega
      rw [htake, List.drop_left, List.take_left] at h
      exact (Option.some.inj h).symm
    next => cases h
  · rintro ⟨body, rfl, rfl⟩
    have htake : (opening ++ body ++ closing).length - opening.length - closing.length = body.length := by
      simp only [List.length_append]
      omega
    have hlength : opening.length + closing.length ≤ (opening ++ body ++ closing).length := by
      simp only [List.length_append]
      omega
    rw [if_pos ⟨⟨⟨body ++ closing, (List.append_assoc _ _ _).symm⟩, ⟨opening ++ body, rfl⟩⟩, hlength⟩, htake,
      List.append_assoc, List.drop_left, List.take_left]

theorem getLast?_append_closing (d : Bytes) : (d ++ closing).getLast? = some 45 := by
  rw [closing_eq, List.getLast?_append]
  rfl

/-- A trimmed byte string is empty exactly when all its bytes are blank. -/
theorem trim_ne_nil_iff {d : Bytes} : Bytes.trim d ≠ [] ↔ ∃ b ∈ d, Bytes.isBlank b = false := by
  obtain ⟨front, back, hd, hfront, hback, htrim⟩ := Bytes.exists_trim d
  constructor
  · intro hne
    obtain ⟨b, rest, hb⟩ := List.exists_cons_of_ne_nil hne
    exact ⟨b, by rw [hd, hb]; simp, htrim.head b (by rw [hb]; rfl)⟩
  · rintro ⟨b, hmem, hb⟩ hnil
    rw [hd, hnil, List.append_nil, List.mem_append] at hmem
    rcases hmem with h | h
    · simp [hfront b h] at hb
    · simp [hback b h] at hb

/-- A line marks a file exactly when the search finds a middle in it that is not blank. -/
theorem isMarker_iff {line : Bytes} : IsMarker line ↔ ∃ m, markerMiddle? line = some m ∧ m ≠ [] := by
  simp only [markerMiddle?_eq_some_iff]
  constructor
  · rintro ⟨body, n, rfl, hbody⟩
    refine ⟨Bytes.trim body, ⟨body, ?_, rfl⟩, trim_ne_nil_iff.mpr hbody⟩
    exact Bytes.trimRight_append_replicate (by rw [getLast?_append_closing]; decide) n
  · rintro ⟨_, ⟨body, hline, rfl⟩, hne⟩
    obtain ⟨n, hd, -⟩ := Bytes.exists_trimRight carriageReturn line
    exact ⟨body, n, by rw [hd, hline], trim_ne_nil_iff.mp hne⟩

instance (line : Bytes) : Decidable (IsMarker line) :=
  decidable_of_iff ((markerMiddle? line).any (· ≠ []) = true) <| by
    rw [isMarker_iff, Option.any_eq_true]
    simp only [decide_eq_true_eq]

instance (d : Bytes) : Decidable (IsPlain d) :=
  inferInstanceAs (Decidable (∀ line ∈ Bytes.lines d, ¬IsMarker (Bytes.trimRight newline line)))

/-- No name is found exactly in the lines that mark no file. -/
theorem markerName?_eq_none_iff {line : Bytes} : markerName? line = .ok none ↔ ¬IsMarker line := by
  rw [isMarker_iff, markerName?]
  split
  next hm => simp [hm]
  next m hm =>
    simp only [hm, Option.some.injEq, exists_eq_left', not_not]
    split
    next e hdecode =>
      refine iff_of_false (fun h => by cases h) ?_
      rintro rfl
      rw [Utf8.decode, Utf8.decodeChars, Utf8.decodeFrom] at hdecode
      cases hdecode
    next name hdecode =>
      obtain rfl := Utf8.encode_of_decode hdecode
      simp

/-- A name is found in the lines whose middle is its code. -/
theorem markerName?_eq_some_iff {line : Bytes} {name : String} : markerName? line = .ok (some name) ↔
    markerMiddle? line = some (Utf8.encode name) ∧ name ≠ "" := by
  rw [markerName?]
  split
  next hm => simp [hm]
  next m hm =>
    simp only [hm, Option.some.injEq]
    split
    next e hdecode =>
      refine iff_of_false (fun h => by cases h) ?_
      rintro ⟨rfl, -⟩
      rw [Utf8.decode_encode] at hdecode
      cases hdecode
    next found hdecode =>
      obtain rfl := Utf8.encode_of_decode hdecode
      by_cases hempty : found = ""
      · subst hempty
        refine iff_of_false (fun h => by cases h) ?_
        rintro ⟨h, hne⟩
        exact hne (Utf8.encode_injective h).symm
      · simp only [String.isEmpty_iff, hempty, if_false, Except.ok.injEq, Option.some.injEq]
        constructor
        · rintro rfl
          exact ⟨rfl, hempty⟩
        · rintro ⟨h, -⟩
          exact Utf8.encode_injective h

/-- A name that is found in a line can stand in a marker line. -/
theorem IsFileName.of_markerName? {line : Bytes} {name : String} (hline : newline ∉ line)
    (h : markerName? line = .ok (some name)) : IsFileName name := by
  obtain ⟨hm, hne⟩ := markerName?_eq_some_iff.mp h
  obtain ⟨body, hbody, hname⟩ := markerMiddle?_eq_some_iff.mp hm
  obtain ⟨front, back, htrim, -, -, htrimmed⟩ := Bytes.exists_trim body
  rw [← hname] at htrim htrimmed
  refine isFileName_iff.mpr ⟨hne, fun hmem => hline ?_, htrimmed⟩
  obtain ⟨n, hd, -⟩ := Bytes.exists_trimRight carriageReturn line
  rw [hd, hbody, htrim]
  simp [hmem]

/-! ## The line written for a name -/

/-- The line written for a name without its newline. -/
theorem trimRight_markerLine (name : String) :
    Bytes.trimRight newline (markerLine name) = opening ++ Utf8.encode name ++ closing := by
  exact Bytes.trimRight_append_replicate (by rw [getLast?_append_closing]; decide) 1

/-- The line written for a name is found to mark it. -/
theorem IsFileName.markerName?_markerLine {name : String} (h : IsFileName name) :
    markerName? (Bytes.trimRight newline (markerLine name)) = .ok (some name) := by
  rw [trimRight_markerLine, markerName?_eq_some_iff]
  refine ⟨markerMiddle?_eq_some_iff.mpr ⟨Utf8.encode name, ?_, (isFileName_iff.mp h).2.2.trim_eq.symm⟩, h.nonempty⟩
  have hlast : (opening ++ Utf8.encode name ++ closing).getLast? ≠ some carriageReturn := by
    rw [getLast?_append_closing]
    decide
  simpa using Bytes.trimRight_append_replicate hlast 0

/-- The line written for a name is one line. -/
theorem IsFileName.isLine_markerLine {name : String} (h : IsFileName name) : Bytes.IsLine (markerLine name) := by
  refine .ended ?_
  rw [opening_eq, closing_eq]
  simp only [List.mem_append, not_or]
  exact ⟨⟨by decide, (isFileName_iff.mp h).2.1⟩, by decide⟩

end Rehearsal.Archive
