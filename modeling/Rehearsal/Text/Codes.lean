import Rehearsal.Text.Case

/-!
# Texts by their codes

An escape in a document may name half of a surrogate pair. That is a code but no character, so a text with such an
escape is kept as the list of its codes. `text?` gives the text of codes that are all characters, and
`text?_ofText` says that a text and its codes are one and the same.
-/

namespace Rehearsal

/-- A text by the codes of its characters, of which some may be halves of surrogate pairs. -/
abbrev Codes := List Nat

namespace Codes

/-- Whether a code is half of a surrogate pair, which is no character. -/
def isHalf (code : Nat) : Bool := 0xD800 ≤ code && code < 0xE000

/-- The codes of a text. -/
def ofText (s : String) : Codes := s.toList.map Char.toNat

/-- The text of codes, if they all are characters. -/
def text? (cs : Codes) : Option String :=
  if cs.any isHalf then none else some (String.ofList (cs.map Char.ofNat))

/-- The characters of codes, with a replacement character for each half of a pair. It is neither a letter nor a digit
nor a blank, so what is looked for among these is not found in a half. -/
def chars (cs : Codes) : List Char := cs.map fun code => if isHalf code then '\ufffd' else Char.ofNat code

/-- Codes in lower case. A half of a pair has none, and what stands on its two sides does not meet. -/
def lower (cs : Codes) : Codes := go [] cs
where
  /-- The codes, given those in front of them up to the last half, backwards. -/
  go (run : List Nat) : List Nat → Codes
    | [] => lowerRun run
    | code :: rest => if isHalf code then lowerRun run ++ code :: go [] rest else go (code :: run) rest
  /-- A run of characters, given backwards, in lower case. -/
  lowerRun (run : List Nat) : Codes := ofText (lowerCase (String.ofList (run.reverse.map Char.ofNat)))

/-- The code of a character is no half of a pair. -/
theorem isHalf_toNat (c : Char) : isHalf c.toNat = false := by
  have h : c.toNat < 0xD800 ∨ 0xDFFF < c.toNat ∧ c.toNat < 0x110000 := c.valid
  rw [isHalf, Bool.and_eq_false_iff, decide_eq_false_iff_not, decide_eq_false_iff_not]
  omega

/-- The text of the codes of a text is that text. -/
theorem text?_ofText (s : String) : text? (ofText s) = some s := by
  have h : (ofText s).any isHalf = false := by
    rw [List.any_eq_false]
    intro code hc
    obtain ⟨c, -, rfl⟩ := List.mem_map.1 hc
    simp only [isHalf_toNat, Bool.false_eq_true, not_false_iff]
  rw [text?, h]
  simp [ofText, List.map_map, Function.comp_def]

end Codes

end Rehearsal
