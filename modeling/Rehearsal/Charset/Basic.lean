import Rehearsal.Text.Bytes

/-!
# Decoding bytes

A character set is decoded step by step: a step looks at what stands in front and says which characters these are and
how many bytes they take, or that there is no character. One replacement character is put for each place without a
character, and one for bytes that end within a character.

Sets with shifts keep a state between the steps.
-/

namespace Rehearsal.Charset

/-- What stands at the front of bytes. -/
inductive Front where
  /-- Characters, and the number of bytes they take beyond the first. -/
  | chars (cs : List Char) (extra : Nat)
  /-- No character; so many bytes beyond the first are passed over. -/
  | fault (extra : Nat)
  /-- The bytes end within a character. -/
  | cut
  deriving DecidableEq, Repr, Inhabited

/-- The sign for bytes that are no character. -/
def replacement : Char := '\ufffd'

/-- A step of a set with a state: the state, the first byte and those behind it. -/
abbrev Step (σ : Type) := σ → UInt8 → Bytes → Front × σ

/-- The characters of bytes, from a state on, and the number of bytes that are the beginning of a character without an
end. -/
def decodeFrom {σ : Type} (step : Step σ) (s : σ) : Bytes → List Char × Nat
  | [] => ([], 0)
  | b :: rest =>
    match step s b rest with
    | (.chars cs extra, s) =>
      let (more, left) := decodeFrom step s (rest.drop extra)
      (cs ++ more, left)
    | (.fault extra, s) =>
      let (more, left) := decodeFrom step s (rest.drop extra)
      (replacement :: more, left)
    | (.cut, _) => ([replacement], rest.length + 1)
termination_by d => d.length
decreasing_by all_goals (simp only [List.length_drop, List.length_cons]; omega)

/-- The characters of bytes in a set without a state. -/
def decodeBy (step : UInt8 → Bytes → Front) (d : Bytes) : List Char :=
  (decodeFrom (fun () b rest => (step b rest, ())) () d).1

/-- A character that takes a number of bytes, or a fault of the first byte. -/
def Front.ofChar? (c? : Option Char) (extra : Nat) : Front :=
  match c? with
  | some c => .chars [c] extra
  | none => .fault 0

/-!
## Grids of characters

The large character sets put their characters into the cells of a grid. Which cells a set fills is told by runs: a row,
the column of the first cell, and the characters of this cell and those behind it.
-/

/-- The runs of a grid: the row, the first column and the characters. A replacement character stands in a cell that is
empty. -/
abbrev Grid := List (Nat × Nat × String)

/-- The character of a cell. -/
def Grid.char? (g : Grid) (row column : Nat) : Option Char :=
  g.findSome? fun (r, start, text) =>
    if r == row && start ≤ column then
      match text.toList[column - start]? with
      | some c => if c == '\ufffd' then none else some c
      | none => none
    else none

/-- The character of a cell in the first of two grids that has it. -/
def Grid.orElse (g h : Grid) (row column : Nat) : Option Char :=
  match g.char? row column with
  | some c => some c
  | none => h.char? row column

end Rehearsal.Charset
