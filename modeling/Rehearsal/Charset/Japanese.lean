import Rehearsal.Charset.Basic
import Rehearsal.Charset.Grid.Japanese

/-!
# Japanese character sets

The sets of two bytes for each character. The extended one and the shifted one put the same grid into bytes in two ways;
code page 932 changes cells of the shifted one. The later standard adds characters to the grid and a second plane.
-/

namespace Rehearsal.Charset

/-- The characters of the grid of JIS X 0208. -/
def jisChars? (row column : Nat) : Option (List Char) := (jis208.char? row column).map fun c => [c]

/-- Cells of the later grid that the first edition does not have. -/
def laterCells : List (Nat × Nat) :=
  [(14, 1), (15, 94), (47, 52), (47, 94), (84, 7), (94, 90), (94, 91), (94, 92), (94, 93), (94, 94)]

/-- The characters of the first plane of JIS X 0213, in the edition of 2004 or the one before, in which the cells that
came later are replaced as a whole. -/
def firstPlane? (edition2004 : Bool) (row column : Nat) : Option (List Char) :=
  if !edition2004 && laterCells.contains (row, column) then some [replacement]
  else match jis208.orElse jis213First row column with
    | some c => some [c]
    | none => (jis213Pairs.lookup (row, column)).map fun codes => codes.map Char.ofNat

/-- The character of the second plane of JIS X 0213. One cell differs between the editions. -/
def secondPlane? (edition2004 : Bool) (row column : Nat) : Option (List Char) :=
  if !edition2004 && row == 93 && column == 27 then some ['\u9B1D']
  else (jis213Second.char? row column).map fun c => [c]

/-- The half-width syllable of a byte. -/
def halfWidth (b : UInt8) : Char := Char.ofNat (0xFEC0 + b.toNat)

/-- A step of an extended set: bytes from 161 on are cells of the grid, behind 143 cells of a supplement, and behind 142
stand half-width syllables. -/
def extendedStep (grid supplement : Nat → Nat → Option (List Char)) (b : UInt8) (rest : Bytes) : Front :=
  let cell (find : Nat → Nat → Option (List Char)) (b c : UInt8) (extra : Nat) : Front :=
    if b < 161 || c < 161 then .fault 0
    else match find (b.toNat - 160) (c.toNat - 160) with
      | some cs => .chars cs extra
      | none => .fault 0
  if b < 128 then .chars [Char.ofNat b.toNat] 0
  else match rest with
    | [] => .cut
    | c :: more =>
      if b == 142 then if 161 ≤ c && c ≤ 223 then .chars [halfWidth c] 1 else .fault 0
      else if b == 143 then
        match more with
        | [] => .cut
        | d :: _ => cell supplement c d 2
      else cell grid b c 1

/-- The row and the column of a shifted pair of bytes. -/
def shiftedCell? (b c : UInt8) : Option (Nat × Nat) :=
  let lead := if b < 224 then b.toNat - 129 else b.toNat - 193
  let trail := if c < 128 then c.toNat - 64 else c.toNat - 65
  if c < 64 || c == 127 || 252 < c then none
  else some (2 * lead + trail / 94 + 1, trail % 94 + 1)

/-- Whether a byte leads a shifted pair. -/
def leadsShifted (b : UInt8) : Bool := (129 ≤ b && b ≤ 159) || (224 ≤ b && b ≤ 252)

/-- A step of a shifted set with a grid. -/
def shiftedStep (low : UInt8 → Char) (grid : Nat → Nat → Option (List Char)) (b : UInt8) (rest : Bytes) : Front :=
  if b < 128 then .chars [low b] 0
  else if 161 ≤ b && b ≤ 223 then .chars [halfWidth b] 0
  else if leadsShifted b then
    match rest with
    | [] => .cut
    | c :: _ =>
      match (shiftedCell? b c).bind fun (row, column) => grid row column with
      | some cs => .chars cs 1
      | none => .fault 0
  else .fault 0

/-- The character of a low byte that is itself. -/
def plainLow (b : UInt8) : Char := Char.ofNat b.toNat

/-- The character of a low byte where the yen sign and the overline take the places of two others. -/
def romanLow (b : UInt8) : Char :=
  if b == 92 then '\xa5' else if b == 126 then '\u203e' else Char.ofNat b.toNat

/-- The rows of the second plane, in the order in which the lead bytes from 240 on hold them, two for each. -/
def secondPlaneRows : List Nat :=
  [1, 8, 3, 4, 5, 12, 13, 14, 15] ++ (List.range 17).map (· + 78)

/-- The characters of a shifted cell of the later standard: from row 95 on they are in the second plane. -/
def laterShifted? (edition2004 : Bool) (row column : Nat) : Option (List Char) :=
  if row < 95 then firstPlane? edition2004 row column
  else (secondPlaneRows[row - 95]?).bind fun r => secondPlane? edition2004 r column

/-- A step of code page 932. -/
def windows932Step (b : UInt8) (rest : Bytes) : Front :=
  if b ≤ 128 then .chars [Char.ofNat b.toNat] 0
  else if b == 160 then .chars ['\uf8f0'] 0
  else if 161 ≤ b && b ≤ 223 then .chars [halfWidth b] 0
  else if 253 ≤ b then .chars [Char.ofNat (0xF8F1 + (b.toNat - 253))] 0
  else match rest with
    | [] => .cut
    | c :: _ =>
      match windows932.char? b.toNat c.toNat with
      | some char => .chars [char] 1
      | none =>
        match shiftedCell? b c with
        | none => .fault 0
        | some (row, column) =>
          if 240 ≤ b && b ≤ 249 then .chars [Char.ofNat (0xE000 + 94 * (row - 95) + (column - 1))] 1
          else if b ≤ 234 then Front.ofChar? (jis208.char? row column) 1
          else .fault 0

/-- A step of the extended set. -/
def eucJpStep : UInt8 → Bytes → Front :=
  extendedStep jisChars? fun row column => (jis212.char? row column).map fun c => [c]

/-- A step of the extended set with the later standard, whose second plane comes before the old supplement. -/
def eucLaterStep (edition2004 : Bool) : UInt8 → Bytes → Front :=
  extendedStep (firstPlane? edition2004) fun row column =>
    match secondPlane? edition2004 row column with
    | some cs => some cs
    | none => (jis212.char? row column).map fun c => [c]

end Rehearsal.Charset
