import Rehearsal.Charset.Basic
import Rehearsal.Charset.Grid.Big5
import Rehearsal.Charset.Grid.Chinese

/-!
# Chinese character sets

The sets of two bytes for each character, and the set of two or four that holds all of Unicode.
-/

namespace Rehearsal.Charset

/-- A step of a set in which all bytes from 128 on lead pairs. -/
def pairStep (find : Nat → Nat → Option (List Char)) (b : UInt8) (rest : Bytes) : Front :=
  if b < 128 then .chars [Char.ofNat b.toNat] 0
  else match rest with
    | [] => .cut
    | c :: _ =>
      match find b.toNat c.toNat with
      | some cs => .chars cs 1
      | none => .fault 0

/-- One character as several. -/
def single? (c? : Option Char) : Option (List Char) := c?.map fun c => [c]

/-- The character of a pair of bytes in a grid whose rows and columns begin at byte 161. -/
def highPair? (g : Grid) (b c : Nat) : Option Char := if 160 < b && 160 < c then g.char? (b - 160) (c - 160) else none

/-- The character of a pair of GB 2312. -/
def gb2312Pair? (b c : Nat) : Option (List Char) := single? (highPair? gb2312 b c)

/-- The character of a pair of GBK. -/
def gbkPair? (b c : Nat) : Option Char :=
  match gbkAdded.char? b c with
  | some char => some char
  | none => highPair? gb2312 b c

/-- The character of the cell with a number among the four-byte cells below U+10000. -/
def gb18030Low? (n : Nat) : Option Char :=
  if 39420 ≤ n then none
  else ((gb18030Runs.filter fun (first, _) => first ≤ n).getLast?).map fun (first, code) => Char.ofNat (code + (n - first))

/-- The character of four bytes of GB 18030. -/
def gb18030Four? (a b c d : UInt8) : Option Char :=
  if a < 129 || a == 255 || b < 48 || 57 < b || c < 129 || c == 255 || d < 48 || 57 < d then none
  else
    let n := ((a.toNat - 129) * 10 + (b.toNat - 48)) * 1260 + (c.toNat - 129) * 10 + (d.toNat - 48)
    if a < 133 then gb18030Low? n
    else if a < 144 then none
    else
      let code := 0x10000 + (n - 189000)
      if code < 0x110000 then some (Char.ofNat code) else none

/-- A step of GB 18030: a figure in the second place makes a cell of four bytes. -/
def gb18030Step (b : UInt8) (rest : Bytes) : Front :=
  if b < 128 then .chars [Char.ofNat b.toNat] 0
  else match rest with
    | [] => .cut
    | c :: more =>
      if 48 ≤ c && c ≤ 57 then
        match more with
        | d :: e :: _ => Front.ofChar? (gb18030Four? b c d e) 3
        | _ => .cut
      else
        match gbkPair? b.toNat c.toNat with
        | some char => .chars [char] 1
        | none => Front.ofChar? (gb18030Added.char? b.toNat c.toNat) 1

/-- The character of a pair of code page 950. -/
def windows950Pair? (b c : Nat) : Option (List Char) := single? (windows950.orElse big5 b c)

/-- The letters with marks of the Hong Kong set. -/
def hongKongPairs : List ((Nat × Nat) × List Nat) :=
  [((0x88, 0x62), [0xCA, 0x304]), ((0x88, 0x64), [0xCA, 0x30C]), ((0x88, 0xA3), [0xEA, 0x304]),
    ((0x88, 0xA5), [0xEA, 0x30C])]

/-- The cells of Big5 that the Hong Kong set leaves empty. -/
def hongKongGaps : List (Nat × Nat) :=
  [(0xC6, 0xCF), (0xC6, 0xD3), (0xC6, 0xD5), (0xC6, 0xD7), (0xC6, 0xDE), (0xC6, 0xDF)]

/-- The characters of a pair of the Hong Kong set. -/
def hongKongPair? (b c : Nat) : Option (List Char) :=
  match hongKong.char? b c with
  | some char => some [char]
  | none =>
    match hongKongPairs.lookup (b, c) with
    | some codes => some (codes.map Char.ofNat)
    | none => if hongKongGaps.contains (b, c) then none else single? (big5.char? b c)

end Rehearsal.Charset
