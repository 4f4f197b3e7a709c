import Rehearsal.Text.Name.Alphabet
import Rehearsal.Text.Name.Ancient
import Rehearsal.Text.Name.East
import Rehearsal.Text.Name.Pictograph
import Rehearsal.Text.Name.Picture
import Rehearsal.Text.Name.Script
import Rehearsal.Text.Name.Symbol
import Rehearsal.Text.Property

/-!
# Names of characters

Every character has a name of capitals, figures, hyphens and blanks, and some have further ones (Unicode 14).
`CharName.find?` finds the code point of a name.

The names are written in tables, one behind the other in the order of their code points. A small letter stands in front of
each and tells how many words it shares with the name before, from `a` for none on; only the further words follow. A plus
sign and a number in front of the letter pass over code points, and an equals sign gives another name to the one before.

Syllables of Hangul are named by their parts, and some other characters by their code points.
-/

namespace Rehearsal.CharName

/-- How far a table has been read. -/
structure Scan where
  /-- The code point of the name that is being read. -/
  code : Nat
  /-- The code point of the name behind it. -/
  next : Nat
  /-- How many code points are passed over, behind a plus sign. -/
  skipped : Option Nat
  /-- The words of the name, last one first, and so the letters of each. -/
  name : List (List Char)
  found : Option Nat
  deriving Inhabited

/-- Ends the name that is being read, and notes its code point if it is the one wanted. -/
def Scan.settle (s : Scan) (wanted : List (List Char)) : Scan :=
  if s.found.isNone && s.name == wanted then { s with found := some s.code } else s

/-- Reads a character of a table. -/
def Scan.read (wanted : List (List Char)) (s : Scan) (c : Char) : Scan :=
  if c == '+' then { s with skipped := some 0 }
  else if c == '=' then { s with next := s.next - 1 }
  else if c.isLower then
    let s := s.settle wanted
    let code := s.next + s.skipped.getD 0
    ⟨code, code + 1, none, [] :: s.name.drop (s.name.length - (c.toNat - 97)), s.found⟩
  else match s.skipped, s.name with
    | some n, _ => { s with skipped := some (10 * n + (c.toNat - 48)) }
    | none, word :: before => { s with name := if c == ' ' then [] :: word :: before else (c :: word) :: before }
    | none, [] => s

/-- The code point of a name in a table that begins at a code point. The words are given last one first, and so the letters
of each. -/
def inTable? (wanted : List (List Char)) (first : Nat) (table : List String) : Option Nat :=
  let start : Scan := ⟨first, first, none, [], none⟩
  ((table.foldl (fun s text => text.foldl (Scan.read wanted) s) start).settle wanted).found

/-- The words of a name, last one first, and so the letters of each. -/
def wordsOf (cs : List Char) : List (List Char) :=
  cs.foldl (fun words c => match words with
    | word :: before => if c == ' ' then [] :: word :: before else (c :: word) :: before
    | [] => []) [[]]

/-- All tables with the code points they begin at. -/
def tables : List (Nat × List String) :=
  [(0, alphabetNames), (0x1000, scriptNames), (0x2000, symbolNames), (0x3000, eastNames), (0x10000, ancientNames),
    (0x12000, pictographNames), (0x1D000, pictureNames)]

/-- What stands behind a lead. -/
def behind? (lead : String) (cs : List Char) : Option (List Char) :=
  if lead.toList.isPrefixOf cs then some (cs.drop lead.length) else none

/-- The number of four or five hexadecimal figures in capitals. -/
def codeOf? (cs : List Char) : Option Nat :=
  if (cs.length == 4 || cs.length == 5) && cs.all fun c => c.isDigit || ('A' ≤ c && c ≤ 'F') then
    some (cs.foldl (fun n c => 16 * n + (hexValue? c.toLower).getD 0) 0)
  else none

/-- The signs of Chinese origin, which are named by their code points. -/
def unified : List (Nat × Nat) :=
  [(0x3400, 0x4DBF), (0x4E00, 0x9FFF), (0x20000, 0x2A6DF), (0x2A700, 0x2B738), (0x2B740, 0x2B81D), (0x2B820, 0x2CEA1),
    (0x2CEB0, 0x2EBE0), (0x30000, 0x3134A)]

/-- Further signs that are named by their code points, without a zero in front. -/
def numbered : List (String × List (Nat × Nat)) :=
  [("CJK COMPATIBILITY IDEOGRAPH-", [(0xF900, 0xFA6D), (0xFA70, 0xFAD9), (0x2F800, 0x2FA1D)]),
    ("KHITAN SMALL SCRIPT CHARACTER-", [(0x18B00, 0x18CD5)]), ("NUSHU CHARACTER-", [(0x1B170, 0x1B2FB)])]

/-- Whether a code point lies in one of some runs. -/
def isIn (runs : List (Nat × Nat)) (code : Nat) : Bool := runs.any fun (first, last) => first ≤ code && code ≤ last

/-- The code point of a name that ends in it. -/
def numbered? (cs : List Char) : Option Nat :=
  numbered.findSome? fun (lead, runs) => do
    let digits ← behind? lead cs
    let code ← codeOf? digits
    if isIn runs code && digits.head? != some '0' then some code else none

/-- The names of the leading parts of a syllable of Hangul. -/
def leads : List String :=
  ["G", "GG", "N", "D", "DD", "R", "M", "B", "BB", "S", "SS", "", "J", "JJ", "C", "K", "T", "P", "H"]

/-- The names of the vowels of a syllable. -/
def vowels : List String :=
  ["A", "AE", "YA", "YAE", "EO", "E", "YEO", "YE", "O", "WA", "WAE", "OE", "YO", "U", "WEO", "WE", "WI", "YU", "EU", "YI",
    "I"]

/-- The names of the final parts of a syllable. -/
def finals : List String :=
  ["", "G", "GG", "GS", "N", "NJ", "NH", "D", "L", "LG", "LM", "LB", "LS", "LT", "LP", "LH", "M", "B", "BS", "S", "SS",
    "NG", "J", "C", "K", "T", "P", "H"]

/-- The place of the longest of some names that a text begins with, and what stands behind it. -/
def longest? (names : List String) (cs : List Char) : Option (Nat × List Char) :=
  let fitting := names.zipIdx.filter fun (name, _) => name.toList.isPrefixOf cs
  let best := fitting.foldl (fun best (name, i) => match best with
    | some (length, _) => if length < name.length then some (name.length, i) else best
    | none => some (name.length, i)) none
  best.map fun (length, i) => (i, cs.drop length)

/-- The code point of the syllable that names of parts make. -/
def syllable? (cs : List Char) : Option Nat := do
  let (lead, cs) ← longest? leads cs
  let (vowel, cs) ← longest? vowels cs
  let (final, cs) ← longest? finals cs
  if cs.isEmpty then some (0xAC00 + (lead * 21 + vowel) * 28 + final) else none

/-- The code point of a name. Capitals and small letters are the same, except in the leads of syllables and of the signs of
Chinese origin, where only capitals count. -/
def find? (name : List Char) : Option Nat :=
  match behind? "HANGUL SYLLABLE " name, behind? "CJK UNIFIED IDEOGRAPH-" name with
  | some parts, _ => syllable? parts
  | _, some digits => (codeOf? digits).filter (isIn unified)
  | none, none =>
    let capitals := name.map Char.toUpper
    match numbered? capitals with
    | some code => some code
    | none => tables.findSome? fun (first, table) => inTable? (wordsOf capitals) first table

end Rehearsal.CharName
