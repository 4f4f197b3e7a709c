import Rehearsal.Charset.Chinese
import Rehearsal.Charset.Grid.Korean

/-!
# Korean character sets

The extended set, the code page that adds the rest of the syllables to it, and the set that composes syllables of
letters. A syllable is made of a first letter, a vowel and a last letter, of which there are 19, 21 and 28, and the
syllables stand in this order.
-/

namespace Rehearsal.Charset

/-- The syllable of a first letter, a vowel and a last letter. -/
def syllable (first vowel last : Nat) : Char := Char.ofNat (0xAC00 + first * 588 + vowel * 28 + last)

/-- The compatibility letters of the first letters, by their codes above U+3100. -/
def firstLetters : List Nat :=
  [0x31, 0x32, 0x34, 0x37, 0x38, 0x39, 0x41, 0x42, 0x43, 0x45, 0x46, 0x47, 0x48, 0x49, 0x4A, 0x4B, 0x4C, 0x4D, 0x4E]

/-- The compatibility letters of the last letters, of which the first one is none. -/
def lastLetters : List Nat :=
  [0, 0x31, 0x32, 0x33, 0x34, 0x35, 0x36, 0x37, 0x39, 0x3A, 0x3B, 0x3C, 0x3D, 0x3E, 0x3F, 0x40, 0x41, 0x42, 0x44,
    0x45, 0x46, 0x47, 0x48, 0x4A, 0x4B, 0x4C, 0x4D, 0x4E]

/-- The character of a pair of KS X 1001. -/
def ksPair? (b c : Nat) : Option Char := highPair? ksx1001 b c

/-- The syllable of three letters of the grid. -/
def spelled? (first vowel last : UInt8) : Option Char := do
  let letter (b : UInt8) : Nat := b.toNat - 161 + 0x31
  if first < 161 || vowel < 191 || 211 < vowel || last < 161 then none
  let f ← firstLetters.findIdx? (· == letter first)
  let l ← if last == 212 then some 0 else lastLetters.findIdx? (· == letter last)
  some (syllable f (vowel.toNat - 191) l)

/-- A step of the extended set. A mark and three letters spell a syllable. -/
def eucKrStep (b : UInt8) (rest : Bytes) : Front :=
  if b == 164 && rest.head? == some 212 then
    match rest with
    | _ :: m :: first :: n :: vowel :: o :: last :: _ =>
      if m == 164 && n == 164 && o == 164 then Front.ofChar? (spelled? first vowel last) 7 else .fault 0
    | _ => .cut
  else pairStep (fun b c => single? (ksPair? b c)) b rest

/-- The syllables that the grid does not have, in order. -/
def addedSyllables : Array Char :=
  let known := (ksx1001.filter fun (row, _) => 16 ≤ row && row ≤ 40).flatMap fun (_, _, text) => text.toList
  let marks := known.foldl (fun (a : Array Bool) c => a.setIfInBounds (c.toNat - 0xAC00) true) (Array.replicate 11172 false)
  ((List.range 11172).filter fun i => !(marks[i]?.getD true)).toArray.map fun i => Char.ofNat (0xAC00 + i)

/-- The place of a trail byte among the trail bytes of added syllables. -/
def trailPlace? (c : Nat) : Option Nat :=
  if 0x41 ≤ c && c ≤ 0x5A then some (c - 0x41)
  else if 0x61 ≤ c && c ≤ 0x7A then some (c - 0x47)
  else if 0x81 ≤ c && c ≤ 0xFE then some (c - 0x4D)
  else none

/-- The character of a pair of code page 949: a cell of the grid, or one of the added syllables, 178 of which stand behind
each lead byte up to 160 and 84 behind each one above. -/
def windows949Pair? (b c : Nat) : Option Char :=
  match ksPair? b c with
  | some char => some char
  | none => do
    let place ← trailPlace? c
    let n ← if 0x81 ≤ b && b ≤ 0xA0 then some ((b - 0x81) * 178 + place)
      else if 0xA1 ≤ b && b ≤ 0xC6 && place < 84 then some (32 * 178 + (b - 0xA1) * 84 + place)
      else none
    addedSyllables[n]?

/-! ## Composed syllables -/

/-- A letter of five bits: none, a filler, or the place of the letter. -/
inductive Part where
  | fill
  | letter (i : Nat)
  deriving DecidableEq, Repr, Inhabited

/-- The first letter of five bits. -/
def firstPart? (n : Nat) : Option Part :=
  if n == 1 then some .fill else if 2 ≤ n && n ≤ 20 then some (.letter (n - 2)) else none

/-- The vowel of five bits. -/
def vowelPart? (n : Nat) : Option Part :=
  if n == 2 then some .fill
  else if 3 ≤ n && n ≤ 7 then some (.letter (n - 3))
  else if 10 ≤ n && n ≤ 15 then some (.letter (n - 5))
  else if 18 ≤ n && n ≤ 23 then some (.letter (n - 7))
  else if 26 ≤ n && n ≤ 29 then some (.letter (n - 9))
  else none

/-- The last letter of five bits. -/
def lastPart? (n : Nat) : Option Part :=
  if n == 1 then some .fill
  else if 2 ≤ n && n ≤ 17 then some (.letter (n - 1))
  else if 19 ≤ n && n ≤ 29 then some (.letter (n - 2))
  else none

/-- The character of three parts: a syllable, or a letter that stands alone. -/
def composed? : Part → Part → Part → Option Char
  | .letter f, .letter v, .letter l => some (syllable f v l)
  | .letter f, .letter v, .fill => some (syllable f v 0)
  | .letter f, .fill, .fill => (firstLetters[f]?).map fun n => Char.ofNat (0x3100 + n)
  | .fill, .letter v, .fill => some (Char.ofNat (0x314F + v))
  | .fill, .fill, .letter l => (lastLetters[l]?).map fun n => Char.ofNat (0x3100 + n)
  | .fill, .fill, .fill => some '\u3000'
  | _, _, _ => none

/-- The character of a pair of the composing set: syllables below lead byte 216, and cells of the grid above. -/
def johabPair? (b c : Nat) : Option Char :=
  if b < 216 then do
    let f ← firstPart? (b / 4 % 32)
    let v ← vowelPart? ((b * 8 + c / 32) % 32)
    let l ← lastPart? (c % 32)
    composed? f v l
  else if b == 223 || 249 < b || c < 49 || (128 ≤ c && c < 145) || c % 128 == 127 ||
      (b == 218 && 161 ≤ c && c ≤ 211) then none
  else
    let lead := if b < 224 then 2 * (b - 217) else 2 * b - 407
    let trail := if c < 145 then c - 49 else c - 67
    if b == 216 then none else ksx1001.char? (lead + trail / 94 + 1) (trail % 94 + 1)

end Rehearsal.Charset
