import Rehearsal.Text.Property

/-!
# Kinds of characters

What a character is for those who read or write texts: a decimal digit, a blank, one that can be shown as it is, a letter.
-/

/-!
## Decimal digits

The ten digits of every script that has them (Unicode 14). Their runs are whole tens in order, so a digit's
value is its distance from the start of its run, modulo ten.
-/

namespace Rehearsal

/-- The decimal digits above ASCII. -/
def digitTable : Property := .ofWords (String.join [
    "660 9 87 9 c7 9 19d 9 77 9 77 9 77 9 77 9 77 9 77 9 77 9 77 9 77 9 61 9 77 9 47 9 117 9 47 ",
    "9 747 9 27 9 12d 9 81 9 a7 9 7 9 b7 9 57 9 87 9 7 9 89c7 9 2a7 9 27 9 c7 9 17 9 57 9 197 9 ",
    "5317 9 587 9 887 9 32d 9 81 9 3d 9 91 9 117 9 157 9 77 9 177 9 67 9 67 9 1a7 9 67 9 2f7 9 ",
    "f7 9 47 9 4cb7 9 57 9 87 9 6c75 31 941 9 1a7 9 657 9 1297 9"])

/-- The value of a decimal digit of any script. -/
def digitValue? (c : Char) : Option Nat :=
  if c.toNat < 0x80 then if '0' ≤ c && c ≤ '9' then some (c.toNat - 48) else none
  else (digitTable.runs.find? fun (first, last) => first ≤ c.toNat && c.toNat ≤ last).map fun (first, _) =>
    (c.toNat - first) % 10

/-- Whether a character is a decimal digit of some script. -/
def isDigit (c : Char) : Bool := (digitValue? c).isSome

/-!
## Blank characters

The characters a trimmed text loses at its ends and a text of words is cut at: the spaces of every width,
the line ends, and the four information separators. Word splitting of script lines knows three blanks
only and does not ask for these.
-/

/-- Whether a character is blank. -/
def isBlank (c : Char) : Bool :=
  let n := c.toNat
  (9 ≤ n && n ≤ 13) || (28 ≤ n && n ≤ 32) || n == 0x85 || n == 0xA0 || n == 0x1680 ||
    (0x2000 ≤ n && n ≤ 0x200A) || n == 0x2028 || n == 0x2029 || n == 0x202F || n == 0x205F || n == 0x3000

/-- Characters without blank ones at the front. -/
def trimStart (cs : List Char) : List Char := cs.dropWhile isBlank

/-- Characters without blank ones at the end. -/
def trimEnd (cs : List Char) : List Char := (cs.reverse.dropWhile isBlank).reverse

/-- Characters without blank ones at either end. -/
def trimChars (cs : List Char) : List Char := trimEnd (trimStart cs)

/-- A text without blanks at either end. -/
def trim (s : String) : String := String.ofList (trimChars s.toList)

/-- The runs of characters between those that `isCut` holds of; no run is empty. -/
def runsBetween (isCut : Char → Bool) (cs : List Char) : List (List Char) :=
  cs.splitBy (fun a b => isCut a == isCut b) |>.filter fun run => run.any fun c => !isCut c

/-- The words of a text: its runs of characters that are not blank. -/
def words (s : String) : List String := (runsBetween isBlank s.toList).map String.ofList

/-!
## Printable characters

Which characters a quoted text shows as themselves: those that are neither controls, formats, surrogates,
private or unassigned code points, nor separators other than the plain space (Unicode 14).
-/

/-- The printable code points above ASCII. -/
def printableTable : Property := .ofWords (String.join [
    "a1 b 2 2c9 3 5 5 6 2 0 2 13 2 18c 2 25 3 31 3 2 2 36 9 1a 5 5 12 15 2 bf 2 2f 3 3a 3 64 f ",
    "3a 3 30 3 e 2 1b 3 0 2 a 6 1e a 49 2 a0 2 7 3 1 3 15 2 6 2 0 4 3 3 8 3 1 3 3 9 0 5 1 2 4 3 ",
    "18 3 2 2 5 5 1 3 15 2 6 2 1 2 1 2 1 3 0 2 4 5 1 3 2 4 0 8 3 2 0 8 10 b 2 2 8 2 2 2 15 2 6 2 ",
    "1 2 4 3 9 2 2 2 2 3 0 10 3 3 b 8 6 2 2 2 7 3 1 3 15 2 6 2 1 2 4 3 8 3 1 3 2 8 2 5 1 2 4 3 ",
    "11 b 1 2 5 4 2 2 3 4 1 2 0 2 1 4 1 4 2 4 b 5 4 4 2 2 3 3 0 7 0 f 14 6 c 2 2 2 16 2 f 3 8 2 ",
    "2 2 3 8 1 2 2 3 0 3 3 3 9 8 15 2 2 2 16 2 9 2 4 3 8 2 2 2 3 8 1 7 1 2 3 3 9 2 1 e c 2 2 2 ",
    "32 2 2 2 5 5 f 3 19 2 2 2 11 4 17 2 8 2 0 3 6 4 0 5 5 2 0 2 7 7 9 3 2 d 39 5 1c 26 1 2 0 2 ",
    "4 2 17 2 0 2 16 3 4 2 0 2 5 3 9 3 3 21 47 2 23 5 26 2 23 2 e 2 c 26 c5 2 0 6 0 3 178 2 3 3 ",
    "6 2 0 2 3 3 28 2 3 3 20 2 3 3 6 2 0 2 3 3 e 2 38 2 3 3 42 3 1f 4 19 7 55 3 5 3 27f 2 1b 4 ",
    "58 8 15 a 17 a 13 d c 2 2 2 1 d 5d 3 9 7 9 7 d 2 a 7 58 8 2a 6 45 b 1e 2 b 5 b 5 0 4 29 3 4 ",
    "c 2b 5 19 7 a 4 3d 3 40 2 1c 3 a 7 9 7 d 3 1e 32 4c 4 2e 2 73 9 3b 4 e 4 3b 8 2a 3 a 9 2a 6 ",
    "215 3 5 3 25 3 5 3 7 2 0 2 0 2 0 2 1e 3 34 2 e 2 d 3 5 2 12 3 2 2 8 12 17 9 2e 12 1 3 1a 2 ",
    "c 4 20 10 20 10 8b 5 296 1a a 16 713 3 1f 2 15c 6 2c 2 0 6 0 3 37 8 1 f 17 a 6 2 6 2 6 2 6 ",
    "2 6 2 6 2 6 2 6 2 7d 23 19 2 58 d d5 1b b 6 3e 2 55 3 66 6 2a 2 5d 2 53 d 2e 2 726c 4 36 a ",
    "15b 15 b7 9 ca 6 1 2 0 2 4 19 3a 4 9 7 37 9 45 9 b 7 73 c 1d 4 4d 2 a 5 20 2 36 a d 3 9 3 ",
    "66 19 1b b 5 3 5 3 5 a 6 2 6 2 3b 5 7d 3 9 7 2ba3 d 16 5 30 2105 16d 3 69 27 6 d 4 6 19 2 4 ",
    "2 0 2 1 2 1 2 7c 11 1bc 3 35 8 0 21 29 7 32 2 12 2 3 5 4 2 86 5 bd 4 5 3 5 3 5 3 2 4 6 2 6 ",
    "e 1 3 b 2 19 2 12 2 1 2 e 3 d 23 7a 6 2 5 2c 4 57 2 c 4 0 30 2d 83 1c 4 30 10 1b 5 23 a 1d ",
    "6 2a 6 1d 2 24 5 d 2b 9d 3 9 7 23 5 23 5 27 9 33 c b 2 e 2 6 2 1 2 a 2 e 2 6 2 1 44 136 a ",
    "15 b 7 19 5 2 29 2 8 46 5 3 0 2 2b 2 1 4 0 3 16 2 47 9 8 31 12 2 1 6 20 4 1a 6 0 41 37 5 13 ",
    "3 31 2 1 6 7 2 2 2 1c 3 2 5 9 8 8 8 3f 21 26 5 b a 35 4 1c 3 1a 6 19 8 3 d 6 51 48 38 32 e ",
    "32 8 2d 9 9 127 1e 2 29 2 2 3 1 4f 27 9 29 17 19 27 1b 15 16 a 4d 5 23 a 3d 2 4 e 18 8 9 7 ",
    "34 2 11 9 26 a 5f 2 13 c 11 2 2b 42 6 2 0 2 3 2 e 2 a 7 3a 6 9 7 3 2 7 3 1 3 15 2 6 2 1 2 4 ",
    "2 9 3 1 3 2 3 0 7 0 6 6 3 6 4 4 8c 5b 2 4 1f 47 9 9 a7 35 3 25 23 44 c 9 7 c 14 39 7 9 37 ",
    "1a 3 e 5 16 ba 3b 65 52 d 7 3 0 3 7 2 1 2 1d 2 1 3 b a 9 47 7 3 2d 3 a 1c 47 9 52 e 48 108 ",
    "8 2 2c 2 d b 1c 4 1f 3 15 2 d 4a 6 2 1 2 2b 4 0 2 1 2 8 9 9 7 5 2 1 2 24 2 1 2 5 8 9 137 18 ",
    "b8 0 10 31 e 39a 67 6e 2 4 c c3 a4d 62 e 42e fd2 246 21ba 238 8 1e 2 9 5 50 2 9 7 1d 3 5 b ",
    "45 b 9 2 6 2 14 6 12 2b1 5a 66 4a 5 38 8 10 41 4 c 1 f 17f7 9 4d5 2b 8 22e8 3 2 6 2 1 2 122 ",
    "2e 2 12 3 9 18b 905 6a 6 c 4 8 8 9 3 3 1261 2d 3 16 a 73 3d f5 b 26 3 49 9 6f 16 45 9b 13 d ",
    "56 a 18 88 54 2 46 2 1 3 0 3 1 3 3 2 b 2 0 2 6 2 40 2 3 3 7 2 6 2 1b 2 3 2 4 2 0 4 6 2 153 ",
    "3 123 3 2bd 10 4 2 e 451 1e e2 6 2 10 3 6 2 1 2 4 d6 2c 4 d 3 9 5 1 141 1e 12 39 6 0 4e1 6 ",
    "2 3 2 1 2 e 2 c4 3 f 2a 4b 5 9 5 1 312 43 4d 3c c3 3 2 1a 2 1 2 0 3 0 2 9 2 3 2 0 2 0 7 0 5 ",
    "0 2 0 2 0 2 2 2 1 2 0 3 0 2 0 2 0 2 0 2 0 2 1 2 0 3 3 2 6 2 3 2 3 2 0 2 9 2 10 6 2 2 4 2 10 ",
    "35 1 10f 2b 5 63 d e 3 e 2 e 2 24 b ad 39 1c e 2b 5 8 8 1 f 5 9b 3d7 6 f 4 c 4 73 d 58 8 b ",
    "5 0 10 b 5 37 9 9 7 27 9 1d 3 1 4f 153 d d 3 4 4 4 4 6 a 1c 4 a 6 5 b 9 7 7 9 6 a 92 2 36 ",
    "26 9 407 a6df 21 1038 8 dd 3 1681 f 1d30 c20 21d 5e3 134a aedb6 ef"])

/-- Whether a quoted text shows the character as itself. -/
def isPrintable (c : Char) : Bool :=
  if c.toNat < 0x7F then 0x20 ≤ c.toNat else c.toNat ≠ 0x7F && printableTable.holds c.toNat

/-!
## Letters and numerals

The characters a word is made of: letters of any script, and every character with a numeric value
(Unicode 14). A name in a pattern or a `\w` in one counts the underscore in as well.
-/

/-- The letters and numerals above ASCII. -/
def alphanumericTable : Property := .ofWords (String.join [
    "aa 0 8 1 2 0 4 1 2 2 2 16 2 1e 2 1c9 5 b f 4 8 0 2 0 82 4 2 1 3 3 2 0 7 0 2 2 2 0 2 13 2 52 ",
    "2 8a 9 a5 2 25 3 0 7 28 48 1a 5 3 2e 2a 16 9 5 1 2 62 2 0 10 1 8 e 3 0 11 0 2 1d 1e 58 c 0 ",
    "f 2a a 1 5 0 6 15 5 0 a 0 4 0 18 18 8 a 6 17 2 5 12 29 3b 35 4 0 13 0 8 9 5 9 2 f 5 7 3 1 3 ",
    "15 2 6 2 0 4 3 4 0 11 0 e 1 2 2 5 b 3 5 3 0 9 5 5 1 3 15 2 6 2 1 2 1 2 1 20 3 2 0 8 9 3 2 ",
    "11 8 2 2 2 15 2 6 2 1 2 4 4 0 13 0 10 1 5 9 a 0 c 7 3 1 3 15 2 6 2 1 2 4 4 0 1f 1 2 2 5 9 2 ",
    "6 c 0 2 5 4 2 2 3 4 1 2 0 2 1 4 1 4 2 4 b 17 0 16 c 13 7 2 2 2 16 2 f 4 0 1b 2 3 0 3 1 5 9 ",
    "9 6 2 0 5 7 2 2 2 16 2 9 2 4 4 0 20 1 2 1 5 9 2 1 12 8 2 2 2 28 3 0 11 0 6 2 2 9 5 12 2 5 6 ",
    "11 4 17 2 8 2 0 3 6 20 9 12 2f 2 1 d 6 a 9 28 1 2 0 2 4 2 17 2 0 2 9 2 1 a 0 3 4 2 0 a 9 3 ",
    "3 21 0 20 13 d 7 2 23 1c 4 74 2a 15 a 7 5 5 3 4 0 4 1 8 2 5 c d 0 2 9 7 25 2 0 6 0 3 2a 2 ",
    "14c 2 3 3 6 2 0 2 3 3 28 2 3 3 20 2 3 3 6 2 0 2 3 3 e 2 38 2 3 3 42 f 13 4 f 11 55 3 5 4 ",
    "26b 3 10 2 19 6 4a 4 a 8 11 e 12 f 11 f c 2 2 10 33 24 0 5 0 4 9 7 9 17 9 7 58 8 4 3 21 2 0 ",
    "6 45 b 1e 28 27 3 4 c 2b 5 19 7 a 26 16 a 34 2c 9 7 9 e 0 5e 2e 12 7 4 9 2a 1d e 37 1b 23 ",
    "1d 9 4 30 3 8 8 2a 3 2 2a 3 2 5 2 1 4 0 6 bf 41 115 3 5 3 25 3 5 3 7 2 0 2 0 2 0 2 1e 3 34 ",
    "2 6 2 0 4 2 2 6 4 3 3 5 5 c 6 2 2 6 74 1 3 5 6 a 7 c 66 0 5 0 3 9 2 0 4 4 7 0 2 0 2 0 2 3 2 ",
    "a 3 3 6 4 5 0 2 39 2d7 3b 4f 15 277 1d 46d e4 7 3 4 1 a 0 3 25 2 0 6 0 3 37 8 0 11 16 a 6 2 ",
    "6 2 6 2 6 2 6 2 6 2 6 2 6 51 0 1d6 2 1a 8 8 4 3 4 5 55 7 2 2 59 2 3 6 2a 2 5d 4 3 b 1f 31 f ",
    "21 9 1f 7 2 e 21 9 28 e 141 19bf 41 568c 44 2d 3 10c 4 1b 15 2e 11 1e 3 4f 28 8 3 66 3 3f 6 ",
    "1 2 0 2 4 19 f 2 2 2 3 2 16 e 5 b 33 f 31 1d 9 19 5 4 0 2 1 2 25 b 16 1a 1c 8 2e 1d a 7 4 2 ",
    "18 2 28 18 2 2 7 5 9 7 16 4 0 4 31 2 0 4 1 3 4 3 0 2 0 19 2 3 a 8 2 d 5 3 5 3 5 a 6 2 6 2 ",
    "2a 2 d 7 72 e 9 7 2ba3 d 16 5 30 2105 16d 3 69 27 6 d 4 6 0 2 9 2 c 2 4 2 0 2 1 2 1 2 6b 22 ",
    "16a 13 3f 3 35 29 b 75 4 2 86 14 9 8 19 7 19 c 58 4 5 3 5 3 5 3 2 24 b 2 19 2 12 2 1 2 e 3 ",
    "d 23 7a d 2c d 38 12 1 f5 1c 4 30 11 1a 5 23 a 1d 6 25 b 1d 3 23 5 7 2 4 2b 9d 3 9 7 23 5 ",
    "23 5 27 9 33 d a 2 e 2 6 2 1 2 a 2 e 2 6 2 1 44 136 a 15 b 7 19 5 2 29 2 8 46 5 3 0 2 2b 2 ",
    "1 4 0 3 16 3 1e 3 25 9 8 31 12 2 1 6 20 5 19 47 37 5 13 3 2e 10 3 2 2 2 1c b 8 18 1e 2 1f ",
    "21 7 2 1b 7 4 11 35 b 15 3 1a 6 19 18 6 51 48 38 32 e 32 8 29 d 9 127 1e 2 29 7 1 4f 27 9 ",
    "15 c 3 1c 11 2f 1b 15 16 d 34 1b 1d 2 1 3 0 e 2c 21 18 8 9 a 23 10 9 5 0 3 0 9 22 4 0 d 2f ",
    "f 3 c a 2 0 5 13 c 11 2 18 55 6 2 0 2 3 2 e 2 9 8 2e 12 9 c 7 3 1 3 15 2 6 2 1 2 4 4 0 13 0 ",
    "d 4 9f 34 13 3 6 9 6 2 1f 2f 15 1 2 0 9 9 a7 2e 2a 3 25 2f 15 0 c 9 27 2a e 0 8 9 37 1a 16 ",
    "b 5 6 ba 2b 75 52 d 7 3 0 3 7 2 1 2 17 10 0 2 0 f 9 47 7 3 26 11 0 2 0 1d 0 b 27 8 0 16 0 c ",
    "2d 14 0 13 48 108 8 2 24 12 0 10 1c 6 1d 71 6 2 1 2 25 16 0 a 9 7 5 2 1 2 1f f 0 8 9 137 12 ",
    "be 0 10 14 2c 399 67 6e 12 c3 a4d 60 10 42e fd2 246 21ba 238 8 1e 2 9 7 4e 2 9 7 1d 13 2f ",
    "11 3 d 9 2 6 2 14 6 12 2b1 56 6a 4a 6 0 43 c 41 1 2 0 1d 17f7 9 4d5 2b 8 22e8 3 2 6 2 1 2 ",
    "122 2e 2 12 3 9 18b 905 6a 6 c 4 8 8 9 1647 13 6d 18 88 54 2 46 2 1 3 0 3 1 3 3 2 b 2 0 2 6 ",
    "2 40 2 3 3 7 2 6 2 1b 2 3 2 4 2 0 4 6 2 153 3 18 2 18 2 1e 2 18 2 1e 2 18 2 1e 2 18 2 1e 2 ",
    "18 2 7 3 31 701 1e 1e2 2c b 6 3 9 5 0 142 1d 13 2b 5 9 4e7 6 2 3 2 1 2 e 2 c4 3 8 31 43 8 0 ",
    "5 9 318 3a 2 2 2 3 4d 2c 2 e c3 3 2 1a 2 1 2 0 3 0 2 9 2 3 2 0 2 0 7 0 5 0 2 0 2 0 2 2 2 1 ",
    "2 0 3 0 2 0 2 0 2 0 2 0 2 1 2 0 3 3 2 6 2 3 2 3 2 0 2 9 2 10 6 2 2 4 2 10 245 c ae4 9 407 ",
    "a6df 21 1038 8 dd 3 1681 f 1d30 c20 21d 5e3 134a"])

/-- The numerals above ASCII that are no letters. -/
def numeralTable : Property := .ofWords (String.join [
    "b2 1 6 0 3 2 5a2 9 87 9 c7 9 19d 9 77 9 5 5 6d 9 77 9 77 9 3 5 6f c 74 9 9 6 68 9 69 6 8 12 ",
    "6e 9 61 9 77 9 47 13 10d 9 47 9 2d0 13 372 2 f0 9 7 9 17 9 12d 9 81 a a6 9 7 9 b7 9 57 9 87 ",
    "9 7 9 417 0 4 5 7 9 c7 32 3 4 2d7 3b 4f 15 277 1d 56a 0 30a 0 1a 8 f 2 158 3 8b 9 1f 7 2 e ",
    "21 9 28 e 7361 9 bd 9 141 5 9b 9 27 9 c7 9 17 9 57 9 197 9 5317 9 1ee 2c d 38 12 1 156 1a ",
    "25 3 1e 0 9 0 87 4 cb 9 3af 7 1a 6 28 8 4c 4 17 5 a1 1 3 f 3 2d 41 8 35 1 1f 2 4c 4 69 7 19 ",
    "7 2a 6 14b 5 31 9 127 1e 9f 9 2b 3 71 6 87 1d 81 9 3d 9 91 9 8 13 fc 9 157 9 77 9 177 9 67 ",
    "9 67 b 1a5 12 5e 9 2f7 1c e4 9 47 9 217 14 42c 6e 45f2 9 57 9 87 9 2 6 31f 16 644a 13 6d 18 ",
    "456 31 941 9 1a7 9 5ce 8 81 9 318 3a 2 2 2 3 4d 2c 2 e 3c3 c ae4 9"])

/-- Whether a character is a letter or a numeral. -/
def isAlphanumeric (c : Char) : Bool :=
  if c.toNat < 0x80 then c.isAlphanum else alphanumericTable.holds c.toNat

/-- Whether a character is a letter. -/
def isLetter (c : Char) : Bool :=
  if c.toNat < 0x80 then c.isAlpha else alphanumericTable.holds c.toNat && !numeralTable.holds c.toNat

/-- Whether a character belongs to a word: a letter, a numeral or the underscore. -/
def isWordChar (c : Char) : Bool := c == '_' || isAlphanumeric c

end Rehearsal
