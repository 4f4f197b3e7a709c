import Rehearsal.Text.Composition
import Rehearsal.Text.Property

/-!
# Characters of names

What the characters in a part of a host's name are (Unicode 14): which may stand anywhere, which belong to a script whose
signs look at their neighbours, which are marks, in which direction they are written, and which letters are joined.
-/

namespace Rehearsal.Http.Label

/-! ## Characters that are permitted

The characters that a part of a name may hold: small letters, marks and figures of any script that no change of case or
width would alter, and the hyphen. A few others need the right neighbours and are not among them. -/

/-- The characters that may stand anywhere in a part of a name. -/
def permitted : Property := .ofWords (String.join [
    "2d 0 3 9 28 19 65 17 2 7 2 0 2 0 2 0 2 0 2 0 2 0 2 0 2 0 2 0 2 0 2 0 2 0 2 0 2 0 2 0 2 0 2  ",
    "0 2 0 2 0 2 0 2 0 2 0 2 0 2 0 2 0 4 0 2 1 2 0 2 0 2 0 4 0 2 0 2 0 2 0 3 0 2 0 2 0 2 0 2 0 2  ",
    "0 2 0 2 0 2 0 2 0 2 0 2 0 2 0 2 0 2 0 2 0 2 0 2 0 2 0 2 0 2 0 2 0 2 0 3 0 2 0 2 0 2 0 3 0 2  ",
    "0 3 0 4 1 5 0 3 0 4 2 3 0 3 0 2 0 2 0 3 0 2 1 2 0 3 0 4 0 2 0 3 2 2 6 b 0 2 0 2 0 2 0 2 0 2  ",
    "0 2 0 2 1 2 0 2 0 2 0 2 0 2 0 2 0 2 0 2 0 2 1 5 0 4 0 2 0 2 0 2 0 2 0 2 0 2 0 2 0 2 0 2 0 2  ",
    "0 2 0 2 0 2 0 2 0 2 0 2 0 2 0 2 0 2 0 2 0 2 0 2 0 2 0 2 0 2 0 2 0 2 0 2 0 2 6 3 0 3 1 2 0 5  ",
    "0 2 0 2 0 2 0 2 60 a 8 5 b 1b 0 2 0 12 3f 3 0 4 8 2 1f 2 0 2 0 4 0 4 2 13 0 1c 22 9 0 2 0 2  ",
    "0 2 0 2 0 2 0 2 0 2 0 2 0 2 0 2 0 2 0 2 0 4 0 5 0 3 1 34 2f 2 0 2 0 2 0 2 0 2 0 2 0 2 0 2 0  ",
    "2 0 2 0 2 0 2 0 2 0 2 0 2 0 2 0 2 0 2 4 4 0 2 0 2 0 2 0 2 0 2 0 2 0 2 0 2 0 2 0 2 0 2 0 2 0  ",
    "2 0 2 0 2 0 2 0 2 0 2 0 2 0 2 0 2 0 2 0 2 0 2 0 2 0 2 0 3 0 2 0 2 0 2 0 2 0 2 0 2 1 2 0 2 0  ",
    "2 0 2 0 2 0 2 0 2 0 2 0 2 0 2 0 2 0 2 0 2 0 2 0 2 0 2 0 2 0 2 0 2 0 2 0 2 0 2 0 2 0 2 0 2 0  ",
    "2 0 2 0 2 0 2 0 2 0 2 0 2 0 2 0 2 0 2 0 2 0 2 0 2 0 2 0 2 0 2 0 2 0 2 0 2 0 2 0 2 0 2 0 2 0  ",
    "2a 0 7 26 2 0 9 2c 2 0 2 1 2 1 2 0 9 1a 5 3 1e a 6 1f 2 1e f 6 5 5a 2 7 3 9 2 5 b 5 11 3a 3  ",
    "64 f 35 8 0 3 2d 13 1b 5 a 6 17 2 5 a 49 2 74 9 3 3 9 2 12 2 7 3 1 3 15 2 6 2 0 4 3 3 8 3 1  ",
    "3 3 9 0 9 3 3 b b 0 2 0 3 2 2 5 5 1 3 15 2 6 2 0 3 0 3 1 3 0 2 4 5 1 3 2 4 0 b 0 a f c 2 2  ",
    "8 2 2 2 15 2 6 2 1 2 4 3 9 2 2 2 2 3 0 10 3 3 9 a 6 2 2 2 7 3 1 3 15 2 6 2 1 2 4 3 8 3 1 3  ",
    "2 8 2 8 4 3 9 2 0 11 1 2 5 4 2 2 3 4 1 2 0 2 1 4 1 4 2 4 b 5 4 4 2 2 3 3 0 7 0 f 9 11 c 2 2  ",
    "2 16 2 f 3 8 2 2 2 3 8 1 2 2 3 0 3 3 3 9 11 3 2 7 2 2 2 16 2 9 2 4 3 8 2 2 2 3 8 1 7 1 2 3  ",
    "3 9 2 1 e c 2 2 2 32 2 2 2 4 6 3 8 4 3 9 b 5 2 2 2 11 4 17 2 8 2 0 3 6 4 0 5 5 2 0 2 7 7 9  ",
    "3 1 e 31 2 6 6 e 2 9 28 1 2 0 2 4 2 17 2 0 2 b 2 9 3 4 2 0 2 5 3 9 5 1 21 0 b 0 d 1 7 9 c 0  ",
    "2 0 2 0 5 4 2 3 2 3 2 3 2 3 2 3 2 b 2 2 5 1 2 0 6 6 2 2 2 c 2 3 2 3 2 3 2 3 2 3 2 b 2 2 a 0  ",
    "3a 49 7 4d 33 2a 3 2 101 48 2 3 3 6 2 0 2 3 3 28 2 3 3 20 2 3 3 6 2 0 2 3 3 e 2 38 2 3 3 42  ",
    "3 2 21 f 11 55 c 26b 3 10 2 19 6 4a 7 7 8 15 a 15 c 13 d c 2 2 2 1 d 33 3 1d 4 0 5 1 3 9 27  ",
    "9 7 58 8 2a 6 45 b 1e 2 b 5 b b 27 3 4 c 2b 5 19 7 9 27 1b 5 3e 2 1c 3 a 7 9 e 0 9 d 2 f 32  ",
    "4c 4 9 12 8 d 73 d 37 9 9 4 30 53 2 2 26 6 2b 4 0 c 0 13 0 1d c 2 21 26 3f 2 0 2 0 2 0 2 0  ",
    "2 0 2 0 2 0 2 0 2 0 2 0 2 0 2 0 2 0 2 0 2 0 2 0 2 0 2 0 2 0 2 0 2 0 2 0 2 0 2 0 2 0 2 0 2 0  ",
    "2 0 2 0 2 0 2 0 2 0 2 0 2 0 2 0 2 0 2 0 2 0 2 0 2 0 2 0 2 0 2 0 2 0 2 0 2 0 2 0 2 0 2 0 2 0  ",
    "2 0 2 0 2 0 2 0 2 0 2 0 2 0 2 0 2 0 2 0 2 0 2 0 2 0 2 0 2 0 2 0 2 0 2 0 2 0 2 0 2 0 2 0 2 0  ",
    "2 0 2 4 3 1 2 0 2 0 2 0 2 0 2 0 2 0 2 0 2 0 2 0 2 0 2 0 2 0 2 0 2 0 2 0 2 0 2 0 2 0 2 0 2 0  ",
    "2 0 2 0 2 0 2 0 2 0 2 0 2 0 2 0 2 0 2 0 2 0 2 0 2 0 2 0 2 0 2 0 2 0 2 0 2 0 2 0 2 0 2 0 2 0  ",
    "2 0 2 0 2 0 2 0 2 0 2 8 9 5 b 7 9 7 9 5 b 7 9 7 9 0 2 0 2 0 2 0 2 0 2 0 2 0 34 1 5 0 10 0 a  ",
    "2 4 1 9 2 2 3 f 0 158 0 36 0 aac 2f 2 0 4 1 2 0 2 0 2 0 5 0 2 1 2 5 6 0 2 0 2 0 2 0 2 0 2 0  ",
    "2 0 2 0 2 0 2 0 2 0 2 0 2 0 2 0 2 0 2 0 2 0 2 0 2 0 2 0 2 0 2 0 2 0 2 0 2 0 2 0 2 0 2 0 2 0  ",
    "2 0 2 0 2 0 2 0 2 0 2 0 2 0 2 0 2 0 2 0 2 0 2 0 2 0 2 0 2 0 2 0 2 0 2 0 2 0 2 0 2 1 8 0 2 3  ",
    "2 0 d 25 2 0 6 0 3 37 18 17 a 6 2 6 2 6 2 6 2 6 2 6 2 6 2 6 2 1f 30 0 1d6 2 23 3 f 0 5 55 3  ",
    "1 3 1 3 59 2 2 7 2a 71 1f 31 f 201 19bf 41 568c 44 2d 3 10c 4 1b 16 0 2 0 2 0 2 0 2 0 2 0 2  ",
    "0 2 0 2 0 2 0 2 0 2 0 2 0 2 0 2 0 2 0 2 0 2 0 2 0 2 0 2 0 2 0 2 2 5 9 2 0 2 0 2 0 2 0 2 0 2  ",
    "0 2 0 2 0 2 0 2 0 2 0 2 0 2 0 2 0 2 0 3 47 b 1 26 8 4 0 2 0 2 0 2 0 2 0 2 0 2 2 2 0 2 0 2 0  ",
    "2 0 2 0 2 0 2 0 2 0 2 0 2 0 2 0 2 0 2 0 2 0 2 0 2 0 2 0 2 0 2 0 2 0 2 0 2 0 2 0 2 0 2 0 2 0  ",
    "2 0 2 0 2 0 2 0 2 0 2 7 2 0 2 0 3 0 2 0 2 0 2 0 2 1 4 0 2 1 2 0 2 2 2 0 2 0 2 0 2 0 2 0 2 0  ",
    "2 0 2 0 2 0 2 0 6 0 6 0 2 0 2 0 2 0 2 0 2 0 2 0 2 0 5 0 2 0 7 0 2 0 2 0 2 0 2 0 1d 1 3 2d 5  ",
    "0 14 33 d 45 b 9 7 17 4 0 2 30 3 23 2d 40 f a 7 1e 2 36 a d 3 9 7 16 4 48 19 2 3 f 3 4 b 5  ",
    "3 5 3 5 a 6 2 6 2 2a 6 8 58 2a 2 1 3 9 7 2ba3 226b 1 2 0 2 1 b 0 2 0 2 1 3 2 f5 0 302 f 44  ",
    "0 18d b 2 19 2 12 2 1 2 e 3 d 23 7a 103 0 83 1c 4 30 10 0 20 1f e 13 2 7 7 2a 6 1d 3 23 5 7  ",
    "59 75 3 9 2f 23 5 27 9 33 34 a 2 e 2 6 2 1 44 136 a 15 b 7 19 0 80 5 3 0 2 2b 2 1 4 0 3 16  ",
    "b 16 a 1e 42 12 2 1 b 15 b 19 47 37 7 1 41 3 2 1 6 7 2 2 2 1c 3 2 5 0 21 1c 4 1c 24 7 2 1d  ",
    "1a 35 b 15 b 12 e 11 6f 48 78 32 e 27 9 9 147 29 2 1 4 1 4f 1c b 0 9 20 20 15 2b 14 1c 16 a  ",
    "46 20 f a 3b 8 0 e 18 8 9 7 34 2 9 5 3 9 23 3 0 a 44 5 3 2 c 2 0 24 11 2 24 7 0 42 6 2 0 2  ",
    "3 2 e 2 9 8 3a 6 9 7 3 2 7 3 1 3 15 2 6 2 1 2 4 2 9 3 1 3 2 3 0 7 0 6 6 3 6 4 4 8c 4a 6 9 5  ",
    "3 1f 45 2 0 9 9 a7 35 3 8 18 5 23 40 4 0 c 9 27 38 8 9 37 1a 3 e 5 9 7 6 ba 3a 86 29 16 7 3  ",
    "0 3 7 2 1 2 1d 2 1 3 8 d 9 47 7 3 2d 3 7 2 1 1c 3e 9 0 9 49 4 0 13 48 108 8 2 2c 2 8 10 9  ",
    "19 1d 3 15 2 d 4a 6 2 1 2 2b 4 0 2 1 2 8 9 9 7 5 2 1 2 24 2 1 2 5 8 9 137 16 ba 0 50 399 e7  ",
    "c3 a4d 60 10 42e fd2 246 21ba 238 8 1e 2 9 7 4e 2 9 7 1d 3 4 c 36 a 3 d 9 a 14 6 12 2d1 1f  ",
    "81 4a 5 38 8 10 41 1 2 1 c 1 f 17f7 9 4d5 2b 8 22e8 3 2 6 2 1 2 122 2e 2 12 3 9 18b 905 6a  ",
    "6 c 4 8 8 9 4 1 1262 2d 3 16 aba 36 5 31 9 0 f 0 17 4 2 e 451 1e e2 6 2 10 3 6 2 1 2 4 d6  ",
    "2c 4 d 3 9 5 0 142 1e 12 39 4e7 6 2 3 2 1 2 e 2 c4 c 6 4c 29 5 9 16a7 a6df 21 1038 8 dd 3  ",
    "1681 f 1d30 1420 134a"])

/-! ## Scripts

The characters that belong to the scripts whose signs need neighbours of their own script. -/

/-- Greek letters. -/
def greek : Property := .ofWords (String.join [
    "371 0 2 0 2 0 2 0 4 2 13 0 1c 22 9 0 2 0 2 0 2 0 2 0 2 0 12 0 5 0 3 1 192a 4 1d6 7 9 5 b 7  ",
    "9 7 9 5 b 7 9 7 9 0 2 0 2 0 2 0 2 0 2 0 2 0 34 1 5 0 10 0 a 2 4 1 9 2 2 3 f 0 8b6f 0"])

/-- Hebrew letters and marks. -/
def hebrew : Property := .ofWords (String.join [
    "591 2c 2 0 2 1 2 1 2 0 9 1a 5 5 f52a 0"])

/-- Characters of the Japanese syllabaries and of Chinese origin. -/
def eastern : Property := .ofWords (String.join [
    "3005 0 2 0 3a 55 7 1 3 59 3 1 f2 f 201 19bf 41 51ff 5a0f 1 2 0 2 1 b 0 2 0 2 1 3 2 75ba 0 d  ",
    "1 3fff 3 2 6 2 1 2 122 2e 2 12 3 4e99 a6df 21 1038 8 dd 3 1681 f 1d30 1420 134a"])

/-! ## Marks

A mark that takes no room stands over or under the letter in front of it; other marks stand beside it. -/

/-- Marks that take no room. -/
def overMarks : Property := .ofWords (String.join [
    "300 3f 3 0 4 8 2 1f 114 4 10a 2c 2 0 2 1 2 1 2 0 49 a 31 14 11 0 66 6 3 5 3 1 2 3 24 0 1f  ",
    "1a 5c a 3b 8 a 0 19 3 2 8 2 2 2 4 2c 2 3d 7 2b 17 2 1f 38 0 2 0 5 7 5 0 4 6 b 1 1e 0 3b 0 5  ",
    "3 9 0 15 1 1b 0 3 1 3a 0 5 1 5 1 3 2 4 0 1f 1 4 0 c 1 3a 0 5 4 2 1 5 0 15 1 17 5 2 0 3b 0 3  ",
    "0 2 3 9 0 8 1 c 1 1f 0 3e 0 d 0 33 0 4 0 38 0 2 2 6 2 2 3 8 1 c 1 1e 0 3b 0 3 0 7 0 6 1 15  ",
    "1 1d 1 3a 1 5 3 9 0 15 1 1e 0 49 0 8 2 2 0 5b 0 3 6 d 7 63 0 3 8 c 5 4b 1 1c 0 2 0 2 0 38 1  ",
    "2 0 6 4 2 0 2 2 2 1 6 5 2 3 2 3 2 3 2 3 2 3 2 b 2 2 a 0 67 3 2 5 2 1 3 1 1a 1 5 2 11 3 e 0  ",
    "3 1 7 0 10 0 2c0 2 3b3 2 1e 1 1f 1 1f 1 44 6 9 0 3 a a 0 a8 1 23 0 77 2 5 1 a 0 7 2 dc 1 3  ",
    "0 3b 0 2 6 2 0 2 0 3 7 7 9 3 0 31 d 2 f 32 3 31 0 2 4 2 0 6 0 29 8 d 1 21 3 3 1 2 2 39 0 2  ",
    "1 4 0 2 2 3b 7 3 1 99 2 2 c 2 6 5 0 7 0 4 1 c7 3f ef0 2 8e 0 61 1f 22b 3 6c 1 75d5 0 5 9 21  ",
    "1 51 1 111 0 4 0 5 0 1a 1 6 0 98 1 1b 11 e 0 27 7 1a a 2f 2 31 0 3 3 3 1 28 0 44 5 3 1 3 1  ",
    "d 0 9 0 30 0 34 0 2 2 3 1 6 1 2 0 2b 1 9 0 ef 0 3 0 5 0 4f31 0 302 f 3ce 0 e3 0 96 4 687 2  ",
    "2 1 6 3 29 2 5 0 a6 1 23e 3 184 1 9a a 32 3 7c 0 37 e 2a 0 3 1 b 2 32 3 3 1 8 0 3e 2 25 4 2  ",
    "7 3f 0 d 1 35 8 b 3 3 0 60 2 3 0 2 1 7 0 a1 0 4 7 16 1 3a 1 4 0 26 6 4 4 c4 7 3 2 2 0 18 0  ",
    "55 5 2 0 5 1 2 1 ef 3 7 1 2 1 1c 1 56 7 3 0 2 1 6b 0 2 0 3 5 2 0 66 2 3 3 2 4 104 8 2 1 101  ",
    "1 2 0 5 0 91 3 3 1 5 0 21 9 29 5 3 3 9 0 a 5 3 2 2f c 2 1 197 6 2 5 2 0 53 15 3 6 2 1 2 1  ",
    "7b 5 4 0 2 1 2 6 2 0 49 1 4 0 2 0 15c 1 4bfc 4 3c 6 419 0 40 3 52 0 4cb9 1 1262 2d 3 16 aba  ",
    "36 5 31 9 0 f 0 17 4 2 e 551 6 2 10 3 6 2 1 2 4 106 6 178 0 3e 3 5e1 6 6e 6"])

/-- Marks that stand beside a letter. -/
def besideMarks : Property := .ofWords (String.join [
    "903 0 38 0 3 2 9 3 2 1 33 1 3b 2 7 1 3 1 b 0 2c 0 3b 2 43 0 3b 2 9 0 2 1 36 1 3b 0 2 0 7 1  ",
    "3 1 b 0 67 1 2 1 4 2 2 2 b 0 2a 2 3e 3 3e 1 3b 0 2 4 3 1 2 1 a 1 2c 1 3b 2 6 2 2 2 b 0 2b 1  ",
    "4c 2 7 7 13 1 14b 1 40 0 ac 1 5 0 7 0 3 1 1a 1 b 2 3 6 16 1 3 5 3 0 b 2 679 0 1f 0 82 0 8 7  ",
    "2 1 15b 3 3 2 5 1 2 5 e1 1 3b 0 2 0 a 0 2 1 9 5 92 0 31 0 6 0 2 4 2 1 3e 0 1f 0 5 1 3 0 3d  ",
    "0 3 2 2 0 4 1 31 7 9 1 ac 0 16 0 8b2c 1 3 0 59 1 33 f 8f 1 30 0 31 1 5 1 3 2 6f 1 3 1 19 0  ",
    "2e 0 2 0 6e 0 3 1 6 0 ee 1 2 1 2 1 2 0 6414 0 2 0 80 0 2e 2 5 1 74 0 19 1 3c 0 31 2 a 1 e 0  ",
    "5e 2 4 1 2 0 ab 2 20 1 3b 1 2 3 3 1 3 2 a 0 b 1 d2 2 9 1 4 0 6b 2 7 0 2 3 3 0 ee 2 7 3 3 0  ",
    "72 2 9 1 2 0 6e 0 2 1 7 0 6a 1 5 0 106 2 a 0 f8 5 2 1 5 0 3 0 2 0 8f 2 9 3 5 0 55 0 1e 1 3f  ",
    "0 198 0 f 0 6b 0 8 0 3 0 d6 4 5 1 2 0 15f 1 505b 36 69 1"])

/-- Whether a code point is a mark. -/
def isMark (code : Nat) : Bool := overMarks.holds code || besideMarks.holds code

/-! ## Directions of writing

Whether characters are written from left to right or from right to left. A part of a name with letters or figures from the
right begins with a letter from the right, holds none from the left, holds figures of one kind, and ends in a letter or a
figure, marks not counted. -/

/-- The direction of a character. -/
inductive Direction where
  | left
  | right
  | figure
  /-- A figure that is part of a text from the right. -/
  | rightFigure
  /-- A mark, which follows its letter. -/
  | mark
  /-- What has no direction of its own. -/
  | neutral
  deriving DecidableEq, Repr, Inhabited

/-- Letters from the right. -/
def rightLetters : Property := .ofWords (String.join [
    "5d0 1a 5 5 2c 1f 2 9 24 1 2 3 5 5a 2 0 10 1 8 1 b 5 11 0 2 1d 1e 58 c 0 f 2a a 1 b 15 5 0 a  ",
    "0 4 0 18 18 8 a 6 17 2 5 12 29 f5aa 0 98d 5 3 0 2 2b 2 1 4 0 3 16 b 16 a 1e 42 12 2 1 b 15  ",
    "b 19 47 37 7 1 41 0 10 3 2 2 2 1c 2b 1c 4 1c 24 7 2 1b 1c 35 b 15 b 12 e 11 6f 48 78 32 e  ",
    "23 15d 29 7 1 4f 1c b 0 9 15 2b 11 2f 14 1c 16 d80a c4 5e 21 8 0 5 9"])

/-- Characters beyond ASCII without a direction of their own. -/
def neutralSigns : Property := .ofWords (String.join [
    "b7 0 202 1 c 9 1d 0 89 0 1c97 1 e22 0 2cc 0 7584 0 98 8 69 0"])

/-- Marks without room that have the direction of a letter from the left. -/
def leftMarks : List Nat := [0xCBF, 0xCC6, 0x11A07, 0x11A08, 0x11C3F]

/-- The direction of a code point. -/
def Direction.of (code : Nat) : Direction :=
  if code < 0x80 then if 48 ≤ code && code ≤ 57 then .figure else if code == 45 then .neutral else .left
  else if (0x6F0 ≤ code && code ≤ 0x6F9) then .figure
  else if (0x660 ≤ code && code ≤ 0x669) || (0x10D30 ≤ code && code ≤ 0x10D39) then .rightFigure
  else if rightLetters.holds code then .right
  else if neutralSigns.holds code then .neutral
  else if overMarks.holds code && !leftMarks.contains code then .mark
  else .left

/-- Whether the directions of a part of a name go together. -/
def Direction.agree (ds : List Direction) : Bool :=
  if !ds.any fun d => d == .right || d == .rightFigure then true
  else
    let last := (ds.reverse.dropWhile (· == .mark)).head?
    ds.head? == some .right && !ds.contains .left && (last.any fun d => d != .neutral) &&
      !(ds.contains .figure && ds.contains .rightFigure)

/-! ## Joined letters

Letters of some scripts are joined to the next one, to the one before or to both, and marks let the join pass. A sign
without width that keeps letters apart makes sense only between letters that would be joined, or behind a sign that
silences a vowel; the sign without width that joins makes sense only behind the latter. -/

/-- Letters that are joined on both sides. -/
def bothJoined : Property := .ofWords (String.join [
    "620 0 6 0 2 0 2 4 5 c 2 6 2 1 24 1 a e 13 25 2 1 a 0 2 0 2 1 29 2 3 0 13 2 6 3 2 8 2 0 2 0  ",
    "2 1 20 a 4 e 3 3 2 0 3 2 3 5 4b 20 57 4 3 0 2 9 2 0 b 0 2 3 3 0 1e 0 3 4 13 9 6 1 3 5 2 e  ",
    "f58 58 f 21 2 0 8f96 31 624f 4 f 3 2 4 2 2 a0 0 2 0 4 2 2 1 2 0 3 0 171 20 2 0 20d 2 2 10  ",
    "2c 3 3 b 2f 0 2 1 5 0 3 1 2 1 2 0 3 0 d95e 21"])

/-- Letters that are joined to the next one. -/
def nextJoined : Property := .ofWords (String.join [
    "a872 0 625b 0 a 0 229 0"])

/-- Letters that are joined to the one before. -/
def beforeJoined : Property := .ofWords (String.join [
    "622 3 2 0 2 0 6 3 16 0 29 2 15 11 27 0 3 8 2 0 2 0 3 1 2 0 19 1 21 0 5 4 5 0 a 0 2 0 2 0 3  ",
    "0 1e 0 c 2 10 1 5 0 2 1 4 1 c7 0 6 1 2 0 b 0 2 2 f 0 2 1 6 12 c 0 1c 2 2 0 3 1 7 0 1020c 0  ",
    "2 0 2 1 4 4 b 0 4 0 3 0 9d 0 2 2 4 0 3 0 2 1 2 0 191 0 211 0 41 1 3f 2 3 1 3 0 5 1"])

/-- Whether the join of letters passes a code point. -/
def letsJoinPass (code : Nat) : Bool := overMarks.holds code || [0x1E94B].contains code

/-- Whether the first code point that does not let the join pass is one of some. -/
def meets (joined : Nat → Bool) (codes : List Nat) : Bool :=
  match codes.dropWhile letsJoinPass with
  | [] => false
  | c :: _ => joined c

/-- Whether a code point is joined to the next one. -/
def joinsNext (code : Nat) : Bool := bothJoined.holds code || nextJoined.holds code

/-- Whether a code point is joined to the one before. -/
def joinsBefore (code : Nat) : Bool := bothJoined.holds code || beforeJoined.holds code

/-- Whether the sign that keeps apart may stand between code points, the ones in front of it last one first. -/
def mayKeepApart (front behind : List Nat) : Bool :=
  (front.head?.any fun c => Composition.classOf c == Composition.silencing) ||
    (meets joinsNext front && meets joinsBefore behind)

/-- Whether the sign that joins may stand behind code points, last one first. -/
def mayJoin (front : List Nat) : Bool := front.head?.any fun c => Composition.classOf c == Composition.silencing

end Rehearsal.Http.Label
