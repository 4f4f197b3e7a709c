import Rehearsal.Charset.Basic
import Rehearsal.Text.Name

/-!
# Characters behind backslashes

Bytes in which characters are written as escapes: all the usual ones, or only those that give a code of four or eight
figures. Other bytes are the characters of their numbers.
-/

namespace Rehearsal.Charset

/-- The characters that a letter behind a backslash stands for; none at the end of a line. -/
def letterEscape? (c : Char) : Option (List Char) :=
  [('\n', []), ('\\', ['\\']), ('\x27', ['\x27']), ('"', ['"']), ('b', ['\x08']), ('t', ['\t']), ('n', ['\n']),
    ('r', ['\r']), ('f', ['\x0c']), ('v', ['\x0b']), ('a', ['\x07'])].lookup c

/-- The number of figures of a code behind a letter. -/
def codeLength? (c : Char) : Option Nat := [('x', 2), ('u', 4), ('U', 8)].lookup c

/-- The value of an octal figure. -/
def octal? (b : UInt8) : Option Nat := if 48 ≤ b && b ≤ 55 then some (b.toNat - 48) else none

/-- What an escape with a code of a number of figures is, of which `before` bytes stand in front of the code. -/
def codeEscape (before length : Nat) (d : Bytes) : Front :=
  let run := ((d.take length).map fun b => hexValue? (Char.ofNat b.toNat).toLower).takeWhile Option.isSome
  if run.length < length then
    if run.length == d.length then .cut else .fault (before + run.length - 1)
  else
    let code := (run.filterMap id).foldl (fun n v => 16 * n + v) 0
    if 0x110000 ≤ code then .fault (before + length - 1)
    else .chars [if 0xD800 ≤ code && code < 0xE000 then replacement else Char.ofNat code] (before + length - 1)

/-- What an escape by the name of a character is, given what stands behind its letter. -/
def nameEscape (d : Bytes) : Front :=
  match d with
  | [] => .cut
  | b :: more =>
    let name := more.takeWhile (· != 125)
    if b != 123 then .fault 1
    else if name.length == more.length then .cut
    else if name.isEmpty then .fault 2
    else match CharName.find? (name.map fun b => Char.ofNat b.toNat) with
      | some code => .chars [Char.ofNat code] (name.length + 3)
      | none => .fault (name.length + 3)

/-- A step of bytes with all escapes. An escape that is not known is no escape. -/
def escapeStep (b : UInt8) (rest : Bytes) : Front :=
  if b != 92 then .chars [Char.ofNat b.toNat] 0
  else match rest with
    | [] => .cut
    | c :: more =>
      let letter := Char.ofNat c.toNat
      match letterEscape? letter, codeLength? letter, octal? c with
      | some cs, _, _ => .chars cs 1
      | none, some length, _ => codeEscape 2 length more
      | none, none, some first =>
        let figures := first :: (((more.take 2).map octal?).takeWhile Option.isSome).filterMap id
        .chars [Char.ofNat (figures.foldl (fun n v => 8 * n + v) 0)] figures.length
      | none, none, none => if letter == 'N' then nameEscape more else .chars ['\\', letter] 1

/-- A step of bytes in which only codes of four and eight figures are escapes. -/
def rawEscapeStep (b : UInt8) (rest : Bytes) : Front :=
  match b == 92, rest with
  | true, c :: more =>
    if c == 117 then codeEscape 2 4 more
    else if c == 85 then codeEscape 2 8 more
    else .chars ['\\', Char.ofNat c.toNat] 1
  | _, _ => .chars [Char.ofNat b.toNat] 0

end Rehearsal.Charset
