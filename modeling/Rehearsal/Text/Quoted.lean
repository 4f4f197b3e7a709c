import Rehearsal.Text.Codes
import Rehearsal.Text.Kind
import Rehearsal.Text.Bytes

/-!
# Quoted text

How a message shows a text that came from a script: between quotes, with everything escaped that would not
be seen. The quotes are single ones, or double ones for a text that holds single quotes and no double one,
so that a quote inside needs a backslash only when the text holds both kinds.

`Quoted.bytes` shows a byte string in the same way, after a `b`.
-/

namespace Rehearsal.Quoted

/-- A number in hexadecimal with at least `width` digits. -/
def hexPadded (width n : Nat) : List Char :=
  let digits := (Nat.toDigits 16 n)
  List.replicate (width - digits.length) '0' ++ digits

/-- How a character appears between quotes of the kind `quote`. -/
def escape (quote c : Char) : List Char :=
  if c == quote || c == '\\' then ['\\', c]
  else if c == '\n' then ['\\', 'n']
  else if c == '\r' then ['\\', 'r']
  else if c == '\t' then ['\\', 't']
  else if isPrintable c then [c]
  else if c.toNat < 0x100 then '\\' :: 'x' :: hexPadded 2 c.toNat
  else if c.toNat < 0x10000 then '\\' :: 'u' :: hexPadded 4 c.toNat
  else '\\' :: 'U' :: hexPadded 8 c.toNat

/-- The single quote. -/
def single : Char := '\x27'

/-- The double quote. -/
def double : Char := '\x22'

/-- The kind of quotes a text is shown between. -/
def quoteFor (cs : List Char) : Char := if cs.contains single && !cs.contains double then double else single

/-- The characters of a quoted text. -/
def chars (cs : List Char) : List Char :=
  let quote := quoteFor cs
  quote :: cs.flatMap (escape quote) ++ [quote]

/-- A text between quotes, with everything escaped that would not be seen. -/
def text (s : String) : String := String.ofList (chars s.toList)

/-- How the character of a code appears between quotes. Half of a pair is always escaped. -/
def escapeCode (quote : Char) (code : Nat) : List Char :=
  if Codes.isHalf code then '\\' :: 'u' :: hexPadded 4 code else escape quote (Char.ofNat code)

/-- The text of codes between quotes. -/
def codes (cs : Codes) : String :=
  let quote := quoteFor (cs.map Char.ofNat)
  String.ofList (quote :: cs.flatMap (escapeCode quote) ++ [quote])

/-- How a byte appears between quotes of the kind `quote`. -/
def escapeByte (quote : Char) (b : UInt8) : List Char :=
  let c := Char.ofNat b.toNat
  if b < 0x80 then
    if 0x20 ≤ b && b < 0x7F || c == '\n' || c == '\r' || c == '\t' then escape quote c
    else '\\' :: 'x' :: hexPadded 2 b.toNat
  else '\\' :: 'x' :: hexPadded 2 b.toNat

/-- A byte string between quotes, after the letter that marks it as one. -/
def bytes (d : Bytes) : String :=
  let quote := quoteFor (d.map fun b => Char.ofNat b.toNat)
  String.ofList ('b' :: quote :: d.flatMap (escapeByte quote) ++ [quote])

end Rehearsal.Quoted
