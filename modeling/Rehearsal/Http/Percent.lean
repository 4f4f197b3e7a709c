import Rehearsal.Text.Kind
import Rehearsal.Text.Bytes

/-!
# Percent encoding

A character that may not stand in a part of an address is written as its bytes in UTF-8, each as a percent sign and
two hexadecimal digits. Which characters are kept depends on the part. `encode` escapes a percent sign unless it is
kept; `complete` leaves what is already an escape alone, so applying it again changes nothing.

`decode` reads escapes back. A percent sign without two hexadecimal digits is itself, and bytes that are not UTF-8 become
replacement characters, within each run of ASCII on its own.
-/

namespace Rehearsal.Http.Percent

/-- Letters, digits and the four marks that never need an escape. -/
def isUnreserved (c : Char) : Bool := c.isAlphanum || c == '-' || c == '.' || c == '_' || c == '~'

/-- A byte as an escape. -/
def escapeByte (b : UInt8) : List Char := '%' :: (Utf8.hexByte b).toList.map Char.toUpper

/-- The escapes of a character. -/
def escapeChar (c : Char) : List Char := (Utf8.encodeChar c).flatMap escapeByte

/-- Characters with escapes for those that are not kept. Unreserved ones are kept in any case. -/
def encode (keep : Char → Bool) (cs : List Char) : List Char :=
  cs.flatMap fun c => if isUnreserved c || keep c then [c] else escapeChar c

/-- The value of a hexadecimal digit in either case. -/
def hexDigit? (c : Char) : Option Nat := if c.toNat < 0x80 then hexValue? c.toLower else none

/-- Whether a text begins with two hexadecimal digits. -/
def startsHex : List Char → Bool
  | a :: b :: _ => (hexDigit? a).isSome && (hexDigit? b).isSome
  | _ => false

/-- Characters with escapes for those that are not kept, except that escapes stay as they are. -/
def complete (keep : Char → Bool) : List Char → List Char
  | [] => []
  | c :: rest =>
    if c == '%' && startsHex rest then c :: complete keep rest
    else (if isUnreserved c || keep c then [c] else escapeChar c) ++ complete keep rest

/-- The bytes of ASCII characters with the escapes among them read. -/
def bytesOf : List Char → Bytes
  | [] => []
  | '%' :: a :: b :: rest =>
    match hexDigit? a, hexDigit? b with
    | some x, some y => (16 * x + y).toUInt8 :: bytesOf rest
    | _, _ => '%'.toNat.toUInt8 :: bytesOf (a :: b :: rest)
  | c :: rest => c.toNat.toUInt8 :: bytesOf rest
termination_by cs => cs.length

/-- Characters with the escapes among them read. -/
def decodeChars (cs : List Char) : List Char :=
  (cs.splitBy fun a b => (a.toNat < 0x80) == (b.toNat < 0x80)).flatMap fun run =>
    if run.head?.any fun c => c.toNat < 0x80 then Utf8.lossyChars (bytesOf run) else run

/-- A text with the escapes in it read. -/
def decode (s : String) : String := String.ofList (decodeChars s.toList)

/-- A text as it stands in a form: a space is a plus sign and only unreserved characters are kept. -/
def formEncode (cs : List Char) : List Char :=
  cs.flatMap fun c => if c == ' ' then ['+'] else if isUnreserved c then [c] else escapeChar c

/-- The text that stands in a form. -/
def formDecode (cs : List Char) : List Char := decodeChars (cs.map fun c => if c == '+' then ' ' else c)

end Rehearsal.Http.Percent
