/-!
# Byte strings

The contents of files, of archives and of what a program writes, as lists of bytes, with the few
cuts the archive format makes: at newlines, and off the two ends.
-/

namespace Rehearsal

/-- A byte string: what a file holds or a program writes. -/
abbrev Bytes := List UInt8

namespace Bytes

/-- The newline byte. -/
def newline : UInt8 := 10

/-- The carriage return byte. -/
def carriageReturn : UInt8 := 13

/-- The bytes of an ASCII text, one for each character. Only for literals: a character above 127 would
be cut to its low eight bits. -/
def ascii (s : String) : Bytes := s.toList.map fun c => c.toNat.toUInt8

/-- The six bytes that ASCII counts as blank: tab, newline, vertical tab, form feed, carriage return
and space. -/
def isBlank (b : UInt8) : Bool := (9 ≤ b && b ≤ 13) || b == 32

/-- A byte string without its blank ends. -/
def trim (d : Bytes) : Bytes := (d.dropWhile isBlank).reverse.dropWhile isBlank |>.reverse

/-- A byte string without the run of `b` at its end. -/
def trimRight (b : UInt8) (d : Bytes) : Bytes := (d.reverse.dropWhile (· == b)).reverse

/-- Whether a byte string ends in a newline. The empty one does not. -/
def endsInNewline (d : Bytes) : Bool := d.getLast? == some newline

/-- The lines of a byte string, each with the newline that ends it. Only the last may lack one, and no
line is empty, so joining them gives back the string. -/
def lines : Bytes → List Bytes
  | [] => []
  | b :: rest =>
    if b == newline then [b] :: lines rest
    else match lines rest with
      | [] => [[b]]
      | line :: more => (b :: line) :: more

/-- The pieces of a byte string between its newlines: always one more than there are newlines. -/
def splitLines : Bytes → List Bytes
  | [] => [[]]
  | b :: rest =>
    if b == newline then [] :: splitLines rest
    else match splitLines rest with
      | [] => [[b]]
      | line :: more => (b :: line) :: more

end Bytes

end Rehearsal

/-!
## UTF-8

Text to bytes and back. `encode` is total; `decode` either reads the whole byte string or names the
first place that is not UTF-8, how many bytes are at fault there, and why. `decodeLossy` puts a
replacement character for each such place and goes on behind it, so the two agree on what one fault
is.

A fault is reported at the shortest run of bytes that cannot begin a character: a byte that never
begins one, a beginning whose continuation is missing, or a beginning cut off by the end.
-/

namespace Rehearsal.Utf8

/-- The bytes of one character. -/
def encodeChar (c : Char) : Bytes :=
  let n := c.toNat
  if n < 0x80 then [n.toUInt8]
  else if n < 0x800 then [(0xC0 + n / 64).toUInt8, (0x80 + n % 64).toUInt8]
  else if n < 0x10000 then
    [(0xE0 + n / 4096).toUInt8, (0x80 + n / 64 % 64).toUInt8, (0x80 + n % 64).toUInt8]
  else
    [(0xF0 + n / 262144).toUInt8, (0x80 + n / 4096 % 64).toUInt8, (0x80 + n / 64 % 64).toUInt8,
      (0x80 + n % 64).toUInt8]

/-- The bytes of a list of characters. -/
def encodeChars (cs : List Char) : Bytes := cs.flatMap encodeChar

/-- The bytes of a text. -/
def encode (s : String) : Bytes := encodeChars s.toList

/-- Why a run of bytes is not UTF-8. -/
inductive Flaw where
  /-- The byte begins no character. -/
  | start
  /-- A character is begun and then not continued. -/
  | continuation
  /-- The bytes end inside a character. -/
  | ending
  deriving DecidableEq, Repr, Inhabited

/-- The wording of a flaw. -/
def Flaw.reason : Flaw → String
  | .start => "invalid start byte"
  | .continuation => "invalid continuation byte"
  | .ending => "unexpected end of data"

/-- What stands at the head of a byte string: a character or a flaw, each with the number of bytes it
takes beyond the first. -/
inductive Head where
  | char (c : Char) (extra : Nat)
  | flaw (why : Flaw) (extra : Nat)
  deriving Repr, Inhabited

/-- Whether a byte continues a character. -/
def isContinuation (b : UInt8) : Bool := 0x80 ≤ b && b < 0xC0

/-- Whether `b` may follow the first byte `first` of a character of three or four bytes: shorter codes
for the same character, surrogates and codes past the last character are excluded here. -/
def isSecond (first b : UInt8) : Bool :=
  isContinuation b &&
    !(first == 0xE0 && b < 0xA0) && !(first == 0xED && 0xA0 ≤ b) &&
    !(first == 0xF0 && b < 0x90) && !(first == 0xF4 && 0x90 ≤ b)

/-- The six low bits of a continuation byte. -/
def low (b : UInt8) : Nat := b.toNat % 64

/-- The head of a non-empty byte string. -/
def head (first : UInt8) (rest : Bytes) : Head :=
  if first < 0x80 then .char (Char.ofNat first.toNat) 0
  else if first < 0xC2 then .flaw .start 0
  else if first < 0xE0 then
    match rest with
    | [] => .flaw .ending 0
    | b :: _ =>
      if isContinuation b then .char (Char.ofNat ((first.toNat - 0xC0) * 64 + low b)) 1
      else .flaw .continuation 0
  else if first < 0xF0 then
    match rest with
    | [] => .flaw .ending 0
    | b :: more =>
      if !isSecond first b then .flaw .continuation 0
      else match more with
        | [] => .flaw .ending 1
        | c :: _ =>
          if isContinuation c then
            .char (Char.ofNat ((first.toNat - 0xE0) * 4096 + low b * 64 + low c)) 2
          else .flaw .continuation 1
  else if first < 0xF5 then
    match rest with
    | [] => .flaw .ending 0
    | b :: more =>
      if !isSecond first b then .flaw .continuation 0
      else match more with
        | [] => .flaw .ending 1
        | c :: more =>
          if !isContinuation c then .flaw .continuation 1
          else match more with
            | [] => .flaw .ending 2
            | d :: _ =>
              if isContinuation d then
                .char (Char.ofNat ((first.toNat - 0xF0) * 262144 + low b * 4096 + low c * 64 + low d)) 3
              else .flaw .continuation 2
  else .flaw .start 0

/-- The first fault of a byte string that is not UTF-8: the bytes from `position` on, `extra` beyond the
first of them, and the reason. -/
structure DecodeError where
  byte : UInt8
  position : Nat
  extra : Nat
  why : Flaw
  deriving DecidableEq, Repr, Inhabited

/-- One hexadecimal digit in lower case. -/
def hexDigit (n : Nat) : Char :=
  if n < 10 then Char.ofNat (48 + n) else Char.ofNat (87 + n)

/-- A byte as two hexadecimal digits. -/
def hexByte (b : UInt8) : String :=
  String.ofList [hexDigit (b.toNat / 16), hexDigit (b.toNat % 16)]

/-- The wording of a decoding fault: one byte is shown, several are given by their positions. -/
def DecodeError.message (e : DecodeError) : String :=
  if e.extra = 0 then
    s!"'utf-8' codec can't decode byte 0x{hexByte e.byte} in position {e.position}: {e.why.reason}"
  else
    s!"'utf-8' codec can't decode bytes in position {e.position}-{e.position + e.extra}: {e.why.reason}"

/-- Reads the bytes from position `at` on. -/
def decodeFrom (start : Nat) : Bytes → Except DecodeError (List Char)
  | [] => .ok []
  | b :: rest =>
    match head b rest with
    | .char c extra =>
      match decodeFrom (start + extra + 1) (rest.drop extra) with
      | .ok cs => .ok (c :: cs)
      | .error e => .error e
    | .flaw why extra => .error ⟨b, start, extra, why⟩
termination_by d => d.length
decreasing_by simp only [List.length_drop, List.length_cons]; omega

/-- The characters of a byte string, or its first fault. -/
def decodeChars (d : Bytes) : Except DecodeError (List Char) := decodeFrom 0 d

/-- The text a byte string holds, or its first fault. -/
def decode (d : Bytes) : Except DecodeError String :=
  match decodeChars d with
  | .ok cs => .ok (String.ofList cs)
  | .error e => .error e

/-- The characters of a byte string with a replacement character for each fault. -/
def lossyChars : Bytes → List Char
  | [] => []
  | b :: rest =>
    match head b rest with
    | .char c extra => c :: lossyChars (rest.drop extra)
    | .flaw _ extra => '\uFFFD' :: lossyChars (rest.drop extra)
termination_by d => d.length
decreasing_by all_goals (simp only [List.length_drop, List.length_cons]; omega)

/-- The text of a byte string with a replacement character for each fault. -/
def decodeLossy (d : Bytes) : String := String.ofList (lossyChars d)

end Rehearsal.Utf8
