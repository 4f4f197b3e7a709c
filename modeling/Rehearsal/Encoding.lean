import Rehearsal.Charset.Escaped
import Rehearsal.Charset.Names
import Rehearsal.Charset.Punycode
import Rehearsal.Charset.Shifted
import Rehearsal.Charset.Unicode
import Rehearsal.Text.Quoted

/-!
# Encodings

An encoding is a way to take bytes for text. Most are character sets, and in these bytes that are no character become
replacement characters. Some names stand for something else than a character set, and what they stand for cannot take
the bytes of a text.

`Encoding.ofName?` finds an encoding by its name and `Encoding.decode` takes bytes for text. `Encoding.decodeStrictly?`
does so where no character is replaced.
-/

namespace Rehearsal

/-- Why bytes cannot be taken for text. -/
inductive Encoding.Error where
  /-- The order of the bytes in a unit has to be told in front and is not. -/
  | noOrder (name : String)
  /-- The encoding makes bytes of bytes and passes over nothing. -/
  | strictOnly
  /-- The encoding makes text of text. -/
  | textOnly
  /-- The encoding is for names of hosts and passes over nothing. -/
  | hostNames
  /-- The encoding is none on purpose. -/
  | undefined
  /-- Too many bytes are the beginning of a character without an end. -/
  | pending
  /-- A byte among figures and letters is none. -/
  | notAscii (byte position : Nat)
  deriving DecidableEq, Repr, Inhabited

/-- The wording of an error. -/
def Encoding.Error.message : Encoding.Error → String
  | .noOrder name => s!"{name} stream does not start with BOM"
  | .strictOnly => ""
  | .textOnly => "descriptor 'translate' for 'str' objects doesn't apply to a 'bytes' object"
  | .hostNames => "Unsupported error handling replace"
  | .undefined => "undefined encoding"
  | .pending => "pending buffer overflow"
  | .notAscii byte position =>
    "'ascii' codec can't decode byte 0x" ++ String.ofList (Quoted.hexPadded 2 byte) ++
      s!" in position {position}: ordinal not in range(128)"

open Charset

/-- A way to take bytes for text. -/
inductive Encoding where
  | utf8
  /-- With a mark in front that does not count. -/
  | utf8Marked
  | utf7
  | utf16 (order : Option ByteOrder)
  | utf32 (order : Option ByteOrder)
  | ascii
  | latin1
  | page (p : CodePage)
  | eucJp
  | eucJisX0213 (edition2004 : Bool)
  | shiftJis
  | shiftJisX0213 (edition2004 : Bool)
  | windows932
  | gb2312
  | gbk
  | gb18030
  | big5
  | windows950
  | hongKong
  | eucKr
  | windows949
  | johab
  /-- Pairs between braces behind tildes. -/
  | braced
  | escapedSets (e : Escaping)
  /-- Characters as escapes, only as codes if raw. -/
  | escapes (raw : Bool)
  | punycode
  | unfit (why : Encoding.Error)
  deriving DecidableEq, Repr, Inhabited

namespace Encoding

/-- The encodings that are not code pages, by their own names. -/
def byName : List (String × Encoding) :=
  [("utf_8", .utf8), ("utf_8_sig", .utf8Marked), ("utf_7", .utf7), ("utf_16", .utf16 none),
    ("utf_16_le", .utf16 (some .little)), ("utf_16_be", .utf16 (some .big)), ("utf_32", .utf32 none),
    ("utf_32_le", .utf32 (some .little)), ("utf_32_be", .utf32 (some .big)), ("ascii", .ascii), ("latin_1", .latin1),
    ("iso8859_1", .latin1), ("charmap", .latin1), ("euc_jp", .eucJp), ("euc_jisx0213", .eucJisX0213 false),
    ("euc_jis_2004", .eucJisX0213 true), ("shift_jis", .shiftJis), ("shift_jisx0213", .shiftJisX0213 false),
    ("shift_jis_2004", .shiftJisX0213 true), ("cp932", .windows932), ("gb2312", .gb2312), ("gbk", .gbk),
    ("gb18030", .gb18030), ("big5", .big5), ("cp950", .windows950), ("big5hkscs", .hongKong), ("euc_kr", .eucKr),
    ("cp949", .windows949), ("johab", .johab), ("hz", .braced), ("iso2022_jp", .escapedSets .japanese),
    ("iso2022_jp_1", .escapedSets .japanese1), ("iso2022_jp_2", .escapedSets .japanese2),
    ("iso2022_jp_3", .escapedSets .japanese3), ("iso2022_jp_2004", .escapedSets .japanese2004),
    ("iso2022_jp_ext", .escapedSets .japaneseExtended), ("iso2022_kr", .escapedSets .korean),
    ("unicode_escape", .escapes false), ("raw_unicode_escape", .escapes true), ("punycode", .punycode),
    ("idna", .unfit .hostNames), ("undefined", .unfit .undefined), ("rot_13", .unfit .textOnly),
    ("base64_codec", .unfit .strictOnly), ("bz2_codec", .unfit .strictOnly), ("hex_codec", .unfit .strictOnly),
    ("quopri_codec", .unfit .strictOnly), ("uu_codec", .unfit .strictOnly), ("zlib_codec", .unfit .strictOnly)]

/-- The encoding of a name. -/
def ofName? (name : String) : Option Encoding := do
  let own ← ownName? name
  match byName.lookup own with
  | some e => return e
  | none => (codePages.find? fun p => p.name == own).map .page

/-- The Greek page that an escape sequence may ask for. -/
def greekPage : CodePage := (codePages.find? fun p => p.name == "iso8859_7").getD default

/-- The characters of figures and letters that say where to insert what. -/
def decodePunycode (d : Bytes) : Except Error (List Char) :=
  let (base, numbers) := Punycode.split (d.map fun b => Char.ofNat b.toNat)
  match numbers.findIdx? fun c => 128 ≤ c.toNat with
  | some i => .error (.notAscii ((numbers[i]?.getD ' ').toNat) i)
  | none =>
    let base := base.map fun c => if c.toNat < 128 then c else replacement
    .ok (Punycode.insert '?' base 128 0 72 true numbers).1

/-- The most bytes that may be the beginning of a character without an end. -/
def maxPending : Nat := 8

/-- The characters that bytes stand for. -/
def decodeChars : Encoding → Bytes → Except Error (List Char)
  | .utf8, d => .ok (Utf8.decodeLossy d).toList
  | .utf8Marked, d => .ok (decodeUtf8Marked d)
  | .utf7, d => .ok (decodeUtf7 d)
  | .utf16 (some o), d => .ok (decodeBy (unit16 o) d)
  | .utf32 (some o), d => .ok (decodeBy (unit32 o) d)
  | .utf16 none, d =>
    match decodeMarked 2 unit16 d with
    | some cs => .ok cs
    | none => .error (.noOrder "UTF-16")
  | .utf32 none, d =>
    match decodeMarked 4 unit32 d with
    | some cs => .ok cs
    | none => .error (.noOrder "UTF-32")
  | .ascii, d => .ok (d.map fun b => if b < 128 then plainLow b else replacement)
  | .latin1, d => .ok (d.map plainLow)
  | .page p, d => .ok (d.map p.char)
  | .eucJp, d => .ok (decodeBy eucJpStep d)
  | .eucJisX0213 e, d => .ok (decodeBy (eucLaterStep e) d)
  | .shiftJis, d => .ok (decodeBy (shiftedStep plainLow jisChars?) d)
  | .shiftJisX0213 e, d => .ok (decodeBy (shiftedStep romanLow (laterShifted? e)) d)
  | .windows932, d => .ok (decodeBy windows932Step d)
  | .gb2312, d => .ok (decodeBy (pairStep gb2312Pair?) d)
  | .gbk, d => .ok (decodeBy (pairStep fun b c => single? (gbkPair? b c)) d)
  | .gb18030, d => .ok (decodeBy gb18030Step d)
  | .big5, d => .ok (decodeBy (pairStep fun b c => single? (Charset.big5.char? b c)) d)
  | .windows950, d => .ok (decodeBy (pairStep windows950Pair?) d)
  | .hongKong, d => .ok (decodeBy (pairStep hongKongPair?) d)
  | .eucKr, d => .ok (decodeBy eucKrStep d)
  | .windows949, d => .ok (decodeBy (pairStep fun b c => single? (windows949Pair? b c)) d)
  | .johab, d => .ok (decodeBy (pairStep fun b c => single? (johabPair? b c)) d)
  | .braced, d => .ok (decodeFrom bracedStep false d).1
  | .escapedSets e, d =>
    let (cs, left) := decodeFrom (escapedStep e greekPage) Slots.start d
    if maxPending < left then .error .pending else .ok cs
  | .escapes raw, d => .ok (decodeBy (if raw then rawEscapeStep else escapeStep) d)
  | .punycode, d => decodePunycode d
  | .unfit why, _ => .error why

/-- The text that bytes stand for. No bytes are no text, whatever the encoding is. -/
def decode (e : Encoding) (d : Bytes) : Except Error String :=
  if d.isEmpty then .ok "" else (e.decodeChars d).map String.ofList

/-- The text that bytes stand for if all of them are characters. Without a mark the order of bytes in a unit is from the
low end up. -/
def decodeStrictly? (e : Encoding) (d : Bytes) : Option (List Char) :=
  let decoded := match e, e.decodeChars d with
    | .utf16 none, .error _ => (Encoding.utf16 (some .little)).decodeChars d
    | .utf32 none, .error _ => (Encoding.utf32 (some .little)).decodeChars d
    | .unfit .hostNames, .error _ => Encoding.ascii.decodeChars d
    | _, r => r
  match decoded with
  | .ok cs => if cs.contains replacement then none else some cs
  | .error _ => none

end Encoding

end Rehearsal
