import Rehearsal.Archive.Basic
import Rehearsal.Text.Quoted

/-!
# Quoting file contents

Contents that hold a line of the shape of a marker cannot stand in an archive as they are. `quote` puts a
`>` in front of every line, after which no line is a marker, and `unquote` takes them away. Only printable
text that ends in a newline can be quoted, so that a reader of the archive sees what is there.
-/

namespace Rehearsal.Archive

/-- The byte put in front of every quoted line. -/
def quoteMark : UInt8 := 62

/-- Why contents cannot be quoted, or are not quoted. -/
inductive QuoteError where
  | noFinalNewline
  | notUtf8
  | unprintable (c : Char) (offset : Nat)
  | notQuoted
  deriving DecidableEq, Repr, Inhabited

/-- The wording of a quoting error. -/
def QuoteError.message : QuoteError → String
  | .noFinalNewline => "data has no final newline"
  | .notUtf8 => "data contains non-UTF-8 characters"
  | .unprintable c offset =>
    s!"data contains unprintable character {Quoted.text (String.singleton c)} at offset {offset}"
  | .notQuoted => "data does not appear to be quoted"

/-- Whether contents must be quoted before they are stored: some line of them is a marker. The search ends at the first, so a
later one whose name is not UTF-8 does no harm. -/
def needsQuote (d : Bytes) : Except Utf8.DecodeError Bool :=
  match findMarker d with
  | .error e => .error e
  | .ok (_, found) => .ok found.isSome

/-- Whether a character may stand in quoted contents: anything but the controls below the space, of which
newline and tab are allowed. -/
def isQuotable (c : Char) : Bool := !(c < ' ') || c == '\n' || c == '\t'

/-- Whether contents can be quoted, and if not, the first reason why. -/
def checkQuotable (d : Bytes) : Except QuoteError Unit :=
  if d.isEmpty then .ok ()
  else if !Bytes.endsInNewline d then .error .noFinalNewline
  else match Utf8.decodeChars d with
    | .error _ => .error .notUtf8
    | .ok cs =>
      match cs.zipIdx.find? fun (c, _) => !isQuotable c with
      | some (c, offset) => .error (.unprintable c offset)
      | none => .ok ()

/-- Puts the quote mark in front of every line. -/
def quote (d : Bytes) : Except QuoteError Bytes :=
  match checkQuotable d with
  | .error e => .error e
  | .ok () => .ok ((Bytes.lines d).flatMap fun line => quoteMark :: line)

/-- Takes away a quote mark behind each newline. -/
def dropMarks : Bytes → Bytes
  | b :: c :: rest =>
    if b == Bytes.newline && c == quoteMark then b :: dropMarks rest else b :: dropMarks (c :: rest)
  | d => d

/-- Takes the quote marks away. Contents that do not begin with one or do not end in a newline are not
quoted; a line in between without a mark is let stand. -/
def unquote (d : Bytes) : Except QuoteError Bytes :=
  if d.isEmpty then .ok d
  else if d.head? != some quoteMark || !Bytes.endsInNewline d then .error .notQuoted
  else .ok ((dropMarks d).drop 1)

end Rehearsal.Archive
