import Rehearsal.Decimal.Integer
import Rehearsal.Encoding
import Rehearsal.Http.Percent
import Rehearsal.Text.Case

/-!
# Content types

A content type is a kind and parameters, between semicolons that stand in no quotes. The parameter `charset` names the
encoding of a body. A parameter may be cut into segments, `name*0`, `name*1` and so on, and a segment may be escaped,
which a star at the end of its name tells; the joined text of escaped segments may begin with an encoding and a language
of its own, between single quotes.

The kind is not told apart: it counts as the first parameter.
-/

namespace Rehearsal.Http.ContentType

/-- Why a content type cannot be read. -/
inductive Error where
  /-- Segments with a number and without one have no order. The argument says whether the first one is numbered. -/
  | noOrder (numberFirst : Bool)
  /-- The number of a segment. -/
  | number (e : Integer.Error)
  /-- The name of an encoding holds the null character. -/
  | nullCharacter
  deriving DecidableEq, Repr, Inhabited

/-- The wording of an error. -/
def Error.message : Error → String
  | .noOrder true => "'<' not supported between instances of 'NoneType' and 'int'"
  | .noOrder false => "'<' not supported between instances of 'int' and 'NoneType'"
  | .number e => e.message
  | .nullCharacter => "embedded null character"

/-- The pieces of a header between semicolons. A semicolon behind an odd number of quotes in its piece is none; quotes
behind a backslash do not count. -/
def pieces (quoted escaped : Bool) : List Char → List (List Char)
  | [] => [[]]
  | c :: rest =>
    if c == ';' && !quoted then [] :: pieces false false rest
    else match pieces (quoted != (c == '"' && !escaped)) (c == '\\') rest with
      | [] => [[c]]
      | piece :: more => (c :: piece) :: more

/-- The name and the value of a parameter as they are written. -/
def named (piece : List Char) : String × List Char :=
  let front := piece.takeWhile (· != '=')
  let name := String.ofList (trimChars front)
  match piece.drop front.length with
  | _ :: value => (lowerCase name, trimChars value)
  | [] => (name, [])

/-- A text in which a character with a backslash in front of it stands alone. -/
def unescape (escaped : Char) : List Char → List Char
  | [] => []
  | [c] => [c]
  | c :: d :: rest => if c == '\\' && d == escaped then d :: unescape escaped rest else c :: unescape escaped (d :: rest)

/-- A value without the quotes or angle brackets around it. -/
def unquote (value : List Char) : List Char :=
  if value.length < 2 then value
  else if value.head? == some '"' && value.getLast? == some '"' then
    unescape '"' (unescape '\\' (value.drop 1).dropLast)
  else if value.head? == some '<' && value.getLast? == some '>' then (value.drop 1).dropLast
  else value

/-- A part of the value of a parameter. -/
structure Segment where
  number : Option Int
  text : List Char
  isEscaped : Bool
  deriving DecidableEq, Repr, Inhabited

/-- Whether a segment stands before another or is the same. -/
def Segment.isBefore (a b : Segment) : Bool :=
  let order := (compare (a.number.getD 0) (b.number.getD 0)).then
    ((compare (String.ofList a.text) (String.ofList b.text)).then (compare a.isEscaped.toNat b.isEscaped.toNat))
  order != .gt

/-- The characters that a segment stands for. An escape is a character of its own. -/
def Segment.chars (s : Segment) : List Char :=
  if s.isEscaped then (Percent.bytesOf s.text).map fun b => Char.ofNat b.toNat else s.text

/-- The parameter and the figures of the number that the name of a segment is made of. -/
def segmentName? (name : String) : Option (String × List Char) :=
  let cs := name.toList
  let front := cs.takeWhile (· != '*')
  let behind := cs.drop (front.length + 1)
  let figures := behind.takeWhile Char.isDigit
  let left := behind.drop figures.length
  if front.isEmpty || front.length == cs.length || front.any fun c => !(c.isAlphanum || c == '_') then none
  else if left.isEmpty || (left == ['*'] && !figures.isEmpty) then some (String.ofList front, figures)
  else none

/-- The segment of a name and a value, with the parameter it belongs to. -/
def segment? (name : String) (value : List Char) : Except Error (Option (String × Segment)) :=
  match segmentName? name with
  | none => .ok none
  | some (parameter, figures) =>
    let isEscaped := name.toList.getLast? == some '*'
    if figures.isEmpty then .ok (some (parameter, ⟨none, unquote value, isEscaped⟩))
    else match Integer.ofText (String.ofList figures) with
      | .ok n => .ok (some (parameter, ⟨some n, unquote value, isEscaped⟩))
      | .error e => .error (.number e)

/-- Segments in order. Either all of them have a number or none. -/
def ordered (segments : List Segment) : Except Error (List Segment) :=
  let numberFirst := segments.head?.any (·.number.isSome)
  if segments.any fun s => s.number.isSome != numberFirst then .error (.noOrder numberFirst)
  else .ok (segments.mergeSort Segment.isBefore)

/-- The name of an encoding that is written in an encoding. What cannot be read so stands for itself. -/
def readIn (encoding : List Char) (text : List Char) : Except Error (List Char) :=
  let name := if encoding.isEmpty then "us-ascii" else String.ofList encoding
  if text.isEmpty then .ok []
  else if encoding.contains (Char.ofNat 0) then .error .nullCharacter
  else .ok (((Encoding.ofName? name).bind fun e => e.decodeStrictly? (text.map fun c => c.toNat.toUInt8)).getD text)

/-- The value that ordered segments make. -/
def valueOf (segments : List Segment) : Except Error (List Char) :=
  let text := segments.flatMap Segment.chars
  if segments.any (·.isEscaped) then
    let encoding := text.takeWhile (· != '\x27')
    let behind := text.drop (encoding.length + 1)
    let language := behind.takeWhile (· != '\x27')
    if language.length < behind.length then readIn encoding (behind.drop (language.length + 1))
    else readIn [] text
  else .ok text

/-- The segments of parameters, each parameter at the place of its first segment. -/
def grouped (found : List (String × Segment)) : List (String × List Segment) :=
  found.foldl (fun groups (name, s) =>
    if groups.any fun g => g.1 == name then groups.map fun g => if g.1 == name then (name, g.2 ++ [s]) else g
    else groups ++ [(name, [s])]) []

/-- The value of the parameter `charset`. One that is written in one piece counts first. -/
def charset? (contentType : String) : Except Error (Option (List Char)) := do
  let parameters := (pieces false false contentType.toList).map named
  let found ← (parameters.drop 1).filterMapM fun (name, value) => segment? name value
  let groups ← (grouped found).mapM fun (name, segments) => return (name, ← ordered segments)
  match parameters.find? fun p => lowerCase p.1 == "charset", groups.find? fun g => lowerCase g.1 == "charset" with
  | some (_, value), _ => return some (unquote value)
  | none, some (_, segments) => return some (← valueOf segments)
  | none, none => return none

/-- The encoding of a body with a content type. None and one that is not known are UTF-8. -/
def encoding (contentType : Option String) : Except Error Encoding := do
  match contentType with
  | none => return .utf8
  | some text =>
    match ← charset? text with
    | none => return .utf8
    | some name =>
      if name.any fun c => 128 ≤ c.toNat then return .utf8
      else if name.contains (Char.ofNat 0) then throw .nullCharacter
      else return (Encoding.ofName? (String.ofList name)).getD .utf8

end Rehearsal.Http.ContentType
