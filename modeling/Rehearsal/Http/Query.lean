import Rehearsal.Http.Percent
import Rehearsal.Http.Template
import Rehearsal.Json
import Rehearsal.Text.Line

/-!
# Query fields

The query of a request is a list of named fields. They are written as in a form, or as a JSON object whose values
become text. Fields of one name stand together where the first of them stood. Writing fields gives a query that reads back
as the same fields.

A text from JSON may hold half of a surrogate pair, which cannot be sent.
-/

namespace Rehearsal.Http.Query

open Rehearsal

/-- A named field. -/
abbrev Field := Codes × Codes

/-- Why fields cannot be written. -/
inductive Error where
  | number (e : Integer.Error)
  /-- A list, or a table if it is one, stands in too many others. -/
  | tooDeep (isTable : Bool)
  /-- Halves of surrogate pairs, from a position on. -/
  | halves (code position count : Nat)
  deriving DecidableEq, Repr, Inhabited

/-- The wording of an error. -/
def Error.message : Error → String
  | .number e => e.message
  | .tooDeep isTable => Json.tooDeepMessage isTable
  | .halves code position 1 =>
    "'utf-8' codec can't encode character '\\u" ++ String.ofList (Quoted.hexPadded 4 code) ++
      s!"' in position {position}: surrogates not allowed"
  | .halves _ position count =>
    s!"'utf-8' codec can't encode characters in position {position}-{position + count - 1}: surrogates not allowed"

/-- The codes of a value's text. -/
def codesOfValue : Value → Codes
  | .codes cs => cs
  | v => Codes.ofText (v.text?.getD "")

/-- The named texts of a form, in order. -/
def pairsOf (s : String) : List (String × String) :=
  ((Line.splitOn '&' s.toList).filter fun piece => !piece.isEmpty).map fun piece =>
    let name := piece.takeWhile (· != '=')
    let text (cs : List Char) : String := String.ofList (Percent.formDecode cs)
    (text name, text (piece.drop (name.length + 1)))

/-- Pairs with those of one name together where the first of them stood. -/
def grouped {α β : Type} [BEq α] (ps : List (α × β)) : List (α × β) :=
  ((ps.map (·.1)).eraseDups).flatMap fun k => ps.filter fun (k', _) => k' == k

/-- The fields that one part of a query gives. -/
def fieldsOf (q : String) : Except Error (List Field) :=
  let plain := (grouped (pairsOf (String.ofList (q.toList.dropWhile (· == '?'))))).map fun (k, v) =>
    (Codes.ofText k, Codes.ofText v)
  if q.startsWith "\x7b" then
    match Json.ofText q with
    | .ok (.table items) => .ok (items.map fun (k, v) => (codesOfValue k, codesOfValue v))
    | .error (.number e) => .error (.number e)
    | .error (.tooDeep isTable) => .error (.tooDeep isTable)
    | _ => .ok plain
  else .ok plain

/-- The fields of all parts of a query. -/
def allFields : List String → Except Error (List Field)
  | [] => .ok []
  | q :: rest => do
    let fs ← fieldsOf q
    let more ← allFields rest
    return fs ++ more

/-- A text as it stands in a form. -/
def encode (cs : Codes) : Except Error (List Char) :=
  match cs.findIdx? Codes.isHalf with
  | some i =>
    let run := (cs.drop i).takeWhile Codes.isHalf
    .error (.halves (run.head?.getD 0) i run.length)
  | none => .ok (Percent.formEncode (cs.map Char.ofNat))

/-- A field as it stands in a form. -/
def writeField (f : Field) : Except Error (List Char) := do
  let name ← encode f.1
  let value ← encode f.2
  return name ++ '=' :: value

/-- Fields as a query. -/
def write (fs : List Field) : Except Error String := do
  let parts ← (grouped fs).mapM writeField
  return String.ofList (['&'].intercalate parts)

end Rehearsal.Http.Query
