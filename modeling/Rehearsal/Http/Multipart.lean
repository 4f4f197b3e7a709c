import Rehearsal.Http.Headers
import Rehearsal.Http.MediaType
import Rehearsal.Http.Query

/-!
# Forms with files

A form that files are sent with is a row of parts between boundary lines: first the fields, then the files with their
names and types. The boundary is chosen by the sender and named in the content type, unless the content type
already names one.
-/

namespace Rehearsal.Http.Multipart

open Rehearsal

/-- The end of a line in a message. -/
def lineEnd : Bytes := Bytes.ascii "\r\n"

/-- A name between quotes. Control characters except the escape are written by their codes. -/
def quoted (s : String) : Bytes :=
  let char (c : Char) : List Char :=
    if c == '"' then "%22".toList
    else if c == '\\' then "\\\\".toList
    else if c.toNat < 0x20 && c.toNat != 0x1B then Percent.escapeChar c
    else [c]
  Utf8.encodeChars ('"' :: s.toList.flatMap char ++ ['"'])

/-- A part with its headers and contents. -/
structure Part where
  name : String
  fileName : String
  type : Option String
  data : Bytes
  deriving DecidableEq, Repr, Inhabited

/-- A part as it is sent. -/
def Part.render (p : Part) : Bytes :=
  Bytes.ascii "Content-Disposition: form-data; name=" ++ quoted p.name ++
    (if p.fileName.isEmpty then [] else Bytes.ascii "; filename=" ++ quoted p.fileName) ++
    (match p.type with
      | some t => lineEnd ++ Bytes.ascii "Content-Type: " ++ Utf8.encode t
      | none => []) ++
    lineEnd ++ lineEnd ++ p.data

/-- The part of a field. -/
def Part.ofField (name value : String) : Part := ⟨name, "", none, Utf8.encode value⟩

/-- The part of a file. Only a file with a name has a type. -/
def Part.ofUpload (f : Upload) : Part :=
  let name := Path.baseName f.fileName
  ⟨f.fieldName, name, if name.isEmpty then none else some (MediaType.ofFileName name), Utf8.encode f.content⟩

/-- The fields that a body gives a form: of each name the last one counts. -/
def fields (body : String) : Table String := Table.ofPairs (Query.grouped (Query.pairsOf body))

/-- The parts of a form: its fields, and then its files. -/
def parts (body : Option String) (files : List Upload) : List Part :=
  (fields (body.getD "")).map (fun (k, v) => Part.ofField k v) ++ files.map Part.ofUpload

/-- A form as it is sent. -/
def render (boundary : String) (ps : List Part) : Bytes :=
  let mark := Bytes.ascii "--" ++ Utf8.encode boundary
  ps.flatMap (fun p => mark ++ lineEnd ++ p.render ++ lineEnd) ++ mark ++ Bytes.ascii "--" ++ lineEnd

/-- The content type that names a boundary. -/
def contentType (boundary : String) : String := "multipart/form-data; boundary=" ++ boundary

/-- The boundary that a content type names. -/
def boundaryIn? (type : String) : Option String :=
  let lead := "boundary=".toList
  if type.startsWith "multipart/form-data" && type.toList.contains ';' then
    ((Line.splitOn ';' type.toList).map trimChars).findSome? fun piece =>
      if lead.isPrefixOf (piece.map Char.toLower) then
        let cs := ((piece.drop lead.length).dropWhile (· == '"')).reverse.dropWhile (· == '"')
        some (String.ofList cs.reverse)
      else none
  else none

end Rehearsal.Http.Multipart
