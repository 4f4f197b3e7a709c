import Rehearsal.Text.Nesting
import Rehearsal.Value

/-!
# JSON

Reading JSON texts. Blanks are spaces, tabs and line ends; nothing else may stand around a value. Besides the
standard, the words `NaN`, `Infinity` and `-Infinity` are numbers. A key that comes again keeps its place and takes the
later value. A whole number with too many digits is a fault of its own, found where the number stands, and so is a
list or a table that stands in too many others.

`Json.ofText` reads a whole text. What it does not decide: how a value is written back.
-/

namespace Rehearsal.Json

/-- Why a text is no JSON. -/
inductive Error where
  | malformed
  | number (e : Integer.Error)
  /-- A list, or a table if it is one, stands in too many others. -/
  | tooDeep (isTable : Bool)
  deriving DecidableEq, Repr, Inhabited

/-- How many lists and tables may stand in each other. -/
def maxDepth : Nat := 980

/-- What is said of a list or a table that stands in too many others. -/
def tooDeepMessage (isTable : Bool) : String :=
  let what := if isTable then "object" else "array"
  s!"{Nesting.message} while decoding a JSON {what} from a unicode string"

/-- Whether a character may stand between tokens. -/
def isGap (c : Char) : Bool := c == ' ' || c == '\t' || c == '\n' || c == '\r'

/-- A text without the gap at its front. -/
def skip (cs : List Char) : List Char := cs.dropWhile isGap

/-- Whether a character is one of the ten digits. -/
def isFigure (c : Char) : Bool := '0' ≤ c && c ≤ '9'

/-- The four hexadecimal digits at the front of a text as a code. -/
def hexCode? : List Char → Option (Nat × List Char)
  | a :: b :: c :: d :: rest =>
    let value (c : Char) : Option Nat := hexValue? c.toLower
    match value a, value b, value c, value d with
    | some w, some x, some y, some z => some (((w * 16 + x) * 16 + y) * 16 + z, rest)
    | _, _, _, _ => none
  | _ => none

/-- The code that an escape with a letter stands for. -/
def escape? (c : Char) : Option Nat :=
  match c with
  | '"' => some 34
  | '\\' => some 92
  | '/' => some 47
  | 'b' => some 8
  | 'f' => some 12
  | 'n' => some 10
  | 'r' => some 13
  | 't' => some 9
  | _ => none

/-- Codes with each pair of surrogate halves joined to the code of its character. -/
def joinPairs : List Nat → List Nat
  | [] => []
  | [a] => [a]
  | a :: b :: rest =>
    if 0xD800 ≤ a && a < 0xDC00 && 0xDC00 ≤ b && b < 0xE000 then
      (0x10000 + (a - 0xD800) * 1024 + (b - 0xDC00)) :: joinPairs rest
    else a :: joinPairs (b :: rest)

/-- The codes of a text behind its opening quote, and what follows the closing one. Control characters have to be
escaped. The bound is the length of the text. -/
def codes : Nat → List Char → Except Error (List Nat × List Char)
  | 0, _ => .error .malformed
  | n + 1, cs =>
    let more (code : Nat) (rest : List Char) : Except Error (List Nat × List Char) :=
      (codes n rest).map fun (codes, rest) => (code :: codes, rest)
    match cs with
    | [] => .error .malformed
    | '"' :: rest => .ok ([], rest)
    | '\\' :: 'u' :: rest =>
      match hexCode? rest with
      | some (code, rest) => more code rest
      | none => .error .malformed
    | '\\' :: c :: rest =>
      match escape? c with
      | some code => more code rest
      | none => .error .malformed
    | c :: rest => if c.toNat < 0x20 || c == '\\' then .error .malformed else more c.toNat rest

/-- The value of a text with given codes. -/
def textOf (cs : List Nat) : Value :=
  let cs := joinPairs cs
  .ofCodes cs

/-- The figures at the front of a text, if there are any. -/
def figures? (cs : List Char) : Option (List Char × List Char) :=
  let ds := cs.takeWhile isFigure
  if ds.isEmpty then none else some (ds, cs.drop ds.length)

/-- The fraction at the front of a text with its point. -/
def fraction : List Char → List Char × List Char
  | '.' :: rest =>
    match figures? rest with
    | some (ds, rest) => ('.' :: ds, rest)
    | none => ([], '.' :: rest)
  | cs => ([], cs)

/-- The exponent at the front of a text with its letter. -/
def exponent (cs : List Char) : List Char × List Char :=
  match cs with
  | e :: rest =>
    if e == 'e' || e == 'E' then
      let (sign, digits) := match rest with
        | c :: more => if c == '+' || c == '-' then ([c], more) else ([], rest)
        | [] => ([], [])
      match figures? digits with
      | some (ds, rest) => (e :: sign ++ ds, rest)
      | none => ([], cs)
    else ([], cs)
  | [] => ([], [])

/-- The number at the front of a text. A zero in front takes no more figures. -/
def number (cs : List Char) : Except Error (Value × List Char) :=
  let (minus, body) := match cs with
    | '-' :: rest => (['-'], rest)
    | _ => ([], cs)
  match figures? body with
  | none => .error .malformed
  | some (ds, behind) =>
    let (whole, rest) := if ds.head? == some '0' then (['0'], body.drop 1) else (ds, behind)
    let (frac, rest) := fraction rest
    let (exp, rest) := exponent rest
    if frac.isEmpty && exp.isEmpty then
      match Integer.ofText (String.ofList (minus ++ whole)) with
      | .ok n => .ok (.int n, rest)
      | .error e => .error (.number e)
    else
      match Binary.ofText? (String.ofList (minus ++ whole ++ frac ++ exp)) with
      | some x => .ok (.float x, rest)
      | none => .error .malformed

/-- The words that are values. -/
def wordValues : List (List Char × Value) :=
  [("null".toList, .null), ("true".toList, .bool true), ("false".toList, .bool false),
    ("NaN".toList, .float (Float.ofBits 0x7FF8000000000000)),
    ("Infinity".toList, .float (Float.ofBits 0x7FF0000000000000)),
    ("-Infinity".toList, .float (Float.ofBits 0xFFF0000000000000))]

mutual

/-- The value at the front of a text, and what follows it; `levels` more lists and tables may be opened. The bound is
the length of the text. -/
def value (levels : Nat) : Nat → List Char → Except Error (Value × List Char)
  | 0, _ => .error .malformed
  | n + 1, cs =>
    match cs with
    | '"' :: rest => (codes rest.length.succ rest).map fun (cs, rest) => (textOf cs, rest)
    | '[' :: rest =>
      if levels = 0 then .error (.tooDeep false)
      else match skip rest with
        | ']' :: rest => .ok (.list [], rest)
        | rest => (items (levels - 1) n rest).map fun (vs, rest) => (.list vs, rest)
    | '\x7b' :: rest =>
      if levels = 0 then .error (.tooDeep true)
      else match skip rest with
        | '\x7d' :: rest => .ok (.table [], rest)
        | rest => (fields (levels - 1) n [] rest).map fun (ps, rest) => (.table ps, rest)
    | _ =>
      match wordValues.find? fun (word, _) => word.isPrefixOf cs with
      | some (word, v) => .ok (v, cs.drop word.length)
      | none => number cs

/-- The items of a list up to its closing bracket. -/
def items (levels : Nat) : Nat → List Char → Except Error (List Value × List Char)
  | 0, _ => .error .malformed
  | n + 1, cs => do
    let (v, rest) ← value levels n cs
    match skip rest with
    | ',' :: rest =>
      let (vs, rest) ← items levels n (skip rest)
      return (v :: vs, rest)
    | ']' :: rest => return ([v], rest)
    | _ => throw .malformed

/-- The fields of a table up to its closing brace, added to those already there. -/
def fields (levels : Nat) : Nat → List (Value × Value) → List Char → Except Error (List (Value × Value) × List Char)
  | 0, _, _ => .error .malformed
  | n + 1, got, cs =>
    match cs with
    | '"' :: rest => do
      let (key, rest) ← codes rest.length.succ rest
      match skip rest with
      | ':' :: rest =>
        let (v, rest) ← value levels n (skip rest)
        let got := Value.put (textOf key) v got
        match skip rest with
        | ',' :: rest => fields levels n got (skip rest)
        | '\x7d' :: rest => return (got, rest)
        | _ => throw .malformed
      | _ => throw .malformed
    | _ => .error .malformed

end

/-- Reads a text that is one value. -/
def ofText (s : String) : Except Error Value := do
  let cs := skip s.toList
  let (v, rest) ← value maxDepth (2 * cs.length + 2) cs
  if (skip rest).isEmpty then return v else throw .malformed

end Rehearsal.Json
