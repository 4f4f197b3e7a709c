import Rehearsal.Calendar
import Rehearsal.Decimal.Binary
import Rehearsal.Text.Quoted

/-!
# Values of configuration

What a configuration file or a script's front matter can hold, with two texts: `text?` is the value as it is put
into a variable, where a text is itself, and `shown?` is how a value looks inside a list or a table, where texts
have quotes. A whole number with too many digits has no text, and neither has a text that holds half of a surrogate
pair, except where it is shown with quotes.

A list or a table may be within itself. Such a value has no end; where it comes to itself again stands `around`.
-/

namespace Rehearsal

/-- A value. Tables keep their keys in order; a key may be any value that does not contain others, or a list of
such. -/
inductive Value where
  | null
  | bool (b : Bool)
  | int (n : Int)
  | float (x : Float)
  | text (s : String)
  /-- A text given by its codes, because one of them is half of a surrogate pair. -/
  | codes (cs : Codes)
  | bytes (d : Bytes)
  | day (d : Day)
  | clock (c : Clock)
  | moment (m : Moment)
  | list (items : List Value)
  | tuple (items : List Value)
  | set (items : List Value)
  | table (items : List (Value × Value))
  /-- The list that this value is within, or the table if it is one. -/
  | around (isTable : Bool)
  deriving Repr, Inhabited

namespace Value

/-- The name of a value's kind, as messages call it. -/
def kind : Value → String
  | .null => "NoneType"
  | .bool _ => "bool"
  | .int _ => "int"
  | .float _ => "float"
  | .text _ | .codes _ => "str"
  | .bytes _ => "bytes"
  | .day _ => "date"
  | .clock _ => "time"
  | .moment _ => "datetime"
  | .list _ | .around false => "list"
  | .tuple _ => "tuple"
  | .set _ => "set"
  | .table _ | .around true => "dict"

/-- The value that is a text of given codes. -/
def ofCodes (cs : Codes) : Value :=
  match cs.text? with
  | some s => .text s
  | none => .codes cs

/-- Texts between commas, if all are there. -/
def joined? (open' close : String) (parts : List (Option String)) : Option String :=
  if parts.all Option.isSome then
    some (open' ++ ", ".intercalate (parts.filterMap id) ++ close)
  else none

mutual

/-- A value inside a list or a table. -/
def shown? : Value → Option String
  | .null => some "None"
  | .bool b => some (if b then "True" else "False")
  | .int n => Integer.text? n
  | .float x => some (Binary.shortest x)
  | .text s => some (Quoted.text s)
  | .codes cs => some (Quoted.codes cs)
  | .bytes d => some (Quoted.bytes d)
  | .day d => some d.shown
  | .clock c => some c.shown
  | .moment m => some m.shown
  | .list items => joined? "[" "]" (shownAll? items)
  | .tuple [item] => (shown? item).map fun s => "(" ++ s ++ ",)"
  | .tuple items => joined? "(" ")" (shownAll? items)
  | .set [] => some "set()"
  | .set items => joined? "\x7b" "\x7d" (shownAll? items)
  | .table items => joined? "\x7b" "\x7d" (shownPairs? items)
  | .around isTable => some (if isTable then "\x7b...\x7d" else "[...]")

/-- Values inside a list. -/
def shownAll? : List Value → List (Option String)
  | [] => []
  | v :: rest => shown? v :: shownAll? rest

/-- Pairs inside a table. -/
def shownPairs? : List (Value × Value) → List (Option String)
  | [] => []
  | (k, v) :: rest =>
    (match shown? k, shown? v with
      | some a, some b => some (a ++ ": " ++ b)
      | _, _ => none) :: shownPairs? rest

end

/-- A value as text. -/
def text? : Value → Option String
  | .text s => some s
  | .codes _ => none
  | .day d => some d.text
  | .clock c => some c.text
  | .moment m => some m.text
  | v => v.shown?

/-- The number a value is, if it is one; the two truth values count as one and zero. -/
def number? : Value → Option (Int ⊕ Float)
  | .bool b => some (.inl (if b then 1 else 0))
  | .int n => some (.inl n)
  | .float x => some (.inr x)
  | _ => none

/-- Whether a whole number and a float are the same number. -/
def sameNumber (n : Int) (x : Float) : Bool :=
  let bits : Nat := x.toBits.toNat % Integer.twoTo 63
  if 2047 * Integer.twoTo 52 ≤ bits then false
  else
    let f := Binary.fraction x
    let (num, den) := Binary.scale f.mantissa f.exponent
    (if Binary.isNegative x then -(num : Int) else num) == n * den

mutual

/-- Whether two values are the same key. Numbers are the same by their size, whatever their kind, and moments if they
are the same instant. What is no number is one key. -/
def sameKey : Value → Value → Bool
  | .null, .null => true
  | .text a, .text b => a == b
  | .codes a, .codes b => a == b
  | .bytes a, .bytes b => a == b
  | .day a, .day b => a == b
  | .clock a, .clock b => a == b
  | .moment a, .moment b => a.isSame b
  | .tuple a, .tuple b => sameKeys a b
  | a, b =>
    match a.number?, b.number? with
    | some (.inl m), some (.inl n) => m == n
    | some (.inl m), some (.inr x) => sameNumber m x
    | some (.inr x), some (.inl n) => sameNumber n x
    | some (.inr x), some (.inr y) => x == y || (x.isNaN && y.isNaN)
    | _, _ => false

/-- Whether two lists of values are the same keys. -/
def sameKeys : List Value → List Value → Bool
  | [], [] => true
  | a :: as, b :: bs => sameKey a b && sameKeys as bs
  | _, _ => false

end

/-- Puts a value under a key. A key that is there keeps its place and its spelling. -/
def put (key value : Value) : List (Value × Value) → List (Value × Value)
  | [] => [(key, value)]
  | (k, v) :: rest => if sameKey k key then (k, value) :: rest else (k, v) :: put key value rest

/-- The value under a key that is a text. -/
def get? (key : String) (items : List (Value × Value)) : Option Value :=
  (items.find? fun (k, _) => sameKey k (.text key)).map (·.2)

end Value

end Rehearsal
