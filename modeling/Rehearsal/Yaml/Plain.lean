import Rehearsal.Text.Codes
import Rehearsal.Text.Line

/-!
# Kinds of plain scalars

What a scalar without quotes and without a tag is depends on how it looks: a truth value, a number, a moment in time,
nothing, or one of two marks of mappings. Everything else is a text. A newline at the end of a scalar makes no
difference to its kind.
-/

namespace Rehearsal.Yaml

/-- The kinds of nodes that have a meaning. -/
inductive Tag where
  | null | bool | int | float | binary | timestamp | omap | pairs | set | str | seq | map | merge | value
  /-- Any other, which has none. -/
  | other
  deriving DecidableEq, Repr, Inhabited

namespace Tag

/-- The tags by the last part of their names. -/
def names : List (String × Tag) :=
  [("null", .null), ("bool", .bool), ("int", .int), ("float", .float), ("binary", .binary),
    ("timestamp", .timestamp), ("omap", .omap), ("pairs", .pairs), ("set", .set), ("str", .str), ("seq", .seq),
    ("map", .map), ("merge", .merge), ("value", .value)]

/-- What the names of the tags begin with. -/
def start : String := "tag:yaml.org,2002:"

/-- The tag of a full name. -/
def ofText (s : String) : Tag := ((names.map fun (name, t) => (start ++ name, t)).lookup s).getD .other

end Tag

/-- The numbers a moment is written in. Without an hour it is a day. -/
structure Timestamp where
  year : Nat
  month : Nat
  day : Nat
  /-- Hour, minute, second, and the digits behind the point. -/
  time : Option (Nat × Nat × Nat × List Char)
  /-- The distance to universal time in minutes. -/
  offset : Option Int
  deriving DecidableEq, Repr, Inhabited

namespace Plain

/-- The value of decimal digits. -/
def number (ds : List Char) : Nat := ds.foldl (fun n c => 10 * n + (c.toNat - 48)) 0

/-- Whether a character is a decimal digit or an underscore. -/
def isLoose (c : Char) : Bool := c.isDigit || c == '_'

/-- Whether characters are digits and underscores that begin with a digit. -/
def isLooseNumber : List Char → Bool
  | c :: rest => c.isDigit && rest.all isLoose
  | [] => false

/-- Characters without a sign at the front. -/
def dropSign : List Char → List Char
  | c :: rest => if c == '-' || c == '+' then rest else c :: rest
  | [] => []

/-- Whether characters are a digit of base sixty: a number below sixty of one or two digits. -/
def isSixtieth : List Char → Bool
  | [a] => a.isDigit
  | [a, b] => '0' ≤ a && a ≤ '5' && b.isDigit
  | _ => false

/-- The words for truth values, in lower case. -/
def truths : List (String × Bool) :=
  [("yes", true), ("no", false), ("true", true), ("false", false), ("on", true), ("off", false)]

/-- A word in the three ways it may be written: in small letters, in capitals, or with a capital in front. -/
def spellings (word : String) : List String :=
  [word, String.ofList (word.toList.map Char.toUpper),
    String.ofList (match word.toList with | c :: rest => c.toUpper :: rest | [] => [])]

/-- Whether a scalar is a truth value. -/
def isBool (s : String) : Bool := (truths.flatMap fun (word, _) => spellings word).contains s

/-- Whether a scalar is nothing. -/
def isNull (s : String) : Bool := s.isEmpty || s == "~" || (spellings "null").contains s

/-- Whether characters are an exponent of ten, which has a sign; no characters are one too. -/
def isExponent : List Char → Bool
  | [] => true
  | e :: sign :: ds => (e == 'e' || e == 'E') && (sign == '-' || sign == '+') && !ds.isEmpty && ds.all Char.isDigit
  | _ => false

/-- Whether a scalar is a number with a point. -/
def isFloat (cs : List Char) : Bool :=
  let body := dropSign cs
  let hasSign := body.length < cs.length
  let (whole, rest) := body.span isLoose
  match rest with
  | '.' :: more =>
    if whole.isEmpty then
      let name := String.ofList more
      (spellings "inf").contains name ||
        (!hasSign && (["nan", "NaN", "NAN"].contains name ||
          (more.head?.any Char.isDigit && isExponent (more.dropWhile isLoose))))
    else whole.head?.any Char.isDigit && isExponent (more.dropWhile isLoose)
  | ':' :: more =>
    let parts := Line.splitOn ':' more
    let (last, places) := (parts.getLast?.getD []).span (· != '.')
    isLooseNumber whole && parts.dropLast.all isSixtieth && isSixtieth last &&
      !places.isEmpty && (places.drop 1).all isLoose
  | _ => false

/-- Whether a scalar is a whole number. -/
def isInt (cs : List Char) : Bool :=
  let filled (p : Char → Bool) (ds : List Char) : Bool := !ds.isEmpty && ds.all p
  let isHex (c : Char) : Bool := c.isDigit || ('a' ≤ c && c ≤ 'f') || ('A' ≤ c && c ≤ 'F')
  match dropSign cs with
  | ['0'] => true
  | '0' :: 'b' :: ds => filled (fun c => c == '0' || c == '1' || c == '_') ds
  | '0' :: 'x' :: ds => filled (fun c => isHex c || c == '_') ds
  | '0' :: ds => ds.all fun c => ('0' ≤ c && c ≤ '7') || c == '_'
  | body =>
    match Line.splitOn ':' body with
    | whole :: groups => isLooseNumber whole && groups.all isSixtieth
    | [] => false

/-- Decimal digits of which there are at least and at most so many, and what follows them. -/
def digits? (least most : Nat) (cs : List Char) : Option (Nat × List Char) :=
  let ds := (cs.take most).takeWhile Char.isDigit
  if ds.length < least then none else some (number ds, cs.drop ds.length)

/-- A character that has to come next. -/
def expect? (c : Char) : List Char → Option (List Char)
  | d :: rest => if d == c then some rest else none
  | [] => none

/-- Whether a character is a blank within a line. -/
def isBlankChar (c : Char) : Bool := c == ' ' || c == '\t'

/-- The distance to universal time at the end of a moment: nothing, or `Z`, or a sign with hours and minutes. -/
def zone? (cs : List Char) : Option (Option Int) :=
  match cs.dropWhile isBlankChar with
  | [] => if cs.isEmpty then some none else none
  | ['Z'] => some (some 0)
  | c :: rest => do
    if !(c == '-' || c == '+') then none
    let (hours, rest) ← digits? 1 2 rest
    let minutes ← match rest with
      | [] => some 0
      | rest => do
        let (minutes, rest) ← digits? 2 2 (← expect? ':' rest)
        if rest.isEmpty then some minutes else none
    let total : Int := 60 * hours + minutes
    some (some (if c == '-' then -total else total))

/-- What stands between a day and a time: a `T`, or blanks. -/
def timeMark? : List Char → Option (List Char)
  | [] => none
  | c :: rest =>
    if c == 'T' || c == 't' then some rest
    else if isBlankChar c then some (rest.dropWhile isBlankChar)
    else none

/-- Characters without a newline at their end, unless they are nothing else. -/
def dropNewline (cs : List Char) : List Char :=
  match cs.reverse with
  | '\n' :: c :: rest => (c :: rest).reverse
  | _ => cs

/-- Reads a moment or a day that ends with the characters. -/
def wholeTimestamp? (cs : List Char) : Option Timestamp := do
  let (year, cs) ← digits? 4 4 cs
  let (month, cs) ← digits? 1 2 (← expect? '-' cs)
  let (day, cs) ← digits? 1 2 (← expect? '-' cs)
  if cs.isEmpty then return ⟨year, month, day, none, none⟩
  let (hour, cs) ← digits? 1 2 (← timeMark? cs)
  let (minute, cs) ← digits? 2 2 (← expect? ':' cs)
  let (second, cs) ← digits? 2 2 (← expect? ':' cs)
  let (places, cs) := match cs with
    | '.' :: rest => (rest.takeWhile Char.isDigit, rest.dropWhile Char.isDigit)
    | _ => ([], cs)
  return ⟨year, month, day, some (hour, minute, second, places), ← zone? cs⟩

/-- Reads a moment or a day, behind which a newline may stand. -/
def timestamp? (cs : List Char) : Option Timestamp := wholeTimestamp? (dropNewline cs)

/-- Whether a scalar is a moment or a day. A day alone has two digits for its month and two for itself. -/
def isTimestamp (cs : List Char) : Bool :=
  match wholeTimestamp? cs with
  | some t => t.time.isSome || cs.length == 10
  | none => false

/-- The tag of a plain scalar. -/
def tag (text : String) : Tag :=
  let cs := dropNewline text.toList
  let s := String.ofList cs
  if isBool s then .bool
  else if isFloat cs then .float
  else if isInt cs then .int
  else if s == "<<" then .merge
  else if isNull s then .null
  else if isTimestamp cs then .timestamp
  else if s == "=" then .value
  else if s == "!" || s == "&" || s == "*" then .other
  else .str

/-- The tag of a plain scalar given by its codes. With half of a surrogate pair it is a text. -/
def tagOfCodes (codes : Codes) : Tag :=
  match codes.text? with
  | some s => tag s
  | none => .str

end Plain

end Rehearsal.Yaml
