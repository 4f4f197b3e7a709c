import Rehearsal.Text.Kind
import Rehearsal.Text.Property
import Rehearsal.Text.Quoted

/-!
# Whole numbers in text

A whole number is written as digits of any script, with single underscores between them if wanted, behind an
optional sign, between blanks. In base two, eight and sixteen a zero and the letter of the base may stand in front
of the digits. Decimal numbers have a limit of length, both read and written.
-/

namespace Rehearsal.Integer

/-- The most decimal digits a number may have in text. -/
def maxDigits : Nat := 4300

/-- A power of two. -/
def twoTo (n : Nat) : Nat := Nat.pow 2 n

/-- A power of ten. -/
def tenTo (n : Nat) : Nat := Nat.pow 10 n

/-- Whether a character may surround a number: a blank, but not an information separator. -/
def isPadding (c : Char) : Bool := isBlank c && !(28 ≤ c.toNat && c.toNat ≤ 31)

/-- Characters without the padding around a number. -/
def trimPadding (cs : List Char) : List Char :=
  ((cs.dropWhile isPadding).reverse.dropWhile isPadding).reverse

/-- The values of digits with single underscores between them, as long as they go; `more` says whether a
digit has just been read, so that an underscore may follow. What does not belong to them is left over. -/
def digitsFrom (value? : Char → Option Nat) (more : Bool) : List Char → List Nat × List Char
  | [] => ([], [])
  | c :: rest =>
    match value? c with
    | some d => let (ds, left) := digitsFrom value? true rest; (d :: ds, left)
    | none =>
      if more && c == '_' && (rest.head?.bind value?).isSome then digitsFrom value? false rest
      else ([], c :: rest)

/-- The decimal digits at the front of a text, and the rest. -/
def digits (cs : List Char) : List Nat × List Char := digitsFrom digitValue? false cs

/-- The number that digits in a base make. -/
def ofDigits (base : Nat) (ds : List Nat) : Nat := ds.foldl (fun n d => base * n + d) 0

/-- A sign, if there is one, and what follows it: `true` stands for the minus. -/
def sign (cs : List Char) : Bool × List Char :=
  match cs with
  | c :: rest => if c == '-' then (true, rest) else if c == '+' then (false, rest) else (false, cs)
  | [] => (false, [])

/-- Why a text is no whole number. -/
inductive Error where
  /-- It is not written as one. -/
  | malformed (base : Nat) (text : Codes)
  /-- It has more digits than the limit allows. -/
  | tooLong (count : Nat)
  deriving DecidableEq, Repr, Inhabited

/-- The most characters of a malformed text, quotes included, that an error shows. -/
def shownLength : Nat := 200

/-- The wording of the error. -/
def Error.message : Error → String
  | .malformed base text =>
    let shown := String.ofList ((Quoted.codes text).toList.take shownLength)
    s!"invalid literal for int() with base {base}: {shown}"
  | .tooLong count =>
    s!"Exceeds the limit ({maxDigits} digits) for integer string conversion: value has {count} digits; " ++
      "use sys.set_int_max_str_digits() to increase the limit"

/-- A number with its sign. -/
def signed (negative : Bool) (n : Nat) : Int := if negative then -n else n

/-- The letter behind the zero that may mark digits of a base. -/
def baseLetter? (base : Nat) : Option Char :=
  if base = 2 then some 'b' else if base = 8 then some 'o' else if base = 16 then some 'x' else none

/-- What stands behind the mark of a base, or the text itself when there is no mark. One underscore may follow the
mark. -/
def dropBaseMark (base : Nat) : List Char → List Char
  | '0' :: c :: rest =>
    if baseLetter? base == some c.toLower then
      match rest with
      | '_' :: more => more
      | _ => rest
    else '0' :: c :: rest
  | cs => cs

/-- The value of a digit; in base sixteen letters are digits too. -/
def valueIn? (base : Nat) (c : Char) : Option Nat :=
  match digitValue? c with
  | some d => if d < base then some d else none
  | none => if base = 16 then hexValue? c.toLower else none

/-- The digits at the front of a text with their underscores, unless one of these stands first, last or beside
another. -/
def wellSpaced (value? : Char → Option Nat) (cs : List Char) : Bool :=
  let run := cs.takeWhile fun c => (value? c).isSome || c == '_'
  (digitsFrom value? false run).2.isEmpty

/-- Reads a number in base two, eight, ten or sixteen. Only in base ten the number of digits is limited, and the
limit is looked at before what follows the digits. -/
def ofCodes (base : Nat) (s : Codes) : Except Error Int :=
  let (negative, cs) := sign (trimPadding s.chars)
  let body := dropBaseMark base cs
  let (ds, left) := digitsFrom (valueIn? base) false body
  if ds.isEmpty || !wellSpaced (valueIn? base) body then .error (.malformed base s)
  else if base = 10 ∧ maxDigits < ds.length then .error (.tooLong ds.length)
  else if left.isEmpty then .ok (signed negative (ofDigits base ds))
  else .error (.malformed base s)

/-- Reads a number in base two, eight, ten or sixteen from a text. -/
def ofBase (base : Nat) (s : String) : Except Error Int := ofCodes base (Codes.ofText s)

/-- Reads a decimal number. -/
def ofText (s : String) : Except Error Int := ofBase 10 s

/-- Reads a number in base eight. -/
def ofOctal? (s : String) : Option Int := (ofBase 8 s).toOption

/-- The decimal text of a number, unless it would be longer than the limit. -/
def text? (n : Int) : Option String :=
  if tenTo maxDigits ≤ n.natAbs then none else some (toString n)

/-- What is said of a number whose text would be too long. -/
def tooLongToWrite : String :=
  s!"Exceeds the limit ({maxDigits} digits) for integer string conversion; " ++
    "use sys.set_int_max_str_digits() to increase the limit"

end Rehearsal.Integer
