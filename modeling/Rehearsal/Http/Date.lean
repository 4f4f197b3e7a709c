import Rehearsal.Calendar
import Rehearsal.Decimal.Integer

/-!
# Dates of cookies

A date is a day, a month and a year, perhaps behind the day of the week and in front of a time and a zone. There is one
strict form, and many loose ones are read too. A year of less than four digits is the one nearest to the present.
-/

namespace Rehearsal.Http.Date

/-- Why a text is not even a wrong date. -/
inductive Error where
  /-- It has the strict form, with a month that there is none. -/
  | month
  /-- The year has more digits than a number may have. -/
  | tooLong
  deriving DecidableEq, Repr, Inhabited

/-- Whether a character is a blank of ASCII. -/
def isSpace (c : Char) : Bool := c == ' ' || (9 ≤ c.toNat && c.toNat ≤ 13)

/-- Whether a character is a letter, a digit or an underscore of ASCII. -/
def isWord (c : Char) : Bool := c.isAlphanum || c == '_'

/-- The names of the months. -/
def months : List String := ["jan", "feb", "mar", "apr", "may", "jun", "jul", "aug", "sep", "oct", "nov", "dec"]

/-- The names of the days of the week. -/
def weekdays : List String := ["sun", "mon", "tue", "wed", "thu", "fri", "sat"]

/-- Characters as a name in small letters. -/
def small (cs : List Char) : String := String.ofList (cs.map Char.toLower)

/-- The number of a month that is named. -/
def named? (cs : List Char) : Option Nat := (months.findIdx? (· == small cs)).map (· + 1)

/-- The number of a month that is named or numbered. -/
def month? (cs : List Char) : Option Nat :=
  match named? cs with
  | some n => some n
  | none => match Integer.ofText (String.ofList cs) with
    | .ok n => if 1 ≤ n && n ≤ 12 then some n.toNat else none
    | .error _ => none

/-- The number that figures are. -/
def number (cs : List Char) : Nat := Integer.ofDigits 10 (cs.map fun c => c.toNat - 48)

/-- The number of days from the first year to the beginning of 1970. -/
def epoch : Nat := 719162

/-- The year of a second since the beginning of 1970. -/
def yearOf (now : Int) : Nat :=
  let day := (now.fdiv 86400 + epoch).toNat
  let guess := day * 400 / 146097 + 1
  if day < Calendar.dayNumber ⟨guess, 1, 1⟩ then guess - 1
  else if Calendar.dayNumber ⟨guess + 1, 1, 1⟩ ≤ day then guess + 1
  else guess

/-- A year in full. A short one is at most fifty years from the present one, by its last two digits. -/
def fullYear (present year : Nat) : Int :=
  if 1000 ≤ year then year
  else
    let near : Int := (year + present : Nat) - (present % 100 : Nat)
    let gap : Int := (present % 100 : Nat) - year
    if gap.natAbs ≤ 50 then near else if 0 < gap then near + 100 else near - 100

/-- A time of day in numbers that were read. -/
structure Hours where
  hour : Nat
  minute : Nat
  second : Nat
  deriving DecidableEq, Repr, Inhabited

/-- The seconds since 1970 of a date in universal time, if its numbers are in their bounds. A month may have 31 days. -/
def seconds? (year : Int) (month day : Nat) (h : Hours) : Option Int :=
  if year < 1970 || 9999 < year || day < 1 || 31 < day || 24 < h.hour || 59 < h.minute || 61 < h.second then none
  else
    let days : Int := Calendar.dayNumber ⟨year.toNat, month, 1⟩ + day - 1 - epoch
    some (days * 86400 + ((h.hour * 60 + h.minute) * 60 + h.second : Nat))

/-- Whether characters have a shape: `W` stands for the capital of a day, `N` for that of a month, `a` for a small letter,
`0` for a figure, and any other character for itself. -/
def fits : List Char → List Char → Bool
  | [], [] => true
  | s :: shape, c :: cs =>
    (if s == 'W' then "SMTWF".toList.contains c
      else if s == 'N' then "JFMASOND".toList.contains c
      else if s == 'a' then c.isLower
      else if s == '0' then c.isDigit
      else s == c) && fits shape cs
  | _, _ => false

/-- The strict form. -/
def strictShape : List Char := "Waa, 00 Naa 0000 00:00:00 GMT".toList

/-- The part of a text that stands at a place. -/
def part (cs : List Char) (place count : Nat) : List Char := (cs.drop place).take count

/-- Reads a date in the strict form. -/
def strict (cs : List Char) : Except Error (Option Int) :=
  match named? (part cs 8 3) with
  | none => .error .month
  | some month => .ok (seconds? (number (part cs 12 4)) month (number (part cs 5 2))
      ⟨number (part cs 17 2), number (part cs 20 2), number (part cs 23 2)⟩)

/-- The figures at the front of a text, at least one and no more than a number of them, and the rest. -/
def figures? (most : Nat) (cs : List Char) : Option (List Char × List Char) :=
  let found := (cs.take most).takeWhile Char.isDigit
  if found.isEmpty then none else some (found, cs.drop found.length)

/-- What stands behind blanks, or behind one of some marks. -/
def afterGap? (marks : List Char) : List Char → Option (List Char)
  | [] => none
  | c :: rest => if isSpace c then some (rest.dropWhile isSpace) else if marks.contains c then some rest else none

/-- The number of two figures behind a colon, and the rest. -/
def afterColon? : List Char → Option (Nat × List Char)
  | ':' :: a :: b :: rest => if a.isDigit && b.isDigit then some (number [a, b], rest) else none
  | _ => none

/-- The time behind a gap, and the rest. -/
def hours? (cs : List Char) : Option (Hours × List Char) := do
  let (hour, cs) ← figures? 2 (← afterGap? [':'] cs)
  let (minute, cs) ← afterColon? cs
  match afterColon? cs with
  | some (second, cs) => return (⟨number hour, minute, second⟩, cs)
  | none => return (⟨number hour, minute, 0⟩, cs)

/-- The zone at the front of a text, if there is one, and the rest. A half of the day is no zone. -/
def zone (cs : List Char) : List Char × List Char :=
  let letters := cs.takeWhile Char.isAlpha
  let sign := cs.take (if cs.head? == some '-' || cs.head? == some '+' then 1 else 0)
  let digits := ((cs.drop sign.length).take 4).takeWhile Char.isDigit
  if small letters == "am" || small letters == "pm" then ([], cs)
  else if !letters.isEmpty then (letters, cs.drop letters.length)
  else if 2 ≤ digits.length then (sign ++ digits, cs.drop (sign.length + digits.length))
  else ([], cs)

/-- What stands behind a remark in parentheses. -/
def afterRemark (cs : List Char) : List Char :=
  match cs with
  | '(' :: behind =>
    let word := behind.takeWhile isWord
    match behind.drop word.length with
    | ')' :: rest => if word.isEmpty then cs else rest.dropWhile isSpace
    | _ => cs
  | _ => cs

/-- The seconds that a zone is ahead of universal time. No zone is that time. -/
def offset? (zone : List Char) : Option Int :=
  if zone.isEmpty || ["gmt", "utc", "ut", "z"].contains (small zone) then some 0
  else
    let digits := zone.filter Char.isDigit
    if digits.isEmpty then none
    else
      let hours := if digits.length = 3 then digits.take 1 else digits.take 2
      let n : Int := number hours * 3600 + number (digits.drop hours.length) * 60
      some (if zone.head? == some '-' then -n else n)

/-- A text without the day of the week at its front. -/
def withoutWeekday (cs : List Char) : List Char :=
  if weekdays.contains (small (cs.take 3)) then
    let cs := cs.dropWhile Char.isAlpha
    (if cs.head? == some ',' then cs.drop 1 else cs).dropWhile isSpace
  else cs

/-- What a loose date is made of. -/
structure Fields where
  day : List Char
  month : List Char
  year : List Char
  hours : Hours
  zone : List Char
  deriving DecidableEq, Repr, Inhabited

/-- The parts of a loose date. -/
def fields? (cs : List Char) : Option Fields := do
  let (day, cs) ← figures? 2 cs
  let cs ← afterGap? ['-', '/'] cs
  let month := cs.takeWhile isWord
  if month.isEmpty then none
  let cs ← afterGap? ['-', '/'] (cs.drop month.length)
  let (year, cs) ← figures? cs.length cs
  let (hours, cs) := (hours? cs).getD (⟨0, 0, 0⟩, cs)
  let (zone, cs) := zone (cs.dropWhile isSpace)
  if (afterRemark (cs.dropWhile isSpace)).isEmpty then return ⟨day, month, year, hours, zone⟩ else none

/-- Reads a date in a loose form, seen from a second since 1970. -/
def loose (now : Int) (cs : List Char) : Except Error (Option Int) :=
  match fields? (withoutWeekday (trimStart cs)) with
  | none => .ok none
  | some f =>
    if Integer.maxDigits < f.year.length then .error .tooLong
    else if 9999 < number f.year then .ok none
    else .ok do
      let t ← seconds? (fullYear (yearOf now) (number f.year)) (← month? f.month) (number f.day) f.hours
      return t - (← offset? f.zone)

/-- The seconds since 1970 that a text stands for, seen from one of them. -/
def ofText (now : Int) (s : String) : Except Error (Option Int) :=
  let cs := s.toList
  if fits strictShape cs then strict cs else loose now cs

end Rehearsal.Http.Date
