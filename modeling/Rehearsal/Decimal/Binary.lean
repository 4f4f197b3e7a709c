import Rehearsal.Decimal.Integer

/-!
# Binary floating-point numbers and decimal text

Decimal text to the nearest number of 64 bits and back, by exact arithmetic on natural numbers. `nearest`
rounds a quotient, ties to even; `fraction` gives a number back as a quotient. Text is the shortest that
reads back as the same number, positional for exponents from -4 to 15, or has a fixed number of places.
-/

namespace Rehearsal.Binary

open Integer (twoTo tenTo)

/-- A quotient rounded to the nearest whole number, ties to even. A zero divisor gives zero. -/
def roundDiv (num den : Nat) : Nat :=
  let q := num / den
  let twice := 2 * (num % den)
  if twice < den then q
  else if den < twice then q + 1
  else q + q % 2

/-- The exponent of the leading bit of a positive quotient. -/
def leadingExponent (num den : Nat) : Int :=
  let e : Int := (Nat.log2 num : Int) - (Nat.log2 den : Int)
  -- The estimate is right or one too high.
  if (if 0 ≤ e then num < den * twoTo e.toNat else num * twoTo (-e).toNat < den) then e - 1 else e

/-- The bits of the positive number nearest to a quotient. A quotient past the greatest number gives the bits
of infinity. -/
def nearestBits (num den : Nat) : Nat :=
  if num = 0 then 0
  else
    let q := max (leadingExponent num den - 52) (-1074)
    let m := if 0 ≤ q then roundDiv num (den * twoTo q.toNat) else roundDiv (num * twoTo (-q).toNat) den
    let bits := if m < twoTo 52 then m else (q + 1074).toNat * twoTo 52 + m
    min bits (2047 * twoTo 52)

/-- The number nearest to a quotient, with a sign. -/
def nearest (negative : Bool) (num den : Nat) : Float :=
  let bits := nearestBits num den
  Float.ofBits (if negative then bits + twoTo 63 else bits).toUInt64

/-- The number nearest to `m` times a power of ten. Powers so great or small that only infinity or zero can
come out are not computed. -/
def ofDecimal (negative : Bool) (m : Nat) (exponent : Int) : Float :=
  let size : Int := ((Nat.log2 m * 30103 / 100000 : Nat) : Int) + exponent
  if m = 0 then nearest negative 0 1
  else if 400 < size then nearest negative (twoTo 1025) 1
  else if size < -400 then nearest negative 0 1
  else if 0 ≤ exponent then nearest negative (m * tenTo exponent.toNat) 1
  else nearest negative m (tenTo (-exponent).toNat)

/-- The number nearest to a whole number, or nothing when that lies past the greatest number. -/
def ofInt? (n : Int) : Option Float :=
  if nearestBits n.natAbs 1 = 2047 * twoTo 52 then none else some (nearest (n < 0) n.natAbs 1)

/-- The sign bit of a number. -/
def isNegative (x : Float) : Bool := twoTo 63 ≤ x.toBits.toNat

/-- The absolute value of a finite number as a quotient, with the exponent of its last bit and whether the
number below it lies half as far as the one above. -/
structure Fraction where
  /-- The significant bits as a whole number. -/
  mantissa : Nat
  /-- The weight of the last of them, as a power of two. -/
  exponent : Int
  /-- Whether this is the least number of its binade, with a closer neighbour below. -/
  atEdge : Bool
  deriving Repr, Inhabited

/-- Takes a finite number apart. -/
def fraction (x : Float) : Fraction :=
  let bits : Nat := x.toBits.toNat % twoTo 63
  let e : Nat := bits / twoTo 52
  let m : Nat := bits % twoTo 52
  if e = 0 then ⟨m, -1074, false⟩ else ⟨m + twoTo 52, (e : Int) - 1075, m = 0 && 1 < e⟩

/-- Numerator and denominator of `m` times a power of two. -/
def scale (m : Nat) (exponent : Int) : Nat × Nat :=
  if 0 ≤ exponent then (m * twoTo exponent.toNat, 1) else (m, twoTo (-exponent).toNat)

/-- Digits that stand for a positive number, and the power of ten of the place before the first of them. -/
structure Digits where
  digits : Nat
  count : Nat
  point : Int
  deriving Repr, Inhabited

/-- The number of decimal digits of a natural number. -/
def digitCount (n : Nat) : Nat := (Nat.toDigits 10 n).length

/-- Whether `d` times a power of ten lies among the quotients that round to a number. All are given over one
denominator: the bounds as numerators, and whether they themselves belong. -/
def within (low high : Nat) (closed : Bool) (x : Nat) : Bool :=
  if closed then low ≤ x && x ≤ high else low < x && x < high

/-- The shortest digits of a positive finite number that read back as it; of several the nearest. The search
goes through the numbers of digits, `left` of which remain to be tried, and tests the two neighbours of the
number on each decimal grid. -/
def shortestFrom (f : Fraction) (top : Int) : Nat → Nat → Digits
  | 0, count => ⟨0, count, 0⟩
  | left + 1, count =>
    -- Over the denominator of four times the last bit the bounds are whole numbers.
    let (num, den) := scale (4 * f.mantissa) (f.exponent - 2)
    let (above, _) := scale 2 (f.exponent - 2)
    let (below, _) := scale (if f.atEdge then 1 else 2) (f.exponent - 2)
    -- One step of the grid is a power of ten.
    let place := top - count
    let up := if place < 0 then tenTo (-place).toNat else 1
    let step := (if 0 ≤ place then tenTo place.toNat else 1) * den
    let x := num * up
    let d := x / step
    let closed := f.mantissa % 2 == 0
    let low := (num - below) * up
    let high := (num + above) * up
    let lower := within low high closed (d * step)
    let upper := within low high closed ((d + 1) * step)
    if lower || upper then
      let takeUpper := upper && (!lower || step < 2 * (x - d * step) ||
        (step == 2 * (x - d * step) && d % 2 == 1))
      let best := if takeUpper then d + 1 else d
      if best = tenTo count then ⟨best / 10, count, top + 1⟩ else ⟨best, count, top⟩
    else shortestFrom f top left (count + 1)

/-- The place of the first digit of a positive quotient: the number of digits before its point. -/
def pointPlace (num den : Nat) : Int :=
  if den ≤ num then digitCount (num / den)
  else
    -- The inverse has as many digits as there are places up to the first that is not zero, or one more when
    -- the quotient is a power of ten.
    let places := digitCount (den / num)
    if num * tenTo (places - 1) < den then 1 - places else 2 - places

/-- The shortest digits of a positive finite number. -/
def shortestDigits (x : Float) : Digits :=
  let f := fraction x
  let (num, den) := scale f.mantissa f.exponent
  shortestFrom f (pointPlace num den) 17 1

/-- Digits without zeros at the end, but at least one digit. -/
def trimZeros (ds : List Char) : List Char :=
  match (ds.reverse.dropWhile (· == '0')).reverse with
  | [] => ['0']
  | trimmed => trimmed

/-- The text of digits with a point in its place, or with an exponent when the point lies far off. -/
def layout (ds : List Char) (point : Int) : List Char :=
  if -4 < point && point ≤ 16 then
    if point ≤ 0 then '0' :: '.' :: (List.replicate (-point).toNat '0' ++ ds)
    else
      let whole := ds.take point.toNat ++ List.replicate (point.toNat - ds.length) '0'
      let rest := ds.drop point.toNat
      whole ++ '.' :: (if rest.isEmpty then ['0'] else rest)
  else
    let exponent := point - 1
    let digits := Nat.toDigits 10 exponent.natAbs
    let padded := if digits.length < 2 then '0' :: digits else digits
    let front := match ds with
      | [] => []
      | d :: [] => [d]
      | d :: more => d :: '.' :: more
    front ++ 'e' :: (if exponent < 0 then '-' else '+') :: padded

/-- The shortest text of a number. -/
def shortest (x : Float) : String :=
  let bits : Nat := x.toBits.toNat % twoTo 63
  let body : List Char :=
    if 2047 * twoTo 52 < bits then "nan".toList
    else
      let text :=
        if bits = 2047 * twoTo 52 then "inf".toList
        else if bits = 0 then "0.0".toList
        else
          let d := shortestDigits x
          layout (trimZeros (Nat.toDigits 10 d.digits)) d.point
      if isNegative x then '-' :: text else text
  String.ofList body

/-- The text of a number with a fixed number of places behind the point, ties to even. -/
def fixed (places : Nat) (x : Float) : String :=
  let bits : Nat := x.toBits.toNat % twoTo 63
  if 2047 * twoTo 52 < bits then "nan"
  else
    let text :=
      if bits = 2047 * twoTo 52 then "inf"
      else
        let f := fraction x
        let (num, den) := scale f.mantissa f.exponent
        let n := roundDiv (num * tenTo places) den
        let ds := Nat.toDigits 10 n
        let ds := List.replicate (places + 1 - ds.length) '0' ++ ds
        String.ofList (ds.take (ds.length - places) ++
          if places = 0 then [] else '.' :: ds.drop (ds.length - places))
    if isNegative x then "-" ++ text else text

/-- Digits with an optional fraction behind a point, as all digits together and the count of those behind the
point, and what follows. At least one digit is needed. -/
def decimalDigits (cs : List Char) : Option (List Nat × Nat × List Char) :=
  let (whole, rest) := Integer.digits cs
  match rest with
  | '.' :: more =>
    let (part, left) := Integer.digits more
    if whole.isEmpty && part.isEmpty then none else some (whole ++ part, part.length, left)
  | _ => if whole.isEmpty then none else some (whole, 0, rest)

/-- An exponent at the front of a text, if one is written there in full. -/
def exponentPart (cs : List Char) : Int × List Char :=
  match cs with
  | c :: rest =>
    if c == 'e' || c == 'E' then
      let (negative, ds) := Integer.sign rest
      match Integer.digits ds with
      | ([], _) => (0, cs)
      | (ds, left) => (Integer.signed negative (Integer.ofDigits 10 ds), left)
    else (0, cs)
  | [] => (0, [])

/-- Whether two texts agree but for the case of ASCII letters. -/
def sameLetters (cs : List Char) (word : String) : Bool := cs.map Char.toLower == word.toList

/-- Reads a number between blanks: decimal digits with an optional fraction and exponent, or one of the words
for infinity and for no number. -/
def ofText? (s : String) : Option Float :=
  let (negative, cs) := Integer.sign (Integer.trimPadding s.toList)
  if sameLetters cs "inf" || sameLetters cs "infinity" then some (nearest negative (twoTo 1025) 1)
  else if sameLetters cs "nan" then some (Float.ofBits 0x7FF8000000000000)
  else match decimalDigits cs with
    | none => none
    | some (ds, places, rest) =>
      match exponentPart rest with
      | (e, []) => some (ofDecimal negative (Integer.ofDigits 10 ds) (e - places))
      | _ => none

end Rehearsal.Binary
