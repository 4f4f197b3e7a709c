import Rehearsal.Decimal.Binary

/-!
# Time and durations

Spans of time as they are counted and as they are written.
-/

/-!
## Time

Points in time and spans of it are counted in microseconds. Nothing here looks at a clock: time passes only where
something waits.
-/

namespace Rehearsal

/-- A point in time or a span of it, in microseconds. -/
abbrev Time := Nat

/-- A number of seconds as a span. What is not a positive number makes no span at all. -/
def Time.ofSeconds (seconds : Float) : Time :=
  let scaled := seconds * 1000000
  if scaled.isNaN || scaled < 1 then 0 else scaled.toUInt64.toNat

end Rehearsal

/-!
## Durations

A duration such as `500ms` or `1m30s`: an optional sign and one or more parts, each a decimal number directly
followed by a unit. Zero may be written without a unit. Blanks around the whole do not count, and digits of
any script do.

The value is a number of seconds. Each part is converted and multiplied on its own, and the products are added
from the left, all in binary floating point.
-/

namespace Rehearsal.Duration

/-- The units of a part. -/
inductive Scale where
  | nanosecond | microsecond | millisecond | second | minute | hour
  deriving DecidableEq, Repr, Inhabited

/-- The number of seconds in a unit. -/
def Scale.seconds : Scale → Float
  | .nanosecond => Binary.ofDecimal false 1 (-9)
  | .microsecond => Binary.ofDecimal false 1 (-6)
  | .millisecond => Binary.ofDecimal false 1 (-3)
  | .second => Binary.ofDecimal false 1 0
  | .minute => Binary.ofDecimal false 60 0
  | .hour => Binary.ofDecimal false 3600 0

/-- The unit at the front of a text, with the number of characters that spell it. Of two that fit, the longer
is meant. -/
def scale? : List Char → Option (Scale × Nat)
  | 'n' :: 's' :: _ => some (.nanosecond, 2)
  | 'u' :: 's' :: _ => some (.microsecond, 2)
  | '\u00b5' :: 's' :: _ => some (.microsecond, 2)
  | 'm' :: 's' :: _ => some (.millisecond, 2)
  | 's' :: _ => some (.second, 1)
  | 'm' :: _ => some (.minute, 1)
  | 'h' :: _ => some (.hour, 1)
  | _ => none

/-- A number and its unit: all digits, how many of them stand behind the point, and the unit. -/
structure Part where
  digits : List Nat
  places : Nat
  scale : Scale
  deriving DecidableEq, Repr, Inhabited

/-- The length of a part in seconds. -/
def Part.seconds (p : Part) : Float :=
  Binary.ofDecimal false (Integer.ofDigits 10 p.digits) (-p.places) * p.scale.seconds

/-- The values of the digits at the front of a text. -/
def leadingDigits (cs : List Char) : List Nat := (cs.takeWhile isDigit).filterMap digitValue?

/-- The digits of a decimal number at the front of a text, the number of those behind the point, and the
number of characters it takes. -/
def number? (cs : List Char) : Option (List Nat × Nat × Nat) :=
  let whole := leadingDigits cs
  match cs.drop whole.length with
  | '.' :: rest =>
    let part := leadingDigits rest
    if whole.isEmpty && part.isEmpty then none
    else some (whole ++ part, part.length, whole.length + 1 + part.length)
  | _ => if whole.isEmpty then none else some (whole, 0, whole.length)

/-- The part at the front of a text, with the number of characters it takes. -/
def part? (cs : List Char) : Option (Part × Nat) :=
  match number? cs with
  | none => none
  | some (digits, places, width) =>
    match scale? (cs.drop width) with
    | none => none
    | some (scale, more) => some (⟨digits, places, scale⟩, width + more)

/-- All parts of a text, or nothing when something else stands before, between or behind them. -/
def parts? : List Char → Option (List Part)
  | [] => some []
  | c :: rest =>
    match part? (c :: rest) with
    | none => none
    | some (p, width) => (parts? (rest.drop (width - 1))).map (p :: ·)
termination_by cs => cs.length
decreasing_by simp only [List.length_drop, List.length_cons]; omega

/-- The parts of a signed duration, and whether it is negative. A zero without a unit has no parts. -/
def signedParts? (s : String) : Option (Bool × List Part) :=
  let cs := trimChars s.toList
  if cs == ['0'] || cs == ['+', '0'] || cs == ['-', '0'] then some (false, [])
  else
    let (negative, body) := Integer.sign cs
    if body.isEmpty then none else (parts? body).map (negative, ·)

/-- The sum of parts in seconds. -/
def total (ps : List Part) : Float := ps.foldl (fun sum p => sum + p.seconds) (Float.ofBits 0)

/-- What is said of a text that is no duration. -/
def malformed (s : String) : String := s!"invalid duration {Quoted.text s}"

/-- Reads a duration in seconds. -/
def ofText? (s : String) : Option Float :=
  (signedParts? s).map fun (negative, ps) =>
    (if negative then Binary.ofDecimal true 1 0 else Binary.ofDecimal false 1 0) * total ps

end Rehearsal.Duration
