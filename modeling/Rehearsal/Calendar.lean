/-!
# Dates and times

Calendar dates and times of day as configuration files write them, and their texts: the plain one, with a blank
between date and time, and the one a value has inside a list, which spells out the parts.
-/

namespace Rehearsal

/-- A day. -/
structure Day where
  year : Nat
  month : Nat
  day : Nat
  deriving DecidableEq, Repr, Inhabited

/-- A time of day, to the microsecond. -/
structure Clock where
  hour : Nat
  minute : Nat
  second : Nat
  micro : Nat
  deriving DecidableEq, Repr, Inhabited

/-- A day with a time, and the distance to universal time in minutes if it is known. -/
structure Moment where
  day : Day
  clock : Clock
  offset : Option Int
  deriving DecidableEq, Repr, Inhabited

namespace Calendar

/-- Whether a year has a leap day. -/
def isLeap (year : Nat) : Bool := year % 4 == 0 && (year % 100 != 0 || year % 400 == 0)

/-- The number of days of a month. -/
def monthLength (year month : Nat) : Nat :=
  if month = 2 then if isLeap year then 29 else 28
  else if month = 4 ∨ month = 6 ∨ month = 9 ∨ month = 11 then 30
  else 31

/-- Why numbers are no day or time. -/
inductive Error where
  | year (n : Nat)
  | month | day | hour | minute | second
  | offset (minutes : Int)
  deriving DecidableEq, Repr, Inhabited

/-- A length of time inside a list: its days and seconds, the seconds counted forward. -/
def spanText (minutes : Int) : String :=
  let days := minutes.fdiv 1440
  let seconds := (minutes.fmod 1440) * 60
  if days == 0 && seconds == 0 then "datetime.timedelta(0)"
  else
    let parts := (if days == 0 then [] else [s!"days={days}"]) ++
      (if seconds == 0 then [] else [s!"seconds={seconds}"])
    "datetime.timedelta(" ++ ", ".intercalate parts ++ ")"

/-- The wording of the error. -/
def Error.message : Error → String
  | .year n => s!"year {n} is out of range"
  | .month => "month must be in 1..12"
  | .day => "day is out of range for month"
  | .hour => "hour must be in 0..23"
  | .minute => "minute must be in 0..59"
  | .second => "second must be in 0..59"
  | .offset minutes =>
    "offset must be a timedelta strictly between -timedelta(hours=24) and timedelta(hours=24), not " ++
      spanText minutes ++ "."

/-- A day of given numbers. -/
def day? (year month day : Nat) : Except Error Day :=
  if year < 1 ∨ 9999 < year then .error (.year year)
  else if month < 1 ∨ 12 < month then .error .month
  else if day < 1 ∨ monthLength year month < day then .error .day
  else .ok ⟨year, month, day⟩

/-- A time of given numbers. -/
def clock? (hour minute second micro : Nat) : Except Error Clock :=
  if 23 < hour then .error .hour
  else if 59 < minute then .error .minute
  else if 59 < second then .error .second
  else .ok ⟨hour, minute, second, micro⟩

/-- The number of days of the months of a year in front of one. -/
def daysBefore (year month : Nat) : Nat :=
  ((List.range month).drop 1).foldl (fun sum m => sum + monthLength year m) 0

/-- The number of days from the first one of the first year to a day. -/
def dayNumber (d : Day) : Nat :=
  let years := d.year - 1
  365 * years + years / 4 - years / 100 + years / 400 + daysBefore d.year d.month + (d.day - 1)

/-- A number with at least `width` digits. -/
def padded (width n : Nat) : String :=
  let ds := Nat.toDigits 10 n
  String.ofList (List.replicate (width - ds.length) '0' ++ ds)

end Calendar

open Calendar

/-- The text of a day. -/
def Day.text (d : Day) : String := s!"{padded 4 d.year}-{padded 2 d.month}-{padded 2 d.day}"

/-- The text of a time. -/
def Clock.text (c : Clock) : String :=
  s!"{padded 2 c.hour}:{padded 2 c.minute}:{padded 2 c.second}" ++
    if c.micro = 0 then "" else "." ++ padded 6 c.micro

/-- The text of a distance to universal time. -/
def Calendar.offsetText (minutes : Int) : String :=
  let n := minutes.natAbs
  (if minutes < 0 then "-" else "+") ++ s!"{padded 2 (n / 60)}:{padded 2 (n % 60)}"

/-- The text of a moment. -/
def Moment.text (m : Moment) : String :=
  m.day.text ++ " " ++ m.clock.text ++
    match m.offset with
    | some minutes => offsetText minutes
    | none => ""

/-- The microseconds from the beginning of the first year to a moment, by its own clock. -/
def Moment.reading (m : Moment) : Int :=
  let c := m.clock
  (((dayNumber m.day * 24 + c.hour) * 60 + c.minute) * 60 + c.second) * 1000000 + c.micro

/-- Whether two moments are the same. If the distances to universal time are known, that is a matter of the instant; a
moment whose distance is not known is never the same as one whose distance is. -/
def Moment.isSame (a b : Moment) : Bool :=
  match a.offset, b.offset with
  | none, none => a == b
  | some m, some n => a.reading - m * 60000000 == b.reading - n * 60000000
  | _, _ => false

/-- The numbers of a time, the ones at the end left out when they are zero. -/
def Clock.parts (c : Clock) : List Nat :=
  [c.hour, c.minute] ++
    if c.micro ≠ 0 then [c.second, c.micro] else if c.second ≠ 0 then [c.second] else []

/-- A day inside a list. -/
def Day.shown (d : Day) : String := s!"datetime.date({d.year}, {d.month}, {d.day})"

/-- A time inside a list. -/
def Clock.shown (c : Clock) : String := "datetime.time(" ++ ", ".intercalate (c.parts.map toString) ++ ")"

/-- A moment inside a list. -/
def Moment.shown (m : Moment) : String :=
  let numbers := [m.day.year, m.day.month, m.day.day] ++ m.clock.parts
  let zone := match m.offset with
    | none => ""
    | some 0 => ", tzinfo=datetime.timezone.utc"
    | some minutes => s!", tzinfo=datetime.timezone({spanText minutes})"
  "datetime.datetime(" ++ ", ".intercalate (numbers.map toString) ++ zone ++ ")"

end Rehearsal
