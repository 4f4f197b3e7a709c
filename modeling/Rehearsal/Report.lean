import Rehearsal.Decimal.Binary
import Rehearsal.Table
import Rehearsal.Text.Case
import Rehearsal.Text.Line

/-!
# The report of a run

What a run shows on the terminal: a line for each finished script, its transcript when it failed or when all are
asked for, and a line of counts at the end. Labels are coloured where the terminal is one that shows colours.
-/

namespace Rehearsal

/-- How a script can end. -/
inductive Status where
  | pass | fail | skip
  deriving DecidableEq, Repr, Inhabited

/-- The label of an ending. -/
def Status.label : Status → String
  | .pass => "PASS"
  | .fail => "FAIL"
  | .skip => "SKIP"

namespace Report

/-- What is reported of a script. The label is that of a status; any other is shown and counted nowhere. -/
structure Entry where
  name : String
  label : String
  transcript : String
  seconds : Float
  deriving Repr, Inhabited

/-- Where a report is written: whether that is a terminal, its encoding if it has one, and the variables around. -/
structure Terminal where
  isTerminal : Bool
  encoding : Option String
  vars : Table String
  deriving Repr, Inhabited

/-- How a report is written. -/
structure Style where
  colors : Bool
  verbose : Bool
  deriving DecidableEq, Repr, Inhabited

/-- Whether a text occurs in another. -/
def occursIn (part whole : String) : Bool := (whole.splitOn part).length > 1

/-- Whether a terminal shows colours. A variable that is set to nothing counts as not set. -/
def Terminal.showsColors (t : Terminal) : Bool :=
  let value (key : String) : String := (Table.get? key t.vars).getD ""
  t.isTerminal && (value "NO_COLOR").isEmpty &&
    (occursIn "color" (lowerCase (value "TERM")) || !(value "WT_SESSION").isEmpty ||
      occursIn "utf" (lowerCase (t.encoding.getD "")))

/-- The colour of a label, as the terminal is told it. -/
def color (label : String) : String :=
  if label == Status.pass.label then "\x1b[32m"
  else if label == Status.fail.label then "\x1b[31m"
  else if label == Status.skip.label then "\x1b[33m"
  else ""

/-- A label as it is shown. -/
def Style.label (s : Style) (label : String) : String :=
  if s.colors then color label ++ label ++ "\x1b[0m" else label

/-- A text without newlines at its end. -/
def dropNewlines (s : String) : String := String.ofList (s.toList.reverse.dropWhile (· == '\n')).reverse

/-- The lines of a transcript, indented. Empty lines stay empty. -/
def indented (transcript : String) : String :=
  String.join ((Line.split (dropNewlines transcript)).map fun line =>
    (if line.isEmpty then "" else "    " ++ line) ++ "\n")

/-- What is shown of a finished script. -/
def Style.entry (s : Style) (e : Entry) : String :=
  s!"--- {s.label e.label}: {e.name} ({Binary.fixed 2 e.seconds}s)\n" ++
    if e.label == Status.fail.label || s.verbose then indented e.transcript else ""

/-- The number of entries with a status. -/
def count (status : Status) (es : List Entry) : Nat := es.countP fun e => e.label == status.label

/-- Whether some script failed. -/
def failed (es : List Entry) : Bool := es.any fun e => e.label == Status.fail.label

/-- The line of counts. -/
def Style.summary (s : Style) (es : List Entry) : String :=
  let verdict := if failed es then s.label Status.fail.label else "ok"
  let total := es.foldl (fun sum e => sum + e.seconds) (Float.ofBits 0)
  s!"{verdict}\t{count .pass es} passed, {count .fail es} failed, {count .skip es} skipped " ++
    s!"({Binary.fixed 2 total}s)\n"

end Report

end Rehearsal
