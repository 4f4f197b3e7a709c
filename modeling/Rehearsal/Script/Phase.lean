import Rehearsal.Script.Basic

/-!
# Phases

The transcript of a script is divided into phases, each under a header line. While a phase lasts, all that its commands
log stands below its header. When it is over without a failure that is dropped, unless everything is to be kept, and the
time it took is written behind the header. So the transcript of a script that passes is a list of headers.

The mark of a script is the place up to which the transcript is settled: the end of the last header.
-/

namespace Rehearsal.Script

/-- A number of milliseconds with at least three digits. -/
def milliDigits (n : Nat) : String :=
  let digits := toString n
  String.ofList (List.replicate (3 - digits.length) '0') ++ digits

/-- A span in seconds, with three places. -/
def secondsText (span : Time) : String :=
  let milli := (span + 500) / 1000
  s!"{milli / 1000}.{milliDigits (milli % 1000)}"

/-- What is written behind the header of a phase that took a time. -/
def phaseTime (span : Time) : String := s!" ({secondsText span}s)\n"

/-- Drops what was logged since the mark, unless everything is kept. -/
def rewind (s : Script) : Script := if s.plan.verbose then s else { s with log := s.log.truncate s.mark }

/-- Writes the time a phase took behind its header, once. What stands below the header stays there. -/
def markTime (s : Script) : Script :=
  match s.phaseStart with
  | some start =>
    if 0 < s.mark then
      let below := String.ofList (s.log.text.drop s.mark)
      let log := ((s.log.truncate (s.mark - 1)).write (phaseTime (s.scene.clock - start))).write below
      { s with log, phaseStart := none }
    else { s with phaseStart := none }
  | none => s

/-- Settles what was logged in a phase that is over, if something was. -/
def closePhase (s : Script) : Script := if s.mark < s.log.length then s.rewind.markTime else s

/-- Sets the mark at the end of the transcript. -/
def setMark (s : Script) : Script := { s with mark := s.log.length }

/-- Begins a phase. -/
def openPhase (header : String) (s : Script) : Script :=
  let s := (s.closePhase.write (header ++ "\n")).setMark
  { s with phaseStart := some s.scene.clock }

end Rehearsal.Script
