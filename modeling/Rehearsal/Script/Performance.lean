import Rehearsal.Command.Dispatch
import Rehearsal.Script.Body
import Rehearsal.Script.Condition
import Rehearsal.Script.Golden
import Rehearsal.Script.Process
import Rehearsal.Script.Setup

/-!
# Performing a script

A script is set up, its lines are performed, and golden files are stored; then it is taken down, however it went. It
passes when nothing failed. A failure is written to the transcript with the line it happened at and fails the script; a
skip ends it without failing it. Any other fault leaves the script, after it was taken down.
-/

namespace Rehearsal

/-- What is known of a script that was performed. -/
structure Outcome where
  name : String
  file : String
  status : Status
  transcript : String
  deriving DecidableEq, Repr, Inhabited

namespace Script

/-- How the lines of a script are performed for a host. -/
def performer (host : Host) : Performer := ⟨condition host, Command.dispatch host⟩

/-- When a script that begins at a time is cancelled under a limit. A limit that is no number has passed at once. -/
def cancelTime (now : Time) (limit : Seconds) : Except Accident (Option Time) :=
  match limit with
  | .float x => .ok (if x.isInf && Float.ofBits 0 < x then none else some (now + Time.ofSeconds x))
  | .whole n =>
    match Binary.ofInt? n with
    | some x => .ok (some (now + Time.ofSeconds x))
    | none => .error .limitTooLarge

/-- The time limit of a script: its own, or else that of the plan. -/
def limit? (s : Script) : Option Seconds :=
  match s.settings.bind (·.timeout) with
  | some x => some (.float x)
  | none => s.plan.timeout

/-- Settles when the script is cancelled. -/
def startTimer : Action Unit := do
  let s ← get
  match s.limit? with
  | none => pure ()
  | some limit =>
    match cancelTime s.scene.clock limit with
    | .ok cancelAt => set { s with cancelAt }
    | .error a => throw (.accident a)

/-- Shows the variables at the top of the transcript, where that is asked for. -/
def showVariables (host : Host) : Action Unit := do
  let s ← get
  if s.plan.verbose || s.plan.testWork then
    Command.dispatch host .plain ["env"]
    modify fun s => (s.write "\n").setMark

/-- Performs the lines of a script, and settles its transcript when they came to their end. -/
def performText (host : Host) (text : String) : Action Unit := do
  performLines (performer host) (Line.split text)
  liftM dismiss
  modify fun s =>
    let s := s.rewind.markTime
    if s.stopped then s else s.write s!"{Status.pass.label}\n"

/-- Sets a script up and performs it. Golden files are stored even where a line has failed; a fault on the way there
takes the place of the failure. -/
def performAll (host : Host) : Action Unit := do
  let text ← setUp host
  startTimer
  showVariables host
  let result ← attempt (performText host text)
  storeUpdates
  match result with
  | .ok () => pure ()
  | .error f => throw f

/-- Writes that a script has failed at a place, and why. -/
def writeFailure (place message : String) (s : Script) : Script :=
  s.write s!"{Status.fail.label}: {s.file}{place}: {message}\n"

/-- Writes that a script was skipped, and why if there is a reason. -/
def writeSkip (reason : String) (s : Script) : Script :=
  s.logLine (if reason.isEmpty then Status.skip.label else s!"{Status.skip.label}: {reason}")

/-- Performs a script up to the point where it is taken down. -/
def execute (host : Host) : StateM Script (Except Fault Status) := do
  match ← (performAll host).run with
  | .ok () => return .ok .pass
  | .error f =>
    match f with
    | .skip reason =>
      modify (·.writeSkip reason)
      return .ok .skip
    | _ =>
      if f.isFailure then
        modify fun s => s.writeFailure s!":{s.lineNumber}" f.message
        return .ok .fail
      else return .error f

/-- Does what was to be done when a script is over, the latest first, and what that arranges in turn. The first that fails
ends it. -/
def runDeferred : List Deferred → StateM Script (Option Fault)
  | [] => return none
  | .mk note line more fault :: rest => do
    modify fun s => { s with scene := { s.scene with notes := s.scene.notes ++ [note] } }
    if let some text := line then modify (·.logLine text)
    match fault with
    | some f => return some f
    | none =>
      match ← runDeferred more with
      | some f => return some f
      | none => runDeferred rest

/-- Whether a fault in the end fails a script. It may also go beyond the script. -/
def judgeDeferred (f : Fault) : StateM Script (Except Fault Bool) := do
  let place := ": deferred"
  match f with
  | .accident a =>
    modify (·.writeFailure place s!"{a.label}: {a.message}")
    return .ok true
  | f =>
    if f.isFailure then
      modify (·.writeFailure place f.message)
      return .ok true
    else return .error f

/-- A script that is cancelled no more, unless it is already. -/
def withoutTimer (s : Script) : Script := { s with cancelAt := s.cancelAt.filter (· ≤ s.scene.clock) }

/-- Takes a script down: what was to be done in the end is done, and programs beside it are stopped. The result says
whether that has failed the script. -/
def takeDown : StateM Script (Except Fault Bool) := do
  let deferred := (← get).deferred
  modify fun s => { s.withoutTimer with deferred := [] }
  let result ← match ← runDeferred deferred with
    | none => pure (.ok false)
    | some f => judgeDeferred f
  unless (← get).background.isEmpty do dismiss
  modify (·.markTime)
  return result

/-- Performs a script from beginning to end. -/
def perform (host : Host) : StateM Script (Except Fault Outcome) := do
  let ended ← execute host
  let down ← takeDown
  match down, ended with
  | .error f, _ | _, .error f => return .error f
  | .ok failed, .ok status =>
    let s ← get
    return .ok ⟨s.name, s.file, if failed then .fail else status, s.abbreviate s.log.toString⟩

end Script

end Rehearsal
