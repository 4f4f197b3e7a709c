import Rehearsal.Command.Basic
import Rehearsal.Script.Process

/-!
# Running programs, and functions of the host

A program runs in front, or beside the script when an ampersand stands at the end of its line. Whether it has succeeded is
judged by its exit code; a program that the system does not start has failed.
-/

namespace Rehearsal.Command

open Script (runKept startBeside expect settle)

/-- What runs a program beside the script. -/
def besideMark : String := "&"

/-- Notes that the system did not start a program, and judges that as a failure. Any other end stays as it is. -/
def notStarted (m : Modifier) : Fault → Action Unit
  | .accident a =>
    if a.isSystem then do
      log s!"[{a.message}]"
      expect m "command" false
    else throw (.accident a)
  | f => throw f

/-- Runs a program in front. -/
def execInFront (m : Modifier) (command : String) (args : List String) : Action Unit := do
  match ← attempt (runKept command args) with
  | .error f => notStarted m f
  | .ok r =>
    if r.cancelled then throw .timeout
    unless r.succeeded do log s!"[exit status {r.code}]"
    expect m "command" r.succeeded

/-- Runs a program beside the script. -/
def execBeside (m : Modifier) (command : String) (args : List String) : Action Unit := do
  match ← attempt (startBeside m command args) with
  | .error f => notStarted m f
  | .ok () => pure ()
  modify fun s => { s with stdout := "", stderr := "" }

/-- Runs a program. -/
def exec : Command := fun m args =>
  match args with
  | [] => usage "exec program [args...] [&]"
  | command :: rest =>
    if args == [besideMark] then usage "exec program [args...] [&]"
    else if rest.getLast? == some besideMark then execBeside m command rest.dropLast
    else execInFront m command rest

/-- Waits for the programs beside the script. -/
def wait : Command := fun m args => do
  refuseModifier "wait" m
  unless args.isEmpty do usage "wait"
  settle

/-- Checks the exit code of the last program, or the status of the last answer. -/
def status : Command := fun m args => do
  match args with
  | [code] =>
    match Integer.ofText code with
    | .error _ => Action.misuse (.badStatus code)
    | .ok wanted =>
      let found := (← get).status
      match m with
      | .negated => if found == wanted then Action.mismatch (.isStatus found)
      | _ => if found != wanted then Action.mismatch (.otherStatus found wanted)
  | _ => usage "status code"

/-! ## Functions of the host

A function writes as a program does. It has succeeded unless it ends in an accident or leaves with a code other than
zero. A fault that belongs to scripts goes through as it is.
-/

/-- What a function leaves: what it wrote, and what went wrong if something did. -/
structure Called where
  stdout : String
  stderr : String
  accident : Option Accident
  deriving Inhabited

/-- What leaving with a code is, if it is an accident. -/
def exitAccident? : Option ExitCode → Option Accident
  | none | some (.number 0) => none
  | some code => some (.exit code)

/-- Calls a function of the host. -/
def callFunction (host : Host) (name : String) (args : List String) : Action Called := do
  match Table.get? name host.functions with
  | none => throw (.unknownFunction name)
  | some function =>
    let r ← ExceptT.lift (function args)
    let left (accident : Option Accident) : Called := ⟨r.stdout, r.stderr, accident⟩
    match r.ending with
    | .normal => return left none
    | .fault (.accident a) => return left (some a)
    | .fault f => throw f
    | .exit code =>
      if host.measuring && !(← get).plan.ignoreMissedCoverage then Action.misuse (.exitMeasured name code)
      return left (exitAccident? code)

/-- Calls a function of the host, and keeps what it writes. -/
def call (host : Host) : Command := fun m args => do
  match args with
  | [] => usage "call function [args...]"
  | name :: rest =>
    let c ← callFunction host name rest
    modify fun s => ({ s with stdout := c.stdout, stderr := c.stderr } : Script).logStreams c.stdout c.stderr
    if let some a := c.accident then log s!"[{a.label}: {a.message}]"
    Script.expect m "call" c.accident.isNone

end Rehearsal.Command
