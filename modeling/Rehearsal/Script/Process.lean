import Rehearsal.Program.Process
import Rehearsal.Program.Search
import Rehearsal.Script.Basic

/-!
# Programs of a script

A script runs programs in front, where it waits for each, and beside itself, where it collects them later. Both start a
program in the same way, and both judge what it comes to by the same rule.

The programs beside a script are collected together in the order they were started, whatever order they end in. What they
write is put together in that order, and the status is that of the last one started. None is left to be collected again.
-/

namespace Rehearsal.Script

/-- How the programs of a script are told to stop. -/
def stopPolicy (s : Script) : Program.StopPolicy := ⟨s.platform.isUnix, Time.ofSeconds s.plan.grace⟩

/-- What is started for a command: the program that a bare name leads to on the script's path, or the path that the
command is. -/
def argv (s : Script) (command : String) (args : List String) : Except Fault (List String) :=
  if command.toList.contains '/' then .ok (command :: args)
  else match Program.locate? s.scene.disk (s.valueOf "PATH") command with
    | some path => .ok (path :: args)
    | none => .error (.accident (.noProgram command))

/-- Starts a program. It takes what was kept for it to read, also when it cannot be started. -/
def launch (command : String) (args : List String) : Action Program.Started := do
  let s ← get
  set { s with stdin := "" }
  match s.argv command args with
  | .error f => throw f
  | .ok argv =>
    let c : Program.Command := ⟨argv, s.directory, s.processVariables⟩
    match Program.start s.scene.disk c (Utf8.encode s.stdin) s.scene.clock with
    | .ok p => return p
    | .error (.refused e) => throw (.accident (.file e))
    | .error .variableName => throw (.accident .variableName)

/-- The scene when a program has come to its end. -/
def Scene.after (s : Scene) (f : Program.Finish) (disk : Files.Disk) : Scene :=
  { s with disk, clock := max s.clock f.time }

/-- Runs a program and waits for it. -/
def runProgram (command : String) (args : List String) : Action Program.Result := do
  let p ← launch command args
  let s ← get
  let (f, cancelled, disk) := p.wait s.stopPolicy s.cancelAt .never s.scene.disk
  set { s with scene := Scene.after s.scene f disk, status := f.code }
  return f.result cancelled

/-- Runs a program and keeps what it writes. A program that the system does not start has written nothing. -/
def runKept (command : String) (args : List String) : Action Program.Result := do
  match ← attempt (runProgram command args) with
  | .ok r =>
    modify fun s => ({ s with stdout := r.stdout, stderr := r.stderr } : Script).logStreams r.stdout r.stderr
    return r
  | .error (.accident a) =>
    if a.isSystem then modify fun s => { s with stdout := "", stderr := "" }
    throw (.accident a)
  | .error f => throw f

/-- Starts a program beside the script. -/
def startBeside (m : Modifier) (command : String) (args : List String) : Action Unit := do
  let process ← launch command args
  modify fun s => { s with background := s.background ++ [⟨command :: args, m, process⟩] }

/-- Refuses an outcome that a modifier does not ask for. -/
def expect (m : Modifier) (what : String) (succeeded : Bool) : Action Unit :=
  if m.accepts succeeded then pure () else Action.mismatch (.surprise ⟨what, succeeded⟩)

/-- What programs that ran beside a script have come to. -/
structure Collection where
  stdout : String
  stderr : String
  cancelled : Bool
  problems : List (Surprise × List String)
  deriving Inhabited

/-- Adds a program to a collection. One that was cancelled is not judged. -/
def Collection.add (c : Collection) (b : Background) (r : Program.Result) : Collection :=
  { stdout := c.stdout ++ r.stdout
    stderr := c.stderr ++ r.stderr
    cancelled := c.cancelled || r.cancelled
    problems := c.problems ++
      if r.cancelled || b.modifier.accepts r.succeeded then [] else [(⟨"command", r.succeeded⟩, b.argv)] }

/-- Waits for a program beside the script, which may have been told to stop. -/
def collectOne (given : Program.Stop) (c : Collection) (b : Background) : StateM Script Collection := do
  let s ← get
  let (f, cancelled, disk) := b.process.wait s.stopPolicy s.cancelAt given s.scene.disk
  let r := f.result cancelled
  let s := { s with scene := Scene.after s.scene f disk, status := r.code }
  let command := " ".intercalate b.argv
  set ((s.logLine s!"[background] {command}: exit {r.code}").logStreams r.stdout r.stderr)
  return c.add b r

/-- Waits for all programs beside the script. -/
def collect (given : Program.Stop) : StateM Script Collection := do
  let c ← (← get).background.foldlM (collectOne given) ⟨"", "", false, []⟩
  modify fun s => { s with background := [], stdout := c.stdout, stderr := c.stderr }
  return c

/-- Waits for all programs beside the script, and judges them. -/
def settle : Action Unit := do
  let c ← collect .never
  if c.cancelled then throw .timeout
  unless c.problems.isEmpty do Action.mismatch (.background c.problems)

/-- Tells all programs beside the script to stop, and waits for them. -/
def dismiss : StateM Script Unit := do
  let s ← get
  let _ ← collect (s.stopPolicy.stopAt s.scene.clock)

end Rehearsal.Script
