import Rehearsal.Files.Access
import Rehearsal.Table
import Rehearsal.Duration

/-!
# Running programs

What a program does is a function of what it was started with and of when it is told to stop. Time passes
only where a program waits. An interrupt ends a program, unless it handles or ignores it;
a kill always does. Whatever was written before stays written.
-/

namespace Rehearsal.Program

open Files

/-- When a program is interrupted, and when it is killed. -/
structure Stop where
  interrupt : Option Time
  kill : Option Time
  deriving DecidableEq, Repr, Inhabited

/-- Never. -/
def Stop.never : Stop := ⟨none, none⟩

/-- The earlier of two times, either of which may never come. -/
def earlier : Option Time → Option Time → Option Time
  | some a, some b => some (min a b)
  | some a, none => some a
  | none, b => b

/-- Told to stop on two sides: what comes first counts. -/
def Stop.both (a b : Stop) : Stop := ⟨earlier a.interrupt b.interrupt, earlier a.kill b.kill⟩

/-- The exit code of a program that a signal ended. -/
def signalled (signal : Nat) : Int := -signal

/-- The number of the signal that interrupts. -/
def interruptSignal : Nat := 2

/-- The number of the signal that kills. -/
def killSignal : Nat := 9

/-- What was written, the latest piece first. -/
abbrev Output := List Bytes

/-- All that was written. -/
def Output.bytes (o : Output) : Bytes := o.reverse.flatten

/-- Where what a program writes goes: to one of its two outputs, to a file, or into the pipe that is open. -/
inductive Sink where
  | out | err | file (path : String) | pipe
  deriving DecidableEq, Repr, Inhabited

/-- Something a program has started beside itself: its number, when it ends, and its exit code then. -/
structure Job where
  id : Nat
  ends : Time
  code : Int
  deriving DecidableEq, Repr, Inhabited

/-- What a program can see and change while it runs: the files, with its directory as the one that relative paths
start from, the time, its input, what it has written and where it writes. -/
structure Running where
  /-- The name the program was started by. -/
  name : String
  disk : Disk
  clock : Time
  stop : Stop
  /-- Whether interrupts are not felt. -/
  ignoring : Bool
  stdin : Bytes
  stdout : Output
  stderr : Output
  piped : Output
  out : Sink
  err : Sink
  jobs : List Job
  deriving Repr, Inhabited

/-- A program that has done nothing yet. -/
def Running.begin (disk : Disk) (clock : Time) (stdin : Bytes) (stop : Stop) : Running :=
  { name := "", disk, clock, stop, ignoring := false, stdin, stdout := [], stderr := [], piped := [], out := .out,
    err := .err, jobs := [] }

/-- Whether a kill has come. -/
def Running.isKilled (r : Running) : Bool := r.stop.kill.any (· ≤ r.clock)

/-- Whether an interrupt has come that is felt. -/
def Running.isInterrupted (r : Running) : Bool := !r.ignoring && r.stop.interrupt.any (· ≤ r.clock)

/-- A step of a program. It may end the program with an exit code. -/
abbrev Run := ExceptT Int (StateM Running)

namespace Run

/-- Ends the program at a time. -/
def endAt {α : Type} (time : Time) (code : Int) : Run α := do
  modify fun s => { s with clock := max time s.clock }
  throw code

/-- Lets time pass. An interrupt or a kill that comes meanwhile ends the program. -/
def pass (span : Time) : Run Unit := do
  let s ← get
  let until' := s.clock + span
  let comes (time : Option Time) : Option Time := time.filter (· < until')
  match if s.ignoring then none else comes s.stop.interrupt with
  | some time => endAt time (signalled interruptSignal)
  | none =>
    match comes s.stop.kill with
    | some time => endAt time (signalled killSignal)
    | none => set { s with clock := until' }

/-- Works with files. -/
def files {α : Type} (a : Access α) : Run (Except Files.Error α) := do
  let s ← get
  let (result, disk) := a.run s.disk
  set { s with disk }
  return result

/-- Writes to where a sink leads. A file is written at its end. -/
def emit (sink : Sink) (d : Bytes) : Run Unit := do
  match sink with
  | .out => modify fun s => { s with stdout := d :: s.stdout }
  | .err => modify fun s => { s with stderr := d :: s.stderr }
  | .pipe => modify fun s => { s with piped := d :: s.piped }
  | .file path =>
    let old := match (← get).disk.read path with
      | .ok old => old
      | .error _ => []
    let _ ← files (Access.write path (old ++ d))

/-- Writes to the output. -/
def write (d : Bytes) : Run Unit := do emit (← get).out d

/-- Writes a line to the output. -/
def writeLine (line : String) : Run Unit := write (Utf8.encode line ++ [Bytes.newline])

/-- Writes a line to the error output. -/
def complain (message : String) : Run Unit := do emit (← get).err (Utf8.encode message ++ [Bytes.newline])

/-- Writes a line to the error output behind the name of the program. -/
def blame (message : String) : Run Unit := do
  let name := (← get).name
  complain s!"{name}: {message}"

/-- Takes all of the input. -/
def takeInput : Run Bytes := do
  let s ← get
  set { s with stdin := [] }
  return s.stdin

end Run

/-- What is left of a program that has ended. -/
structure Finish where
  stdout : Bytes
  stderr : Bytes
  code : Int
  time : Time
  deriving DecidableEq, Repr, Inhabited

/-- Every program takes at least this long. -/
def latency : Time := 1000

/-- Runs a program on a disk from a time on. It can be stopped before it does anything. What it wrote is known when all it
has started beside itself has ended too; a kill ends that with it. -/
def finish (program : Run Int) (disk : Disk) (start : Time) (stdin : Bytes) (stop : Stop) : Finish × Disk :=
  let whole : Run Int := do
    Run.pass latency
    program
  let (result, s) := whole.run (.begin disk start stdin stop)
  let code := match result with
    | .ok code | .error code => code
  let time := if s.isKilled then s.clock else s.jobs.foldl (fun t job => max t job.ends) s.clock
  (⟨s.stdout.bytes, s.stderr.bytes, code, time⟩, { disk with tree := s.disk.tree })

end Rehearsal.Program
