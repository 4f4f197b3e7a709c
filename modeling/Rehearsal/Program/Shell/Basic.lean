import Rehearsal.Program.Shell.Command
import Rehearsal.Program.Tools

/-!
# The shell

What a shell knows, and the steps it takes. A step may end the shell: then the status is its exit code. Leaving a loop or a
function is no such end, and is noted until the loop or the function is reached.

A shell may say what a signal does to it: nothing, or a list of commands. Such a list waits until the command at hand has
ended.
-/

namespace Rehearsal.Program.Shell

/-- What is being left. -/
inductive Leaving where
  /-- So many loops, the last of them to go on with its next turn. -/
  | turn (loops : Nat)
  /-- So many loops. -/
  | loop (loops : Nat)
  | function
  deriving DecidableEq, Repr, Inhabited

/-- What a shell knows. -/
structure State where
  name : String
  args : List String
  vars : Table String
  /-- The variables that the programs it starts see. -/
  exported : List String
  functions : Table Command
  status : Nat
  line : Nat
  /-- What signals do, by their numbers; zero is the end of the shell. -/
  traps : List (Nat × String)
  /-- What signals that were felt have to do yet. -/
  pending : List String
  leaving : Option Leaving
  /-- The number of loops around the command at hand. -/
  loops : Nat
  /-- Whether it is in a function, and what the function hides of the variables. -/
  hidden : Option (List (String × Option String))
  /-- What it has started beside itself and not yet waited for. -/
  started : List Nat
  lastJob : Option Nat
  /-- The path of its directory, as it went there. -/
  directory : String
  /-- Whether a failure ends the shell. -/
  strict : Bool
  deriving Inhabited

/-- The variable that holds the path of the current directory. -/
def directoryName : String := "PWD"

/-- A shell that has done nothing yet. All variables it is given are for its programs too, and the one of its directory,
which is believed if it leads there. -/
def State.fresh (name : String) (args : List String) (vars : Table String) (disk : Files.Disk) : State :=
  let leadsHere (p : String) : Bool := Path.isAbsolute p && (match disk.find true p with
    | .ok (path, _) => path == disk.base
    | .error _ => false)
  let directory := match (vars.get? directoryName).filter leadsHere with
    | some p => p
    | none => Path.ofNames disk.base
  let vars := vars.insert directoryName directory
  { name, args, vars, exported := vars.keys, functions := [], status := 0, line := 1, traps := [], pending := [],
    leaving := none, loops := 0, hidden := none, started := [], lastJob := none, directory, strict := false }

/-- A step of a shell. It may end the shell, whose exit code is the status then. -/
abbrev Step := ExceptT Unit (StateT State Run)

/-- The number a shell gives as that of its own process. -/
def processId : Nat := 100

/-- The exit code of a command that is not found. -/
def notFoundCode : Nat := 127

/-- The exit code of a command that may not be run. -/
def noAccessCode : Nat := 126

/-- The exit code of a shell that does not understand what it is told. -/
def misuseCode : Nat := 2

/-- The status that a signal leaves behind. -/
def signalStatus (n : Nat) : Nat := 128 + n

/-- A step on what programs see. -/
def lift {α : Type} (run : Run α) : Step α := liftM (liftM run : StateT State Run α)

/-- What the programs see now. -/
def running : Step Running := lift get

/-- Changes what the programs see. -/
def change (f : Running → Running) : Step Unit := lift (modify f)

/-- Sets the status. -/
def leave (status : Nat) : Step Unit := modify fun s => { s with status }

/-- Says something on the error output, as a shell does. -/
def complain (message : String) : Step Unit := do
  let s ← get
  lift (Run.complain s!"{s.name}: {s.line}: {message}")

/-- Ends the shell with an exit code. -/
def endWith {α : Type} (status : Nat) : Step α := do
  leave status
  throw ()

/-- Ends the shell with a message. -/
def fail {α : Type} (message : String) : Step α := do
  complain message
  endWith misuseCode

/-- A step that may be cut short by a signal. The result says which code it ended with then. -/
def cutShort {α : Type} (run : Run α) : Step (Except Int α) := do
  lift (ExceptT.lift run.run)

/-- The variables that the programs of a shell see. Their order is that of a table with so many rows, which names are put in by
the sum of their letters. -/
def State.variables (s : State) : Table String :=
  let rows := 39
  let row (name : String) : Nat :=
    let sum := name.toList.foldl (fun n c => n + c.toNat) 0
    (16 * ((name.toList.head?.map Char.toNat).getD 0) + sum) % rows
  let shared := s.vars.filter fun (k, _) => s.exported.contains k
  shared.mergeSort fun a b => row a.1 ≤ row b.1

/-- The value of a variable, or of a mark that is none of the arguments together. -/
def State.value? (s : State) (name : String) : Option String :=
  match name with
  | "$" => some (toString processId)
  | "#" => some (toString s.args.length)
  | "?" => some (toString s.status)
  | "!" => s.lastJob.map toString
  | "-" => some (if s.strict then "e" else "")
  | "0" => some s.name
  | _ =>
    match name.toNat? with
    | some n => s.args[n - 1]?
    | none => s.vars.get? name

/-- The characters that fields end at. -/
def State.gaps (s : State) : List Char := ((s.vars.get? "IFS").getD " \t\n").toList

/-- Gives a variable a value. -/
def State.assign (name value : String) (s : State) : State := { s with vars := s.vars.insert name value }

/-- The numbers of signals by their names. -/
def signals : List (String × Nat) :=
  [("EXIT", 0), ("HUP", 1), ("INT", interruptSignal), ("QUIT", 3), ("KILL", killSignal), ("USR1", 10), ("USR2", 12),
    ("PIPE", 13), ("ALRM", 14), ("TERM", 15), ("CHLD", 17), ("CONT", 18), ("STOP", 19)]

/-- The signal an argument means. -/
def signalOf? (s : String) : Option Nat :=
  match signals.lookup (if s.startsWith "SIG" then String.ofList (s.toList.drop 3) else s).toUpper with
  | some n => some n
  | none => s.toNat?.filter (· < 65)

/-- What a shell says of a program that a signal ended. -/
def obituary? (signal : Nat) : Option String :=
  [(1, "Hangup"), (3, "Quit"), (9, "Killed"), (10, "User defined signal 1"), (12, "User defined signal 2"),
    (14, "Alarm clock"), (15, "Terminated")].lookup signal

/-- A signal comes to a shell: it does what the shell said it does, or ends it. -/
def feel (signal : Nat) : Step Unit := do
  match (← get).traps.lookup signal with
  | none => lift (throw (signalled signal))
  | some list => unless list.isEmpty do modify fun s => { s with pending := s.pending ++ [list] }

/-- What comes of a signal that cut the command at hand short. A kill ends the shell too. An interrupt is felt by the shell
like any signal, and is over then. Else only the command has ended. -/
def afterCut (code : Int) : Step Unit := do
  let r ← running
  if r.isKilled then lift (throw code)
  else if r.isInterrupted then
    feel interruptSignal
    change fun r => { r with stop := { r.stop with interrupt := none } }
    leave (signalStatus interruptSignal)
  else
    if let some words := obituary? code.natAbs then lift (Run.complain words)
    leave (signalStatus code.natAbs)

/-- The time a shell needs for a command. -/
def commandTime : Time := 50

/-- Lets time pass for a shell. -/
def wait (span : Time) : Step Unit := do
  match ← cutShort (Run.pass span) with
  | .ok () => pure ()
  | .error code => afterCut code

end Rehearsal.Program.Shell
