import Rehearsal.Expansion
import Rehearsal.Http.Template
import Rehearsal.Plan
import Rehearsal.Program.Search
import Rehearsal.Report
import Rehearsal.Script.Fault
import Rehearsal.Transcript

/-!
# Scripts

What a script is while it is performed: its variables, its directory, what the last command wrote, the programs that run
beside it, what is to be done when it is over, and its transcript. All of it belongs to one script alone. What scripts
share is the *scene* they are set in: the disk, the time, a server, and the answers about programs that were asked
before.

A command is an `Action`. What it has done stays done when it ends early.
-/

namespace Rehearsal

/-- What scripts are set in. -/
structure Scene where
  disk : Files.Disk
  clock : Time
  programs : ProgramCache
  /-- The variables around the scripts. -/
  outside : Table String
  server : Http.Server
  /-- The messages the server was sent, in order. -/
  sent : List Http.Message
  /-- How forms are bounded. -/
  boundary : String
  /-- The time of day when the clock began, in seconds since 1970. -/
  epoch : Int
  /-- What hosts have noted, in order. -/
  notes : List String
  /-- Warnings about the settings of scripts, in order. -/
  warnings : List String
  deriving Inhabited

/-- The scene on a disk before anything has happened. Nobody answers requests there. -/
def Scene.ofDisk (disk : Files.Disk) (outside : Table String) : Scene :=
  { disk, clock := 0, programs := [], outside, server := [], sent := [],
    boundary := String.ofList (List.replicate 32 'b'), epoch := 1767225600, notes := [], warnings := [] }

/-- A program that runs beside a script. -/
structure Background where
  argv : List String
  modifier : Modifier
  process : Program.Started

/-- Something to be done when a script is over: it is noted, it may write a line, arrange more of its kind, and fail. -/
inductive Deferred where
  | mk (note : String) (line : Option String) (more : List Deferred) (fault : Option Fault)
  deriving Inhabited

/-- A script while it is performed. -/
structure Script where
  plan : Plan
  platform : Platform
  file : String
  name : String
  /-- The directory that belongs to the script. -/
  workDir : String
  /-- The directory its commands start from. -/
  directory : String
  /-- The variables, as entries in the order they were made. -/
  entries : List String
  /-- The same variables by their normal names. -/
  known : Table String
  /-- Values that the host keeps with the script. -/
  values : Table String
  /-- What the next program will read. -/
  stdin : String
  stdout : String
  stderr : String
  status : Int
  stopped : Bool
  log : Transcript
  /-- How much of the transcript is settled. -/
  mark : Nat
  phaseStart : Option Time
  line : String
  lineNumber : Nat
  /-- The programs that run beside the script, in the order they were started. -/
  background : List Background
  /-- What is to be done when the script is over, the latest first. -/
  deferred : List Deferred
  archive : Option Archive
  /-- The paths of the archive's files, with their names there. -/
  extracted : Table String
  /-- New contents of golden files, by their names in the archive. -/
  updates : Table String
  settings : Option Frontmatter
  clients : Http.Clients
  /-- When the script is cancelled, if that is settled. -/
  cancelAt : Option Time
  scene : Scene
  deriving Inhabited

/-- A step of a script. What it has done stays done when it ends early. -/
abbrev Action := ExceptT Fault (StateM Script)

/-- A step that is not left early: its result says how it ended. -/
def attempt {α : Type} (a : Action α) : Action (Except Fault α) := ExceptT.lift a.run

namespace Script

/-- A script before it is set up. -/
def opening (plan : Plan) (platform : Platform) (file name root : String) (scene : Scene) : Script :=
  let workDir := Path.join root s!"script-{name}"
  let entries := Environment.standard platform scene.outside workDir
  { plan, platform, file, name, workDir, directory := workDir, entries, known := Environment.table platform entries,
    values := [], stdin := "", stdout := "", stderr := "", status := 0, stopped := false, log := .empty, mark := 0,
    phaseStart := none, line := "", lineNumber := 0, background := [], deferred := [], archive := none,
    extracted := [], updates := [], settings := none, clients := [], cancelAt := none, scene }

/-! ## Transcript -/

/-- Writes to the transcript. -/
def write (text : String) (s : Script) : Script := { s with log := s.log.write text }

/-- Writes to the transcript what stands as a line, or several: with one newline at its end. -/
def logLine (text : String) (s : Script) : Script := s.write (Report.dropNewlines text ++ "\n")

/-- Writes the output of a program under a head, unless there is none. -/
def logStream (head text : String) (s : Script) : Script :=
  if text.isEmpty then s else s.logLine s!"[{head}]\n{text}"

/-- Writes what a program wrote. -/
def logStreams (stdout stderr : String) (s : Script) : Script :=
  (s.logStream "stdout" stdout).logStream "stderr" stderr

/-- A text with the work directory written as a variable. Where work directories are kept, the first line says which
one it was. -/
def abbreviate (s : Script) (text : String) : String :=
  let text := text.replace s.workDir "$WORK"
  if !s.plan.testWork then text
  else
    let first := "WORK=$WORK\n"
    let text := if text.startsWith first then (text.drop first.length).toString else text
    s!"WORK={s.workDir}\n{text}"

/-! ## Variables -/

/-- The value of a variable, empty when it is not set. -/
def valueOf (s : Script) (key : String) : String :=
  (Table.get? (Environment.normalName s.platform key) s.known).getD ""

/-- Gives a variable a value. -/
def assign (key value : String) (s : Script) : Script :=
  { s with
    entries := s.entries ++ [Environment.entry key value]
    known := Table.insert (Environment.normalName s.platform key) value s.known }

/-- Builds the look-up table of variables anew from the entries. -/
def retabled (s : Script) : Script := { s with known := Environment.table s.platform s.entries }

/-- A text with the values of variables put in. -/
def expand (s : Script) (text : String) : String := Expansion.expand s.valueOf text

/-- The variables that a program started by the script sees. -/
def processVariables (s : Script) : Table String :=
  Environment.forProcess s.platform (s.entries ++ [Environment.entry "PWD" s.directory])

/-! ## Files -/

/-- A path seen from the directory of a script. -/
def absolute (s : Script) (path : String) : String := Path.join s.directory path

/-- The contents of a file as text, every line end a newline; or what the last command wrote, which goes by the names
`stdout` and `stderr`. -/
def text (s : Script) (file : String) : Except Fault String :=
  if file == "stdout" then .ok s.stdout
  else if file == "stderr" then .ok s.stderr
  else
    match s.scene.disk.read (Path.clean (s.absolute file)) with
    | .error .nullCharacter => .error (.accident (.file .nullCharacter))
    | .error e => .error (.misuse (.accident (.file e)))
    | .ok data =>
      match Utf8.decodeChars data with
      | .error e => .error (.misuse (.accident (.notUtf8 e)))
      | .ok cs => .ok (String.ofList (Line.unifyNewlines cs))

end Script

namespace Action

/-- Ends a command as misused. -/
def misuse {α : Type} (m : Misuse) : Action α := throw (.misuse m)

/-- Ends a command as come out otherwise than asked for. -/
def mismatch {α : Type} (m : Mismatch) : Action α := throw (.mismatch m)

/-- Works with files. -/
def files {α : Type} (a : Files.Access α) : Action α := do
  let s ← get
  let (result, disk) := a.run s.scene.disk
  set { s with scene := { s.scene with disk } }
  match result with
  | .ok x => return x
  | .error e => throw (.accident (.file e))

/-- The result of a look at files. -/
def look {α : Type} (f : Files.Disk → Except Files.Error α) : Action α := do
  match f (← get).scene.disk with
  | .ok x => return x
  | .error e => throw (.accident (.file e))

/-- The contents of a file as text. -/
def text (file : String) : Action String := do
  match (← get).text file with
  | .ok s => return s
  | .error f => throw f

/-- Gives a variable a value, if its name may be one. -/
def assign (key value : String) : Action Unit := do
  if Environment.isName key then modify (·.assign key value) else misuse (.badVariable key)

end Action

end Rehearsal
