import Rehearsal.Program.Shell.Perform

/-!
# Processes

Starting a program: which file it is, whether it may be run, and what runs it. A file whose first line begins with
`#!` is run by the program that line names. What is started runs to its end, or is stopped: an interrupt first, and a
kill if it is still there when the time of grace is over.
-/

namespace Rehearsal.Program

open Files

/-- What the files of the stage's own programs begin with. The name of the program follows. -/
def programMark : Bytes := Bytes.ascii "\x7fstage:"

/-- The contents of the file of a program. -/
def fileOf (name : String) : Bytes := programMark ++ Bytes.ascii name

/-- The names of the programs there are. -/
def names : List String := "sh" :: Tools.names

/-- Why a program is not started. -/
inductive StartError where
  /-- The operating system refuses it, for the program or for the directory. -/
  | refused (e : Files.Error)
  /-- The name of a variable has an equals sign in it. -/
  | variableName
  deriving DecidableEq, Repr, Inhabited

/-- The wording of the error. -/
def StartError.message : StartError → String
  | .refused e => e.message
  | .variableName => "illegal environment variable name"

/-- A program with its arguments, its variables and its directory. -/
structure Command where
  argv : List String
  directory : String
  vars : Table String
  deriving Repr, Inhabited

/-- The program and the argument that a first line names behind its mark. -/
def interpreter? (d : Bytes) : Option (String × List String) :=
  match d with
  | 35 :: 33 :: rest =>
    let isGap (b : UInt8) : Bool := b == 32 || b == 9
    let line := (rest.takeWhile (· != Bytes.newline)).dropWhile isGap
    let name := line.takeWhile (!isGap ·)
    let arg := Bytes.trim (line.drop name.length)
    some (Utf8.decodeLossy name, if arg.isEmpty then [] else [Utf8.decodeLossy arg])
  | _ => none

/-- The file a path leads to, if it may be run. -/
def loaded (d : Disk) (path : String) : Except Refusal Bytes :=
  match d.find true path with
  | .error (.refused why _ _) => .error why
  | .error .nullCharacter => .error .notFound
  | .ok (_, .file mode data) => if (Entry.file mode data).allows searchBit then .ok data else .error .noAccess
  | .ok _ => .error .noAccess

/-- The path list of a shell that has none. -/
def defaultPathList : String := "/usr/local/sbin:/usr/local/bin:/usr/sbin:/usr/bin:/sbin:/bin"

/-- The paths a program may be at: where its name says if that has a directory in it, else in the directories of a path
list. -/
def candidates (pathList name : String) : List String :=
  if name.toList.contains '/' then [name]
  else (pathList.splitOn ":").map fun dir => Path.join dir name

/-- The first of several files that can be run, given how a file is loaded. If there is none, the reason is that of the first
that is there but cannot be run, else that of the last. -/
def firstOf (load : String → Except Refusal (Run Int)) (found last : Option Refusal) :
    List String → Except Refusal (Run Int)
  | [] => .error (found.getD (last.getD .notFound))
  | path :: rest =>
    match load path with
    | .ok run => .ok run
    | .error why =>
      let missing := why == .notFound || why == .notDirectory
      firstOf load (if missing then found else found.orElse fun _ => some why) (some why) rest

/-- A program under a name. -/
def named (name : String) (run : Run Int) : Run Int := do
  modify fun r => { r with name }
  run

/-- What runs a file with a name and arguments. The bound is on files that name each other to be run by, and on shells that
run shells. -/
def load (vars : Table String) (own : String) (args : List String) : Nat → Disk → String → Except Refusal (Run Int)
  | 0, _, _ => .error .tooManyLinks
  | n + 1, d, path =>
    match loaded d path with
    | .error why => .error why
    | .ok data =>
      if programMark.isPrefixOf data then
        let name := Utf8.decodeLossy (data.drop programMark.length)
        if name == "sh" then
          .ok (named own (Shell.start (fun vars name args => do
            let d := (← get).disk
            let paths := candidates ((vars.get? "PATH").getD defaultPathList) name
            match firstOf (load vars name args n d) none none paths with
            | .ok run => Except.ok <$> run
            | .error why => return .error why) vars args))
        else match Tools.find? name vars with
          | some run => .ok (named own (run args))
          | none => .error .execFormat
      else match interpreter? data with
        | some (name, more) => load vars name (more ++ path :: args) n d name
        | none => .error .execFormat

/-- How deep shells and files that are run by others may be nested. -/
def maxNesting : Nat := 16

/-- The directory a program is started in. -/
def enter (d : Disk) (directory : String) : Except Files.Error Disk :=
  match d.find true directory with
  | .error e => .error e
  | .ok (path, e) =>
    if !e.isDirectory then .error (.refused .notDirectory directory none)
    else if !e.allows searchBit then .error (.refused .noAccess directory none)
    else .ok { d with base := path }

/-- What a command runs, and the disk as it sees it. -/
def prepare (d : Disk) (c : Command) : Except StartError (Run Int × Disk) :=
  let texts := c.argv ++ c.directory :: c.vars.flatMap fun (k, v) => [k, v]
  if c.vars.any fun (k, _) => k.toList.contains '=' then .error .variableName
  else if texts.any fun s => s.toList.contains '\x00' then .error (.refused .nullCharacter)
  else match enter d c.directory with
    | .error e => .error (.refused e)
    | .ok there =>
      match c.argv with
      | [] => .error (.refused (.refused .notFound "" none))
      | name :: args =>
        let paths := candidates ((c.vars.get? "PATH").getD "/bin:/usr/bin") name
        match firstOf (load c.vars name args maxNesting there) none none paths with
        | .ok run => .ok (run, there)
        | .error why => .error (.refused (.refused why name none))

/-- How programs are told to stop: by an interrupt and then a kill, or by a kill at once. -/
structure StopPolicy where
  interrupts : Bool
  grace : Time
  deriving DecidableEq, Repr, Inhabited

/-- When a program that is told to stop at a time is interrupted and killed. -/
def StopPolicy.stopAt (p : StopPolicy) (time : Time) : Stop :=
  if p.interrupts then ⟨some time, some (time + p.grace)⟩ else ⟨none, some time⟩

/-- A program that was started: what is left of it as a function of the disk it works on and of when it is stopped. -/
structure Started where
  start : Time
  finish : Disk → Stop → Finish × Disk

/-- Starts a command. -/
def start (d : Disk) (c : Command) (stdin : Bytes) (time : Time) : Except StartError Started :=
  match prepare d c with
  | .error e => .error e
  | .ok (run, there) =>
    .ok ⟨time, fun d stop =>
      let (f, after) := finish run { d with base := there.base } time stdin stop
      (f, { d with tree := after.tree })⟩

/-- What a program comes to: what it wrote, its exit code, and whether a cancellation stopped it. -/
structure Result where
  stdout : String
  stderr : String
  code : Int
  cancelled : Bool
  deriving DecidableEq, Repr, Inhabited

/-- The result of what is left of a program. -/
def Finish.result (f : Finish) (cancelled : Bool) : Result :=
  ⟨Utf8.decodeLossy f.stdout, Utf8.decodeLossy f.stderr, f.code, cancelled⟩

/-- Whether a program has succeeded. -/
def Result.succeeded (r : Result) : Bool := r.code == 0

/-- Waits for a program that is told to stop when a cancellation comes before its end. -/
def Started.wait (p : Started) (policy : StopPolicy) (cancelled : Option Time) (given : Stop) (d : Disk) :
    Finish × Bool × Disk :=
  let (f, after) := p.finish d given
  match (cancelled.map (max p.start)).filter (· < f.time) with
  | some time =>
    let (f, after) := p.finish d (given.both (policy.stopAt time))
    (f, true, after)
  | none => (f, false, after)

end Rehearsal.Program
