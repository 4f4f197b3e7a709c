import Rehearsal.Options.Help
import Rehearsal.Run
import Rehearsal.Settings.Search

/-!
# The command line

What the program does with its arguments: it says how it is used, writes a settings file, or performs scripts and reports
on them. Every answer has an exit code: zero when nothing failed, one when a script failed or the run could not be made,
two for a command line that is not understood and for golden files that do not go with their archive.
-/

namespace Rehearsal.CommandLine

/-- What the program leaves. -/
structure Answer where
  exitCode : Nat
  stdout : String
  stderr : String
  deriving DecidableEq, Repr, Inhabited

/-- What the program has no answer to. -/
inductive Crash where
  | options (e : Pattern.Error)
  | number (e : Integer.Error)
  | tooDeep
  | accident (a : Accident)
  deriving Inhabited

/-- The accident that a crash is. -/
def Crash.cause : Crash → Accident
  | .options e => .pattern e
  | .number e => .number e
  | .tooDeep => .tooDeep
  | .accident a => a

/-- An answer to a run that could not be made. -/
def answerTo (shown warned : String) : Run.Error → Except Crash Answer
  | .interrupted => .ok ⟨130, shown ++ s!"\n{Run.Error.interrupted.message}\n", warned⟩
  | .fault (.integrity i) => .ok ⟨2, shown, warned ++ s!"Internal error: {i.message}\n"⟩
  | .fault (.accident a) => .error (.accident a)
  | e => .ok ⟨1, shown, warned ++ s!"Error: {e.message}\n"⟩

/-- The number of seconds in a span. -/
def seconds (span : Time) : Float := Binary.ofDecimal false span (-6)

/-- What is reported of an outcome. -/
def entryOf (o : Outcome) (span : Time) : Report.Entry := ⟨o.name, o.status.label, o.transcript, seconds span⟩

/-- The answer to a run, given the warnings there were. -/
def report (style : Report.Style) (warnings : List String) (r : Run.Result) : Except Crash Answer :=
  let entries := r.reported.map fun (o, span) => entryOf o span
  let shown := String.join (entries.map style.entry)
  let warned := if style.verbose then "" else String.join (warnings.map (· ++ "\n"))
  match r.outcomes with
  | .error e => answerTo shown warned e
  | .ok _ => .ok ⟨if Report.failed entries then 1 else 0, shown ++ style.summary entries, warned⟩

/-- Performs the scripts that options ask for. -/
def run (terminal : Report.Terminal) (place : Run.Place) (o : Options) (scene : Scene) :
    Except Crash Answer × Scene :=
  let (result, scene) := Run.perform .none place (Plan.ofOptions o) o.run.value? scene
  (report ⟨terminal.showsColors, o.verbose⟩ scene.warnings result, scene)

/-- Writes a settings file. -/
def writeSettings (scene : Scene) : Except Crash Answer × Scene :=
  match (Settings.start scene.disk.base).run scene.disk with
  | (.error e, disk) => (.error (.accident (.file e)), { scene with disk })
  | (.ok s, disk) =>
    (.ok (if s.succeeded then ⟨0, s.message, ""⟩ else ⟨1, "", s.message⟩), { scene with disk })

/-- Answers arguments. -/
def answer (terminal : Report.Terminal) (place : Run.Place) (arguments : List String) (scene : Scene) :
    Except Crash Answer × Scene :=
  match Options.ofArguments arguments with
  | .error .help => (.ok ⟨0, Options.help, ""⟩, scene)
  | .error (.usage e) => (.ok ⟨2, "", Options.complaint e⟩, scene)
  | .error (.overflow e) => (.error (.options e), scene)
  | .ok o =>
    if o.initConfig then writeSettings scene
    else
      match Settings.load scene.disk scene.disk.base with
      | .error (.number e) => (.error (.number e), scene)
      | .error .tooDeep => (.error .tooDeep, scene)
      | .error e => (.ok ⟨1, "", s!"Error: {e.message}\n"⟩, scene)
      | .ok settings => run terminal place (o.withSettings settings) scene

end Rehearsal.CommandLine
