import Rehearsal.Files.Access
import Rehearsal.Pattern.Matcher
import Rehearsal.Script.Performance

/-!
# Runs

A run performs every script that a plan selects, each in a directory of its own below one directory for the run. A script
that fails stops no other. The outcomes are listed in the order of the script files, and reported in the order in which
the scripts end.

Scripts are performed side by side: all begin at one time, and each waits for its own programs only. What they do to the
disk is settled in the order of their files. A fault that reaches beyond its script ends the run; scripts that end later
are not reported.
-/

namespace Rehearsal.Run

open Files

/-- Why a run has no outcomes. -/
inductive Error where
  | noScripts (pattern : String)
  | noneSelected (dir selector : String)
  | interrupted
  | fault (f : Fault)
  deriving Inhabited

/-- The wording of an error. -/
def Error.message : Error → String
  | .noScripts pattern => s!"no scripts found matching glob: {pattern}"
  | .noneSelected dir selector => s!"no scripts in {dir} match {Quoted.text selector}"
  | .interrupted => "Interrupted by user."
  | .fault f => f.message

/-- What runs have in common: the platform they take place on, and the path at which a run may make its directory. -/
structure Place where
  platform : Platform
  temporary : String
  deriving Repr, Inhabited

/-- The script files of a plan whose script has a name that a pattern is found in. -/
def select (plan : Plan) (selector : Option String) (d : Disk) : Except Error (List String) :=
  match plan.scripts d with
  | [] => .error (.noScripts plan.pattern)
  | files =>
    match selector.filter fun s => !s.isEmpty with
    | none => .ok files
    | some text =>
      match Pattern.ofText text [] with
      | .error e => .error (.fault (.accident (.pattern e)))
      | .ok pattern =>
        match files.filter fun f => (pattern.search (scriptName f)).isSome with
        | [] => .error (.noneSelected plan.dir text)
        | files => .ok files

/-- The path of a directory with no link in it. -/
def realPath (d : Disk) (p : String) : String :=
  match d.find true p with
  | .ok (names, _) => Path.ofNames names
  | .error _ => Path.normalize (Path.join (Path.ofNames d.base) p)

/-- Makes the directory of a run: the one that the plan names, or a new one for temporary files. -/
def makeRoot (place : Place) (plan : Plan) : Access String := do
  match plan.workdirRoot with
  | some root =>
    Access.makeDirectories root
    return realPath (← get) root
  | none =>
    Access.makeDirectory place.temporary
    Access.chmod place.temporary 0o700
    return realPath (← get) place.temporary

/-- Removes a directory if it is there. -/
def removeIfThere (p : String) : Access Unit := do
  if (← get).exists? p then Access.removeAll p

/-- How the performance of a script has ended, and when. -/
structure Ended where
  outcome : Except Fault Outcome
  time : Time
  deriving Inhabited

/-- Whether it ended in a fault. -/
def Ended.fault? (e : Ended) : Option Fault :=
  match e.outcome with
  | .ok _ => none
  | .error f => some f

/-- Performs a script in the directory of a run, and removes the script's directory unless it is to be kept. -/
def performOne (host : Host) (place : Place) (plan : Plan) (root file : String) (scene : Scene) : Ended × Scene :=
  let (outcome, s) := (Script.perform host).run (.opening plan place.platform file (scriptName file) root scene)
  if plan.testWork then (⟨outcome, s.scene.clock⟩, s.scene)
  else
    let (removed, disk) := (removeIfThere s.workDir).run s.scene.disk
    let outcome := match removed with
      | .ok () => outcome
      | .error e => .error (.accident (.file e))
    (⟨outcome, s.scene.clock⟩, { s.scene with disk })

/-- Performs scripts that all begin at one time. -/
def performEach (host : Host) (place : Place) (plan : Plan) (root : String) (begin' : Time) :
    List String → Scene → List Ended × Scene
  | [], scene => ([], scene)
  | file :: rest, scene =>
    let (ended, scene) := performOne host place plan root file { scene with clock := begin' }
    let (more, scene) := performEach host place plan root begin' rest scene
    (ended :: more, { scene with clock := max ended.time scene.clock })

/-- What a run comes to: its outcomes in the order of the files, unless it failed, and the outcomes in the order they were
reported in, each with the time its script took. -/
structure Result where
  outcomes : Except Error (List Outcome)
  reported : List (Outcome × Time)
  deriving Inhabited

/-- The order in which scripts end. Of those that end together the first comes first. -/
def finishing (es : List Ended) : List Ended := es.mergeSort fun a b => a.time ≤ b.time

/-- What is reported of scripts that ended, up to a time. -/
def reports (begin' : Time) (until' : Option Time) (es : List Ended) : List (Outcome × Time) :=
  es.filterMap fun e =>
    match e.outcome with
    | .ok o => if until'.all (e.time ≤ ·) then some (o, e.time - begin') else none
    | .error _ => none

/-- The first fault to get out of a script, and when. -/
def firstFault? (order : List Ended) : Option (Fault × Time) :=
  order.findSome? fun e => e.fault?.map fun f => (f, e.time)

/-- What a run comes to whose scripts have ended. The first fault to get out of one ends it. -/
def conclude (begin' : Time) (es : List Ended) : Result :=
  let order := finishing es
  match firstFault? order with
  | some (f, time) => ⟨.error (.fault f), reports begin' (some time) order⟩
  | none => ⟨.ok (es.filterMap fun e => e.outcome.toOption), reports begin' none order⟩

/-- A run that has come to nothing. -/
def failed (e : Error) : Result := ⟨.error e, []⟩

/-- Performs the script files of a plan. -/
def performFiles (host : Host) (place : Place) (plan : Plan) (files : List String) (scene : Scene) : Result × Scene :=
  match (makeRoot place plan).run scene.disk with
  | (.error e, disk) => (failed (.fault (.accident (.file e))), { scene with disk })
  | (.ok root, disk) =>
    let (es, after) := performEach host place plan root scene.clock files { scene with disk }
    let result := conclude scene.clock es
    if plan.testWork then (result, after)
    else
      let (removed, disk) := (removeIfThere root).run after.disk
      (match removed with
        | .ok () => result
        | .error e => failed (.fault (.accident (.file e))), { after with disk })

/-- Performs the scripts of a plan. With a selector, only those that it is found in the name of. -/
def perform (host : Host) (place : Place) (plan : Plan) (selector : Option String) (scene : Scene) : Result × Scene :=
  match select plan selector scene.disk with
  | .error e => (failed e, scene)
  | .ok files => performFiles host place plan files scene

end Rehearsal.Run
