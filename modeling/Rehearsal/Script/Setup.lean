import Rehearsal.Frontmatter
import Rehearsal.Script.Host

/-!
# Setting a script up

Before its first line a script gets a directory of its own, is read from its file, and finds the files of its archive in
that directory. Then the host may dress it. A script that cannot be set up has failed before its first line.
-/

namespace Rehearsal.Script

/-- What a failure to read or write means for a script that is being set up. -/
def setupFault (a : Accident) : Fault :=
  if a.isSystem || a.isValue then .misuse (.accident a) else .accident a

/-- A step whose accidents are those of a setup. -/
def settingUp {α : Type} (a : Action α) : Action α := do
  match ← attempt a with
  | .ok x => return x
  | .error (.accident a) => throw (setupFault a)
  | .error f => throw f

/-- Reads the archive in the file of a script. -/
def readArchive : Action Archive := do
  let s ← get
  let data ← Action.look fun d => d.read (Path.clean s.file)
  match Archive.parse data with
  | .error e => throw (.accident (.notUtf8 e))
  | .ok archive =>
    modify fun s => { s with archive := some archive }
    return archive

/-- Reads the settings at the front of a script. The result is what follows them. -/
def readSettings (comment : Bytes) : Action String := do
  match Utf8.decode comment with
  | .error e => throw (.accident (.notUtf8 e))
  | .ok text =>
    let read := Frontmatter.read text
    modify fun s => { s with scene := { s.scene with warnings := s.scene.warnings ++ read.warnings } }
    match read.result with
    | .error e => throw (.accident (.frontmatter e))
    | .ok (settings, body) =>
      modify fun s => { s with settings }
      return body

/-- Puts the settings of a script into effect: it is skipped, or gets its variables. -/
def applySettings : Action Unit := do
  match (← get).settings with
  | none => pure ()
  | some settings =>
    if let some reason := settings.skip then throw (.skip reason)
    modify fun s =>
      ({ s with entries := s.entries ++ settings.vars.map fun (k, v) => Environment.entry k v } : Script).retabled

/-- Puts a file of the archive in its place. Variables in its name are replaced. Only what the system refuses is a misuse
here. -/
def extract (f : Archive.File) : Action Unit := do
  let s ← get
  let path := s.absolute (s.expand f.name)
  set { s with extracted := Table.insert path f.name s.extracted }
  let place : Files.Access Unit := do
    Files.Access.makeDirectories (Path.parent path)
    Files.Access.write (Path.clean path) f.data
  match ← attempt (Action.files place) with
  | .ok () => pure ()
  | .error (.accident a) => throw (if a.isSystem then .misuse (.accident a) else .accident a)
  | .error e => throw e

/-- What a host is given to dress. -/
def dressing (s : Script) : Dressing :=
  { platform := s.platform, workDir := s.workDir, entries := s.entries, directory := s.directory, values := s.values,
    server := s.scene.server, deferred := s.deferred, notes := s.scene.notes }

/-- A script with what its host did to it even where it failed: variables, notes, and things to be done in the end. -/
def withTraces (d : Dressing) (s : Script) : Script :=
  { s with entries := d.entries, deferred := d.deferred, scene := { s.scene with notes := d.notes } }

/-- A script with all that its host did to it. -/
def withDressing (d : Dressing) (s : Script) : Script :=
  let s := s.withTraces d
  { s with directory := d.directory, values := d.values, scene := { s.scene with server := d.server } }.retabled

/-- What a fault of a host means for a script it dresses. -/
def dressingFault (f : Fault) : Fault :=
  match f with
  | .skip _ => f
  | _ => if f.isFailure then f else .misuse (.setup f.message)

/-- Lets the host dress a script. -/
def dress (host : Host) : Action Unit := do
  match host.dresser? with
  | none => modify (·.retabled)
  | some dresser =>
    let (result, d) := dresser.run (← get).dressing
    match result with
    | .ok () => modify (·.withDressing d)
    | .error f =>
      modify (·.withTraces d)
      throw (dressingFault f)

/-- Sets a script up. The result is its text behind the settings. -/
def setUp (host : Host) : Action String := do
  let s ← get
  let body ← settingUp do
    Action.files (Files.Access.makeDirectories (Path.join s.workDir "tmp"))
    let archive ← readArchive
    readSettings archive.comment
  applySettings
  for f in ((← get).archive.map (·.files)).getD [] do extract f
  dress host
  return body

end Rehearsal.Script
