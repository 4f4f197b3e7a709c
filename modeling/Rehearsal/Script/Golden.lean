import Rehearsal.Script.Basic

/-!
# Golden files

The files of an archive that hold what programs are expected to write are its golden files. New contents for them are
collected while a script runs and stored together when it is over: either all of them go into the script file, or it
stays as it is.

Contents that would read as part of the archive are quoted, which takes text of a form that can be quoted.
-/

namespace Rehearsal

/-- Why new contents cannot be stored. -/
inductive Archive.UpdateError where
  | notInArchive (name : String)
  | quoting (name : String) (e : Archive.QuoteError)
  deriving DecidableEq, Repr, Inhabited

namespace Archive

/-- Text as the contents of a file, quoted where it would read as part of the archive. -/
def stored (text : String) : Except QuoteError Bytes :=
  let data := Utf8.encode text
  match needsQuote data with
  | .ok true => quote data
  | _ => .ok data

/-- An archive with new contents in every file of a name. -/
def replace (name : String) (data : Bytes) (a : Archive) : Archive :=
  { a with files := a.files.map fun f => if f.name == name then { f with data } else f }

/-- An archive with new contents for the files of a name. -/
def update (a : Archive) (name text : String) : Except UpdateError Archive :=
  if a.files.any (·.name == name) then
    match stored text with
    | .ok data => .ok (a.replace name data)
    | .error e => .error (.quoting name e)
  else .error (.notInArchive name)

/-- An archive with new contents for several names, in their order. -/
def updateAll (a : Archive) : List (String × String) → Except UpdateError Archive
  | [] => .ok a
  | (name, text) :: rest =>
    match a.update name text with
    | .ok a => a.updateAll rest
    | .error e => .error e

end Archive

namespace Script

/-- What it means for a script that new contents cannot be stored. -/
def updateFault (file : String) : Archive.UpdateError → Fault
  | .notInArchive name => .integrity (.notInArchive name file)
  | .quoting name e => .mismatch (.golden name e)

/-- Writes an archive to the file of the script. -/
def writeArchive (a : Archive) : Action Unit := do
  let s ← get
  match ← attempt (Action.files (Files.Access.write (Path.clean s.file) a.render)) with
  | .ok () => modify (·.logLine s!"{s.file} updated")
  | .error (.accident (.file e)) =>
    throw (match e with
      | .refused .. => .mismatch (.scriptFile e)
      | .nullCharacter => .accident (.file e))
  | .error f => throw f

/-- Stores the new contents of golden files, if there are any. -/
def storeUpdates : Action Unit := do
  let s ← get
  unless s.updates.isEmpty do
    match s.archive with
    | none => throw (.integrity (.noArchive s.file))
    | some archive =>
      match archive.updateAll s.updates with
      | .ok archive => writeArchive archive
      | .error e => throw (updateFault s.file e)

end Script

end Rehearsal
