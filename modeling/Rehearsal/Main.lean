import Rehearsal.CommandLine
import Rehearsal.Stage

/-!
# The program

Copies the files of the current directory onto the stage, performs there what the command line asks for, and copies back
what has changed. Everything else is decided by `CommandLine.answer`.
-/

namespace Rehearsal.Main

/-- The directories and files at and below an entry of a directory, with paths that begin with a given text. -/
partial def gather (front : String) (entry : IO.FS.DirEntry) : IO (List String × List Stage.Piece) := do
  let path := front ++ entry.fileName
  if ← entry.path.isDir then
    let inner ← (← entry.path.readDir).toList.mapM (gather (path ++ "/"))
    return (path :: inner.flatMap (·.1), inner.flatMap (·.2))
  else
    let data ← IO.FS.readBinFile entry.path
    return ([], [⟨path, data.toList, none⟩])

/-- Copies an entry back from the stage. -/
def copyBack (path : String) : Files.Entry → IO Unit
  | .directory _ => IO.FS.createDirAll path
  | .file _ data => IO.FS.writeBinFile path ⟨data.toArray⟩
  | .link _ | .device _ => return ()

/-- Copies back what is new or different, and removes what is gone. -/
def settle (before after : List Stage.Listed) : IO Unit := do
  for (path, entry) in after do
    unless before.lookup path == some entry do copyBack path entry
  for (path, entry) in before.reverse do
    if (after.lookup path).isNone then
      if entry.isDirectory then IO.FS.removeDir path else IO.FS.removeFile path

/-- The terminal the report goes to. -/
def terminal : IO Report.Terminal := do
  let vars ← ["NO_COLOR", "TERM", "WT_SESSION"].mapM fun key => do return (key, (← IO.getEnv key).getD "")
  return ⟨← (← IO.getStdout).isTty, some "utf-8", vars⟩

/-- Writes an answer. The result is the exit code. -/
def write : Except CommandLine.Crash CommandLine.Answer → IO UInt32
  | .ok a => do
    IO.print a.stdout
    IO.eprint a.stderr
    return a.exitCode.toUInt32
  | .error c => do
    IO.eprintln s!"{c.cause.label}: {c.cause.message}"
    return 1

end Rehearsal.Main

open Rehearsal in
/-- Answers the arguments of the command line. -/
def main (arguments : List String) : IO UInt32 := do
  let here ← IO.currentDir
  let home := Path.names here.toString
  let found ← (← here.readDir).toList.mapM (Main.gather "")
  let disk := Stage.dress (Stage.diskAt home) (found.flatMap (·.1)) (found.flatMap (·.2))
  let place : Run.Place := ⟨Stage.platform, Stage.temporaryPath⟩
  let scene := Scene.ofDisk disk [("PATH", Stage.pathList)]
  let (answer, scene) := CommandLine.answer (← Main.terminal) place arguments scene
  Main.settle (Stage.listing disk.tree home) (Stage.listing scene.disk.tree home)
  Main.write answer
