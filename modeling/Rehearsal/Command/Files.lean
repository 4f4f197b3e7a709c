import Rehearsal.Command.Basic
import Rehearsal.Files.Access

/-!
# Commands on files

Going to a directory, making and removing files, directories and links, and asking which are there.
-/

namespace Rehearsal.Command

open Files

/-- Goes to a directory. -/
def cd : Command := fun m args => do
  refuseModifier "cd" m
  match args with
  | [dir] =>
    let s ← get
    let directory := s.absolute dir
    unless s.scene.disk.exists? directory do Action.misuse (.noDirectory directory)
    unless s.scene.disk.isDirectory directory do Action.misuse (.notDirectory directory)
    set { s with directory }
    log directory
  | _ => usage "cd dir"

/-- The permissions that a text in base eight stands for. -/
def permissions? (text : String) : Option Nat :=
  (Integer.ofOctal? text).bind fun n => if 0 ≤ n && n ≤ 0o777 then some n.toNat else none

/-- Changes the permissions of files and directories. -/
def chmod : Command := fun m args => do
  refuseModifier "chmod" m
  match args with
  | perm :: path :: more =>
    match permissions? perm with
    | none => Action.misuse (.badMode perm)
    | some mode =>
      for path in path :: more do
        let path ← absolute path
        Action.files (Access.chmod path mode)
  | _ => usage "chmod perm paths..."

/-- What a copy is made of: contents and permissions. What the last command wrote can be copied too. -/
def copied (source : String) : Action (Bytes × Nat) := do
  let s ← get
  if source == "stdout" then return (Utf8.encode s.stdout, 0o666)
  else if source == "stderr" then return (Utf8.encode s.stderr, 0o666)
  else
    let path := s.absolute source
    let data ← Action.look fun d => d.read path
    let (_, e) ← Action.look fun d => d.find true path
    return (data, e.mode)

/-- Copies files to a file or into a directory. -/
def cp : Command := fun m args => do
  refuseModifier "cp" m
  match args.reverse with
  | last :: source :: more =>
    let target ← absolute last
    let intoDirectory := (← get).scene.disk.isDirectory target
    if !more.isEmpty && !intoDirectory then Action.misuse (.copyTarget target)
    for source in (source :: more).reverse do
      let (data, mode) ← copied source
      let path := if intoDirectory then Path.join target (Path.baseName source) else target
      Action.files (Access.write path data)
      Action.files (Access.chmod path mode)
  | _ => usage "cp src... dst"

/-- Makes directories and the missing ones above them. -/
def mkdir : Command := fun m args => do
  refuseModifier "mkdir" m
  if args.isEmpty then usage "mkdir dir..."
  for dir in args do
    let path ← absolute dir
    Action.files (Access.makeDirectories path)

/-- Removes files, and directories with everything under them. -/
def rm : Command := fun m args => do
  refuseModifier "rm" m
  if args.isEmpty then usage "rm file..."
  for file in args do
    let path ← absolute file
    Action.files (Access.removeAll path)

/-- Makes a link. Its target is kept as it is written, so a relative one starts from the link. -/
def symlink : Command := fun m args => do
  refuseModifier "symlink" m
  match args with
  | [file, "->", target] =>
    let path ← absolute file
    Action.files (Access.symlink target path)
  | _ => usage "symlink file -> target"

/-- Takes the quote marks of files away. -/
def unquote : Command := fun m args => do
  refuseModifier "unquote" m
  for file in args do
    let path ← absolute file
    let data ← Action.look fun d => d.read path
    match Archive.unquote data with
    | .ok plain => Action.files (Access.write path plain)
    | .error e => throw (.accident (.quoting e))

/-- Keeps the contents of a file for the next program to read. -/
def stdin : Command := fun m args => do
  refuseModifier "stdin" m
  match args with
  | [file] =>
    let text ← Action.text file
    modify fun s => { s with stdin := text }
  | _ => usage "stdin filename"

/-- What is asked of files that are there. -/
structure Wanted where
  readOnly : Bool
  executable : Bool
  deriving DecidableEq, Repr, Inhabited

/-- The flags at the front of arguments, and the files behind them. -/
def Wanted.split (w : Wanted) : List String → Wanted × List String
  | "-readonly" :: rest => split { w with readOnly := true } rest
  | "-exec" :: rest => split { w with executable := true } rest
  | files => (w, files)

/-- The entry a path leads to, or nothing if there is none. That it cannot be told is an accident. -/
def entry? (path : String) : Action (Option Entry) := do
  match (← get).scene.disk.find true path with
  | .ok (_, e) => return some e
  | .error (.refused .notFound _ _) => return none
  | .error e => throw (.accident (.file e))

/-- Checks one file. -/
def Wanted.check (w : Wanted) (m : Modifier) (file : String) : Action Unit := do
  let path ← absolute file
  match m, ← entry? path with
  | .negated, some e => Action.mismatch (.present e.isDirectory file)
  | .plain, none => Action.mismatch (.absent file)
  | .plain, some e =>
    if w.readOnly && e.mode &&& 0o222 != 0 then Action.mismatch (.writable file)
    if w.executable && (← get).platform.isUnix && e.mode &&& 0o111 == 0 then Action.mismatch (.notExecutable file)
  | _, _ => pure ()

/-- Checks that files are there, or that they are not. -/
def existence : Command := fun m args => do
  let (w, files) := Wanted.split ⟨false, false⟩ args
  if files.isEmpty then usage "exists [-readonly] [-exec] file..."
  for file in files do w.check m file

end Rehearsal.Command
