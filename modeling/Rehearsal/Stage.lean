import Rehearsal.Platform
import Rehearsal.Program.Process

/-!
# The stage

The machine that scripts are rehearsed on. It has the usual directories, the null device and a handful of programs,
and a place of its own with two directories: `work`, where a run starts, and `temporary`, where it makes temporary
directories.
-/

namespace Rehearsal.Stage

open Files

/-- The names of the directory that holds everything a run may touch. -/
def top : List String := ["tmp", "tree"]

/-- The names of the directory a run starts in. -/
def work : List String := top ++ ["w"]

/-- The names of the directory for temporary files. -/
def temporary : List String := top ++ ["t"]

/-- The path of the directory that a run makes for temporary files. -/
def temporaryPath : String := Path.ofNames (temporary ++ ["hlscript00000000"])

/-- The platform of the machine. -/
def platform : Platform := ⟨"linux", "x86_64"⟩

/-- The names of the directory of programs. -/
def programs : List String := ["usr", "bin"]

/-- The path list that leads to the programs. -/
def pathList : String := "/usr/local/bin:/usr/bin:/bin"

/-- The entries of the machine. The last is the directory a run starts in. -/
def entries : List (List String × Entry) :=
  [(["bin"], .link "usr/bin"), (["dev"], .directory newDirectoryMode), (["dev", "null"], .device 0o666),
    (["tmp"], .directory 0o777), (["usr"], .directory newDirectoryMode), (programs, .directory newDirectoryMode),
    (["usr", "local"], .directory newDirectoryMode), (["usr", "local", "bin"], .directory newDirectoryMode)] ++
  Program.names.map (fun name => (programs ++ [name], .file newDirectoryMode (Program.fileOf name))) ++
  [(top, .directory newDirectoryMode), (temporary, .directory newDirectoryMode),
    (work, .directory newDirectoryMode)]

/-- The machine before anything is put on it. -/
def disk : Disk := ⟨⟨entries⟩, work⟩

/-- The machine with a run that starts in another directory, which is made where it is missing. -/
def diskAt (home : List String) : Disk :=
  let tree := (List.range home.length).foldl (fun (t : Tree) n =>
    let path := home.take (n + 1)
    if (t.get? path).isSome then t else t.put path (.directory newDirectoryMode)) disk.tree
  ⟨tree, home⟩

/-- A file to put on the stage, with its permissions unless they are the usual ones. -/
structure Piece where
  path : String
  data : Bytes
  mode : Option Nat
  deriving Repr, Inhabited

/-- Puts a file on the stage, and makes the directories it stands in. -/
def place (p : Piece) : Access Unit := do
  let dir := Path.parent p.path
  unless dir.isEmpty do Access.makeDirectories dir
  Access.write p.path p.data
  if let some mode := p.mode then Access.chmod p.path mode

/-- The stage with directories and files on it. What cannot be put there is left out. -/
def dress (d : Disk) (dirs : List String) (pieces : List Piece) : Disk :=
  let step (d : Disk) (a : Access Unit) : Disk := (a.run d).2
  pieces.foldl (fun d p => step d (place p)) (dirs.foldl (fun d dir => step d (Access.makeDirectories dir)) d)

/-- One line of a listing: a relative path and the entry there. -/
abbrev Listed := String × Entry

/-- Whether every directory between two lists of names can be read. -/
def isReadable (t : Tree) (directory path : List String) : Bool :=
  (List.range path.length).all fun n =>
    n ≤ directory.length || (t.get? (path.take n)).any (Entry.allows · readBit)

/-- Everything that can be seen below a directory, with paths relative to it, sorted by their bytes. -/
def listing (t : Tree) (directory : List String) : List Listed :=
  let below := t.entries.filterMap fun (p, e) =>
    if directory.isPrefixOf p && directory.length < p.length && isReadable t directory p then
      some ("/".intercalate (p.drop directory.length), e)
    else none
  below.mergeSort fun a b => a.1 ≤ b.1

end Rehearsal.Stage
