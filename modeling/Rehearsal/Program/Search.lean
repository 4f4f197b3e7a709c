import Rehearsal.Files.Access
import Rehearsal.Table

/-!
# Looking programs up

Where the program of a command is. A name is looked for in the directories of a path list in their order, of which
an empty one means the current directory; a name with a directory in it is looked at where it says and nowhere
else. A program is a file that may be executed.

Whether a program is on the path of the machine depends on its name alone, so each name is looked up at most once in a run
and the answer is kept.
-/

namespace Rehearsal.Program

open Files

/-- Whether a path leads to a file that may be executed. -/
def isExecutable (d : Disk) (p : String) : Bool :=
  match d.find? true p with
  | some e => !e.isDirectory && e.allows searchBit
  | none => false

/-- The path of a program, as the list of directories leads to it. -/
def find? (d : Disk) (pathList command : String) : Option String :=
  if !(Path.parent command).isEmpty then
    if isExecutable d command then some command else none
  else if pathList.isEmpty then none
  else ((pathList.splitOn ":").map fun dir => Path.join dir command).find? (isExecutable d)

/-- The absolute path of a program. -/
def locate? (d : Disk) (pathList command : String) : Option String :=
  (find? d pathList command).map fun p => Path.normalize (Path.join (Path.ofNames d.base) p)

/-- What is said of a command without a program. -/
def notFound (command : String) : String :=
  s!"exec: {Quoted.text command}: executable file not found in $PATH"

end Rehearsal.Program

namespace Rehearsal

/-- Answers by program name. -/
abbrev ProgramCache := Table Bool

/-- The kept answer for a name, or else the answer of `find`, which is then kept. -/
def ProgramCache.lookup (cache : ProgramCache) (name : String) (find : String → Bool) : Bool × ProgramCache :=
  match Table.get? name cache with
  | some known => (known, cache)
  | none => (find name, Table.insert name (find name) cache)

end Rehearsal
