import Rehearsal.Files.Access
import Rehearsal.Program.Tools.Stream

/-!
# Tools on files

Programs that make files, list them and take them away, and that take paths apart.
-/

namespace Rehearsal.Program.Tools

open Files

/-- Does something for each of some paths, and complains where it is refused. -/
def eachPath (what : String) (paths : List String) (a : String → Access Unit) : Run Int := do
  let mut code : Int := 0
  for p in paths do
    match ← Run.files (a p) with
    | .ok () => pure ()
    | .error e =>
      let why := reason e
      Run.blame s!"{what} '{p}': {why}"
      code := 1
  return code

/-- The options at the front of arguments, as letters, and the rest. -/
def letters (args : List String) : List Char × List String :=
  let isOption (a : String) : Bool := a.startsWith "-" && a != "-" && a != "--"
  let rest := args.dropWhile isOption
  ((args.takeWhile isOption).flatMap fun a => a.toList.drop 1, if rest.head? == some "--" then rest.tail else rest)

/-- Makes directories. -/
def mkdir (args : List String) : Run Int := do
  let (options, paths) := letters args
  eachPath "cannot create directory" paths fun p =>
    if options.contains 'p' then Access.makeDirectories p else Access.makeDirectory p

/-- Takes empty directories away. -/
def rmdir (args : List String) : Run Int := eachPath "failed to remove" args Access.removeDirectory

/-- Takes files away, and directories where that is asked for. -/
def rm (args : List String) : Run Int := do
  let (options, paths) := letters args
  let d := (← get).disk
  let paths := if options.contains 'f' then paths.filter d.present else paths
  eachPath "cannot remove" paths fun p =>
    if (options.contains 'r' || options.contains 'R') && d.isDirectory p then Access.removeAll p else Access.unlink p

/-- Makes files that are not there. -/
def touch (args : List String) : Run Int := do
  let d := (← get).disk
  eachPath "cannot touch" args fun p => if d.exists? p then return else Access.write p []

/-- Where something goes when it is brought to a path: into it, if that is a directory. -/
def destination (d : Disk) (source target : String) : String :=
  if d.isDirectory target then Path.join target (Path.baseName source) else target

/-- Copies files. -/
def cp (args : List String) : Run Int := do
  let (_, paths) := letters args
  match paths.reverse with
  | target :: sources =>
    eachPath "cannot stat" sources.reverse fun p => do
      let d ← get
      let data ← Access.look fun d => d.read p
      let (_, e) ← Access.look fun d => d.find true p
      let new := destination d p target
      let isNew := !d.exists? new
      Access.write new data
      if isNew then Access.chmod new e.mode
  | [] =>
    Run.blame "missing file operand"
    return 1

/-- Brings files to another place. -/
def mv (args : List String) : Run Int := do
  let (_, paths) := letters args
  match paths.reverse with
  | target :: sources =>
    eachPath "cannot stat" sources.reverse fun p => do
      let d ← get
      let data ← Access.look fun d => d.read p
      let (_, e) ← Access.look fun d => d.find true p
      let new := destination d p target
      Access.write new data
      Access.chmod new e.mode
      Access.unlink p
  | [] =>
    Run.blame "missing file operand"
    return 1

/-- Makes links that keep their targets as they are written. -/
def ln (args : List String) : Run Int := do
  let (_, paths) := letters args
  match paths with
  | [target, p] => eachPath "failed to create symbolic link" [p] (Access.symlink target)
  | _ =>
    Run.blame "missing file operand"
    return 1

/-- Changes permissions that are given in base eight. -/
def chmod (args : List String) : Run Int := do
  match args with
  | mode :: paths =>
    match Integer.ofOctal? mode with
    | some n => eachPath "cannot access" paths fun p => Access.chmod p n.toNat
    | none =>
      if mode == "+x" then
        eachPath "cannot access" paths fun p => do
          let (_, e) ← Access.look fun d => d.find true p
          Access.chmod p (e.mode ||| 0o111)
      else
        Run.complain s!"chmod: invalid mode: '{mode}'"
        return 1
  | [] =>
    Run.blame "missing operand"
    return 1

/-- Lists directories, each name on a line. -/
def ls (args : List String) : Run Int := do
  let (options, paths) := letters args
  let d := (← get).disk
  let paths := if paths.isEmpty then ["."] else paths.mergeSort fun a b => a ≤ b
  let mut code : Int := 0
  for p in paths do
    unless d.exists? p do
      Run.complain s!"ls: cannot access '{p}': No such file or directory"
      code := 2
  let found := paths.filter d.exists?
  let files := found.filter fun p => !d.isDirectory p || options.contains 'd'
  for p in files do Run.writeLine p
  let directories := found.filter fun p => d.isDirectory p && !options.contains 'd'
  let mut started := !files.isEmpty
  for p in directories do
    if 1 < paths.length then Run.writeLine (if started then s!"\n{p}:" else s!"{p}:")
    started := true
    match d.names p with
    | .error e =>
      Run.complain s!"ls: cannot open directory '{p}': {reason e}"
      code := 2
    | .ok names =>
      let dots := if options.contains 'a' then [".", ".."] else []
      let shown := (dots ++ names).filter fun name =>
        options.contains 'a' || options.contains 'A' || !name.startsWith "."
      for name in shown.mergeSort fun a b => a ≤ b do Run.writeLine name
  return code

/-- Writes the path of the current directory. -/
def pwd : Run Int := do
  Run.writeLine (Path.ofNames (← get).disk.base)
  return 0

/-- The last name of a path, slashes at its end not counted, without an ending. -/
def baseName (p ending : String) : String :=
  let cs := (p.toList.reverse.dropWhile (· == '/')).reverse
  let name := Path.baseName (String.ofList cs)
  if cs.isEmpty && !p.isEmpty then "/"
  else if !ending.isEmpty && name.endsWith ending && name != ending then
    String.ofList (name.toList.take (name.length - ending.length))
  else name

/-- Writes the last name of a path. -/
def basename (args : List String) : Run Int := do
  match args with
  | [] =>
    Run.blame "missing operand"
    return 1
  | p :: rest =>
    Run.writeLine (baseName p (rest.headD ""))
    return 0

/-- Writes what stands before the last name of a path. -/
def dirname (args : List String) : Run Int := do
  match args with
  | [] =>
    Run.blame "missing operand"
    return 1
  | p :: _ =>
    let cs := (p.toList.reverse.dropWhile (· == '/')).reverse
    let head := Path.parent (String.ofList cs)
    Run.writeLine (if cs.isEmpty && !p.isEmpty then "/" else if head.isEmpty then "." else head)
    return 0

end Rehearsal.Program.Tools
