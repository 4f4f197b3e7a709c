import Rehearsal.Files.Tree

/-!
# Working with files

The operations of the operating system on a file tree, each with the checks it makes and the order it makes
them in. An operation that fails says why and for which path, and leaves the tree as it was; operations that are
made of several keep what was done before the failure.

Paths are relative to the directory the program was started in. New files and directories are made with the
permissions a mask of 022 leaves.
-/

namespace Rehearsal.Files

/-- Why an operation on files fails. -/
inductive Error where
  /-- The operating system refuses it for a path, or for a link and its path. -/
  | refused (why : Refusal) (path : String) (link : Option String)
  /-- The path holds a null character, which no path can. -/
  | nullCharacter
  deriving DecidableEq, Repr, Inhabited

/-- The wording of an error. -/
def Error.message : Error → String
  | .refused why path none => s!"[Errno {why.number}] {why.reason}: {Quoted.text path}"
  | .refused why path (some link) =>
    s!"[Errno {why.number}] {why.reason}: {Quoted.text path} -> {Quoted.text link}"
  | .nullCharacter => "embedded null byte"

/-- A file tree and the directory that relative paths start from. -/
structure Disk where
  tree : Tree
  base : List String
  deriving Repr, Inhabited

/-- A step that works on a disk. What it has done stays done when it fails. -/
abbrev Access := ExceptT Error (StateM Disk)

/-- The mode of a new file. -/
def newFileMode : Nat := 0o644

/-- The mode of a new directory. -/
def newDirectoryMode : Nat := 0o755

namespace Disk

/-- The entry a path leads to, links at its end followed if `follow` is set. -/
def find (d : Disk) (follow : Bool) (p : String) : Except Error (List String × Entry) :=
  if p.contains '\x00' then .error .nullCharacter
  else match Files.find d.tree d.base follow p with
    | .ok found => .ok found
    | .error why => .error (.refused why p none)

/-- The entry a path leads to, if it leads to one. -/
def find? (d : Disk) (follow : Bool) (p : String) : Option Entry :=
  match d.find follow p with
  | .ok (_, e) => some e
  | .error _ => none

/-- Whether a path leads to anything, links followed. -/
def exists? (d : Disk) (p : String) : Bool := (d.find? true p).isSome

/-- Whether a path leads to anything, a link counted as itself. -/
def present (d : Disk) (p : String) : Bool := (d.find? false p).isSome

/-- Whether a path leads to a directory. -/
def isDirectory (d : Disk) (p : String) : Bool := (d.find? true p).any Entry.isDirectory

/-- Whether a path leads to a plain file. -/
def isFile (d : Disk) (p : String) : Bool := (d.find? true p).any Entry.isFile

/-- Whether a path names a link. -/
def isLink (d : Disk) (p : String) : Bool := (d.find? false p).any Entry.isLink

/-- Whether a directory may be searched. -/
def searchable (d : Disk) (path : List String) : Bool := (d.tree.get? path).any (Entry.allows · searchBit)

/-- Whether entries of a directory may be made and taken away. -/
def changeable (d : Disk) (path : List String) : Bool :=
  (d.tree.get? path).any fun e => e.allows writeBit && e.allows searchBit

/-- The contents of a file. -/
def read (d : Disk) (p : String) : Except Error Bytes :=
  match d.find true p with
  | .error e => .error e
  | .ok (_, .directory mode) =>
    .error (.refused (if (Entry.directory mode).allows readBit then .isDirectory else .noAccess) p none)
  | .ok (_, e) =>
    if !e.allows readBit then .error (.refused .noAccess p none)
    else match e with
      | .file _ data => .ok data
      | _ => .ok []

/-- The names in a directory, in the order they were made. -/
def names (d : Disk) (p : String) : Except Error (List String) :=
  match d.find true p with
  | .error e => .error e
  | .ok (path, e) =>
    if !e.isDirectory then .error (.refused .notDirectory p none)
    else if !e.allows readBit then .error (.refused .noAccess p none)
    else .ok (d.tree.children path)

/-- The place a path leads to when something is made or taken away there: its last name is not followed. -/
def spot (d : Disk) (p : String) (link : Option String) : Except Error Spot :=
  if p.contains '\x00' || (link.any (·.contains '\x00')) then .error .nullCharacter
  else match locate d.tree d.base false p with
    | .ok s => .ok s
    | .error why =>
      .error (match link with
        | none => .refused why p none
        | some target => .refused why target (some p))

end Disk

namespace Access

/-- Fails as a path is refused. -/
def refuse {α : Type} (why : Refusal) (p : String) : Access α := throw (.refused why p none)

/-- The result of a look at the disk. -/
def look {α : Type} (f : Disk → Except Error α) : Access α := do
  match f (← get) with
  | .ok a => return a
  | .error e => throw e

/-- Changes the tree. -/
def change (f : Tree → Tree) : Access Unit := modify fun d => { d with tree := f d.tree }

/-- Writes a file: the contents of an existing one are replaced, and a missing one is made where its directory allows
it. A path that ends in a slash can only mean a directory. -/
def write (p : String) (data : Bytes) : Access Unit := do
  let d ← get
  if p.contains '\x00' then throw .nullCharacter
  if p.isEmpty then refuse .notFound p
  -- What stands before the last name is looked at first, then the slash.
  if endsInSlash p then
    match locate d.tree d.base false p with
    | .error why => refuse why p
    | .ok _ => refuse .isDirectory p
  match locate d.tree d.base true p with
  | .error why => refuse why p
  | .ok (.entry path e) =>
    match e with
    | .directory _ => refuse .isDirectory p
    | _ =>
      if !e.allows writeBit then refuse .noAccess p
      match e with
      | .file mode _ => change fun t => t.put path (.file mode data)
      | _ => return ()
  | .ok (.free directory name) =>
    if !d.changeable directory then refuse .noAccess p
    change fun t => t.put (directory ++ [name]) (.file newFileMode data)

/-- An entry with other permission bits. -/
def withMode (mode : Nat) : Entry → Entry
  | .file _ data => .file mode data
  | .directory _ => .directory mode
  | .device _ => .device mode
  | .link target => .link target

/-- Changes the permissions of what a path leads to. -/
def chmod (p : String) (mode : Nat) : Access Unit := do
  let (path, e) ← look fun d => d.find true p
  change fun t => t.put path (withMode mode e)

/-- Makes a directory. -/
def makeDirectory (p : String) : Access Unit := do
  match ← look fun d => d.spot p none with
  | .entry .. => refuse .exists p
  | .free directory name =>
    unless (← get).changeable directory do refuse .noAccess p
    change fun t => t.put (directory ++ [name]) (.directory newDirectoryMode)

/-- A path cut before its last name: what is in front, without slashes at its end, and the name. -/
def splitLast (p : String) : String × String := (Path.parent p, Path.baseName p)

/-- A path cut before its last name, slashes at its end not counted. -/
def splitLastName (p : String) : String × String :=
  let (head, tail) := splitLast p
  if tail.isEmpty then splitLast head else (head, tail)

/-- Makes a directory, and does nothing when there already is one. -/
def ensureDirectory (p : String) : Access Unit := do
  try makeDirectory p
  catch e => unless (← get).isDirectory p do throw e

/-- Makes a directory and the missing ones above it. The bound is the length of the path. -/
def makeDirectoriesIn (p : String) : Nat → Access Unit
  | 0 => ensureDirectory p
  | n + 1 => do
    let (head, tail) := splitLastName p
    if !head.isEmpty && !tail.isEmpty && !(← get).exists? head then
      try makeDirectoriesIn head n
      catch e =>
        match e with
        | .refused .exists _ _ => pure ()
        | _ => throw e
      if tail == "." then return
    ensureDirectory p

/-- Makes a directory and the missing ones above it; one that is there already is kept. -/
def makeDirectories (p : String) : Access Unit := makeDirectoriesIn p p.length

/-- Makes the directory of an absolute path, and when one above it is missing, that one first. The names of the path
come last one first. -/
def makePath : List String → Access Unit
  | [] => ensureDirectory Path.root
  | name :: above => do
    let p := Path.ofNames (name :: above).reverse
    try makeDirectory p
    catch e =>
      match e with
      | .refused .notFound _ _ => do
        makePath above
        ensureDirectory p
      | _ => unless (← get).isDirectory p do throw e

/-- Makes a link. Its target is kept as it is written. -/
def symlink (target p : String) : Access Unit := do
  let refuse (why : Refusal) : Access Unit := throw (.refused why target (some p))
  match ← look fun d => d.spot p (some target) with
  | .entry .. => if target.isEmpty then refuse .notFound else refuse .exists
  | .free directory name =>
    if target.isEmpty then refuse .notFound
    else if endsInSlash p then refuse .notFound
    else if maxPath < target.utf8ByteSize then refuse .nameTooLong
    else if !(← get).changeable directory then refuse .noAccess
    else change fun t => t.put (directory ++ [name]) (.link target)

/-- Takes away something that is no directory. -/
def unlink (p : String) : Access Unit := do
  if (ending p) != .name then
    let _ ← look fun d => d.find true p
    refuse .isDirectory p
  match ← look fun d => (d.spot p none) with
  | .free .. => refuse .notFound p
  | .entry path e =>
    if endsInSlash p then refuse (if e.isDirectory then .isDirectory else .notDirectory) p
    else if !(← get).changeable (up path) then refuse .noAccess p
    else if e.isDirectory then refuse .isDirectory p
    else change fun t => t.erase path

/-- Takes away an empty directory. -/
def removeDirectory (p : String) : Access Unit := do
  match ending p with
  | .dot => do let _ ← look fun d => d.find true p; refuse .invalid p
  | .dots => do let _ ← look fun d => d.find true p; refuse .notEmpty p
  | .root => if p.isEmpty then refuse .notFound p else refuse .busy p
  | .name =>
    match ← look fun d => d.spot p none with
    | .free .. => refuse .notFound p
    | .entry path e =>
      let d ← get
      if !d.changeable (up path) then refuse .noAccess p
      else if !e.isDirectory then refuse .notDirectory p
      else if !(d.tree.children path).isEmpty then refuse .notEmpty p
      else change fun t => t.erase path

end Access

end Rehearsal.Files

/-!
## Removing a subtree

`removeAll` takes away what a path names and everything under it. A directory is made writable first, and so is
every directory below it, links left out. Links are taken away and never followed; only a path that ends in a
slash reaches through a link at its end.

Directories are made writable by their paths. What is in a directory is taken away in the directory itself, wherever
its path leads by then.
-/

namespace Rehearsal.Files.Access

/-- Whether a name in a directory leads to a directory. What stands there itself is told by the directory, and a link
is followed by its path. -/
def leadsToDirectory (d : Disk) (place : List String) (p name : String) : Bool :=
  match d.tree.get? (place ++ [name]) with
  | some (.directory _) => true
  | some (.link _) => d.isDirectory (Path.join p name)
  | _ => false

/-- The paths in a directory that lead to directories. There are none in one that cannot be listed. -/
def directoriesIn (d : Disk) (p : String) : List String :=
  match d.find true p with
  | .error _ => []
  | .ok (place, e) =>
    if e.isDirectory && e.allows readBit then
      ((d.tree.children place).filter fun name => leadsToDirectory d place p name).map (Path.join p)
    else []

/-- The mode of a directory whose contents are to be taken away. -/
def openMode : Nat := 0o777

/-- Does something for each of several paths, those left out that name a link by then. -/
def forUnlinked (paths : List String) (act : String → Access Unit) : Access Unit := do
  for full in paths do
    unless (← get).isLink full do act full

/-- Makes every directory below a path writable. The bound is on the depth. -/
def openBelow (p : String) : Nat → Access Unit
  | 0 => return ()
  | n + 1 => do
    let directories := directoriesIn (← get) p
    forUnlinked directories (chmod · openMode)
    forUnlinked directories (openBelow · n)

/-- Takes away what is under a name in a directory, if nothing is in it. -/
def removeName (place : List String) (name : String) : Access Unit := do
  let d ← get
  if !d.changeable place then refuse .noAccess name
  else if !(d.tree.children (place ++ [name])).isEmpty then refuse .notEmpty name
  else change fun t => t.erase (place ++ [name])

/-- Takes away what is under a name in a directory. A directory is cleared first. A refusal shows the bare name. -/
def removeUnder (place : List String) (clear : List String → Access Unit) (name : String) : Access Unit := do
  let d ← get
  match d.tree.get? (place ++ [name]) with
  | some (.directory mode) =>
    if !(d.searchable place && (Entry.directory mode).allows readBit) then refuse .noAccess name
    clear (place ++ [name])
  | _ => pure ()
  removeName place name

/-- Takes away everything in a directory. The bound is on the depth. -/
def removeContents (place : List String) : Nat → Access Unit
  | 0 => return ()
  | n + 1 => do
    for name in (← get).tree.children place do
      removeUnder place (removeContents · n) name

/-- Takes away a directory and everything under it. -/
def removeTree (p : String) : Access Unit := do
  let (place, e) ← look fun d => d.find true p
  unless e.allows readBit do refuse .noAccess p
  removeContents place ((← get).tree.entries.length + 1)
  removeDirectory p

/-- Takes away what a path names, with everything under it. A path that names nothing is no failure. -/
def removeAll (p : String) : Access Unit := do
  let d ← get
  if d.isDirectory p && !d.isLink p then
    openBelow p (d.tree.entries.length + 1)
    chmod p openMode
    removeTree p
  else if d.present p then unlink p

end Rehearsal.Files.Access
