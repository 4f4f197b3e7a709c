import Rehearsal.Files.Path
import Rehearsal.Text.Quoted

/-!
# File trees

A file tree is a list of entries under the names that lead to them from the root. The root itself is always
there. `walk` follows a path through it the way the operating system does: names are looked up one by one, a
link in the middle is always followed and one at the end on request, every directory on the way has to allow
searching, and no more than forty links are followed.

What this does not decide: whether the directory an entry stands in exists. Nothing here makes an entry in a
directory that is not there, but a list of entries written by hand may hold one.
-/

namespace Rehearsal.Files

/-- What stands under a path. A device reads as empty and swallows what is written. -/
inductive Entry where
  | file (mode : Nat) (data : Bytes)
  | directory (mode : Nat)
  | link (target : String)
  | device (mode : Nat)
  deriving DecidableEq, Repr, Inhabited

/-- The permission bits of an entry. Those of a link are never asked for. -/
def Entry.mode : Entry → Nat
  | .file mode _ | .directory mode | .device mode => mode
  | .link _ => 0o777

/-- Whether an entry is a directory. -/
def Entry.isDirectory : Entry → Bool
  | .directory _ => true
  | _ => false

/-- Whether an entry is a link. -/
def Entry.isLink : Entry → Bool
  | .link _ => true
  | _ => false

/-- Whether an entry is a plain file. -/
def Entry.isFile : Entry → Bool
  | .file .. => true
  | _ => false

/-- Whether the owner may read, write or search, by the weight of the bit. -/
def Entry.allows (e : Entry) (bit : Nat) : Bool := e.mode / bit % 2 == 1

/-- The weight of the owner's reading bit. -/
def readBit : Nat := 0o400

/-- The weight of the owner's writing bit. -/
def writeBit : Nat := 0o200

/-- The weight of the owner's searching bit. -/
def searchBit : Nat := 0o100

/-- A file tree: entries under the names that lead to them. -/
structure Tree where
  entries : List (List String × Entry)
  deriving DecidableEq, Repr, Inhabited

/-- Why the operating system refuses something. -/
inductive Refusal where
  | notPermitted | notFound | execFormat | noAccess | busy | exists | notDirectory | isDirectory | invalid
  | nameTooLong | notEmpty | tooManyLinks
  deriving DecidableEq, Repr, Inhabited

/-- The number of a refusal. -/
def Refusal.number : Refusal → Nat
  | .notPermitted => 1
  | .notFound => 2
  | .execFormat => 8
  | .noAccess => 13
  | .busy => 16
  | .exists => 17
  | .notDirectory => 20
  | .isDirectory => 21
  | .invalid => 22
  | .nameTooLong => 36
  | .notEmpty => 39
  | .tooManyLinks => 40

/-- The wording of a refusal. -/
def Refusal.reason : Refusal → String
  | .notPermitted => "Operation not permitted"
  | .notFound => "No such file or directory"
  | .execFormat => "Exec format error"
  | .noAccess => "Permission denied"
  | .busy => "Device or resource busy"
  | .exists => "File exists"
  | .notDirectory => "Not a directory"
  | .isDirectory => "Is a directory"
  | .invalid => "Invalid argument"
  | .nameTooLong => "File name too long"
  | .notEmpty => "Directory not empty"
  | .tooManyLinks => "Too many levels of symbolic links"

namespace Tree

/-- The tree with nothing below its root. -/
def empty : Tree := ⟨[]⟩

/-- The entry under a list of names. -/
def get? (t : Tree) (path : List String) : Option Entry :=
  if path.isEmpty then some (.directory 0o755) else t.entries.lookup path

/-- Puts an entry under a list of names, in place of the one that is there. -/
def put (t : Tree) (path : List String) (e : Entry) : Tree :=
  if t.entries.any (·.1 == path) then
    ⟨t.entries.map fun (p, old) => (p, if p == path then e else old)⟩
  else ⟨t.entries ++ [(path, e)]⟩

/-- Takes away the entry under a list of names. -/
def erase (t : Tree) (path : List String) : Tree := ⟨t.entries.filter fun (p, _) => p != path⟩

/-- The names directly below a list of names. -/
def children (t : Tree) (path : List String) : List String :=
  t.entries.filterMap fun (p, _) =>
    if p.length == path.length + 1 && path.isPrefixOf p then p.getLast? else none

/-- Whether one list of names leads to a place at or below another. -/
def isBelow (top path : List String) : Bool := top.isPrefixOf path

/-- The tree without everything at or below a list of names. -/
def prune (t : Tree) (top : List String) : Tree := ⟨t.entries.filter fun (p, _) => !isBelow top p⟩

end Tree

/-- Where a path leads: to an entry, or to a name that is free in a directory. -/
inductive Spot where
  | entry (path : List String) (e : Entry)
  | free (directory : List String) (name : String)
  deriving DecidableEq, Repr, Inhabited

/-- The most links that are followed for one path. -/
def maxLinks : Nat := 40

/-- The most bytes in a name. -/
def maxName : Nat := 255

/-- The most bytes in a path. -/
def maxPath : Nat := 4095

/-- The steps of a path: its names with the dots, without empty ones. A slash at the end of a link's target asks for
a directory, as a single dot behind it does. -/
def steps (p : String) : List String :=
  let ns := (p.splitOn "/").filter fun n => !n.isEmpty
  if p.endsWith "/" && !ns.isEmpty then ns ++ ["."] else ns

/-- The names of a directory after a pair of dots. -/
def up (path : List String) : List String := path.dropLast

/-- Follows steps from a directory. `follow` says whether a link at the very end is followed too. -/
def walk (t : Tree) (follow : Bool) (links : Nat) (directory : List String) (path : List String) :
    Except Refusal Spot :=
  match path with
  | [] =>
    match t.get? directory with
    | some e => .ok (.entry directory e)
    | none => .error .notFound
  | name :: rest =>
    match t.get? directory with
    | none => .error .notFound
    | some here =>
      if !here.isDirectory then .error .notDirectory
      else if !here.allows searchBit then .error .noAccess
      else if name == "." then walk t follow links directory rest
      else if name == ".." then walk t follow links (up directory) rest
      else if maxName < name.utf8ByteSize then .error .nameTooLong
      else
        match t.get? (directory ++ [name]) with
        | none => if rest.isEmpty then .ok (.free directory name) else .error .notFound
        | some (.link target) =>
          if rest.isEmpty && !follow then .ok (.entry (directory ++ [name]) (.link target))
          else match links with
            | 0 => .error .tooManyLinks
            | links + 1 =>
              walk t follow links (if Path.isAbsolute target then [] else directory) (steps target ++ rest)
        | some e =>
          if rest.isEmpty then .ok (.entry (directory ++ [name]) e)
          else if e.isDirectory then walk t follow links (directory ++ [name]) rest
          else .error .notDirectory
termination_by (links, path.length)

/-- How a path ends, where that makes a difference to what may be done with it. -/
inductive Ending where
  | name | dot | dots | root
  deriving DecidableEq, Repr, Inhabited

/-- The ending of a path, slashes at its end not counted. -/
def ending (p : String) : Ending :=
  match ((p.splitOn "/").filter fun n => !n.isEmpty).getLast? with
  | none => .root
  | some "." => .dot
  | some ".." => .dots
  | some _ => .name

/-- Whether a path ends in a slash behind something. -/
def endsInSlash (p : String) : Bool := p.endsWith "/"

/-- Where a path leads, from a directory it is relative to. -/
def locate (t : Tree) (base : List String) (follow : Bool) (p : String) : Except Refusal Spot :=
  if p.isEmpty then .error .notFound
  else if maxPath < p.utf8ByteSize then .error .nameTooLong
  else walk t follow maxLinks (if Path.isAbsolute p then [] else base) ((p.splitOn "/").filter fun n => !n.isEmpty)

/-- The entry a path leads to. With a slash at its end it has to be a directory, and a link there is followed in any
case. -/
def find (t : Tree) (base : List String) (follow : Bool) (p : String) : Except Refusal (List String × Entry) :=
  let slash := endsInSlash p
  match locate t base (follow || slash) p with
  | .error e => .error e
  | .ok (.free ..) => .error .notFound
  | .ok (.entry path e) => if slash && !e.isDirectory then .error .notDirectory else .ok (path, e)

end Rehearsal.Files
