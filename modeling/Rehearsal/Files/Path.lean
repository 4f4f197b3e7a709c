/-!
# Paths as text

A path is a text of names between slashes. These functions look at the text only: nothing here asks whether
anything is there.
-/

namespace Rehearsal.Path

/-- The character between the names of a path. -/
def separator : Char := '/'

/-- Whether a path starts at the root. -/
def isAbsolute (p : String) : Bool := p.startsWith "/"

/-- A path read from the directory `base`. An absolute path stays as it is, and no second slash is put behind a
base that ends in one. -/
def join (base p : String) : String :=
  if isAbsolute p then p
  else if base.isEmpty || base.endsWith "/" then base ++ p
  else base ++ "/" ++ p

/-- The text behind the last slash, as characters. -/
def baseChars (cs : List Char) : List Char := (cs.reverse.takeWhile (· != separator)).reverse

/-- The last name of a path: the text behind its last slash. -/
def baseName (p : String) : String := String.ofList (baseChars p.toList)

/-- The text before the last name of a path, without slashes at its end unless it is nothing else. -/
def parent (p : String) : String :=
  let head := p.toList.reverse.dropWhile (· != separator)
  if head.all (· == separator) then String.ofList head.reverse
  else String.ofList (head.dropWhile (· == separator)).reverse

/-- A name without its extension, that is without its last dot and what follows. Dots at the front of a name do
not begin an extension. -/
def stem (name : List Char) : List Char :=
  let dots := name.takeWhile (· == '.')
  let rest := name.dropWhile (· == '.')
  match rest.reverse.dropWhile (· != '.') with
  | [] => name
  | _ :: front => dots ++ front.reverse

/-- The names of a path, empty ones and single dots left out. -/
def names (p : String) : List String :=
  (p.splitOn "/").filter fun n => !n.isEmpty && n != "."

/-- Takes back one name for each pair of dots. At the root a pair of dots has nothing to take back. -/
def foldDots (absolute : Bool) (ns : List String) : List String :=
  (ns.foldl (fun done n =>
    if n == ".." then
      match done with
      | [] => if absolute then [] else [n]
      | last :: more => if last == ".." then n :: done else more
    else n :: done) []).reverse

/-- A path without single dots, repeated slashes and names taken back by a pair of dots. -/
def normalize (p : String) : String :=
  if p.isEmpty then "."
  else
    let absolute := isAbsolute p
    -- Exactly two slashes at the front are kept: they may mean something else than one.
    let root := if p.startsWith "//" && !p.startsWith "///" then "//" else if absolute then "/" else ""
    let body := "/".intercalate (foldDots absolute (names p))
    if root.isEmpty && body.isEmpty then "." else root ++ body

/-- A path without single dots, repeated slashes and slashes at the end. Pairs of dots are kept, because what is
before them may be a link. -/
def clean (p : String) : String :=
  let root := if p.startsWith "//" && !p.startsWith "///" then "//" else if isAbsolute p then "/" else ""
  let body := "/".intercalate (names p)
  if root.isEmpty && body.isEmpty then "." else root ++ body

/-- The path of the root. -/
def root : String := "/"

/-- The text of an absolute path of given names. -/
def ofNames (ns : List String) : String := root ++ "/".intercalate ns

end Rehearsal.Path
