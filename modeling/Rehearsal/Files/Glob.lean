import Rehearsal.Files.Access

/-!
# Patterns of file names

In a pattern of file names `*` stands for any characters of a name, `?` for one, and brackets for one character of
a set or, behind an exclamation mark, of none of the set. The directory part of a pattern may have such marks too.
A name that begins with a dot is matched only by a pattern that does.
-/

namespace Rehearsal.Files.Glob

/-- A mark of a pattern. -/
inductive Mark where
  | star
  | any
  | char (c : Char)
  | oneOf (negated : Bool) (ranges : List (Char × Char))
  | never
  deriving DecidableEq, Repr, Inhabited

/-- A character inside brackets: itself, or a hyphen that joins the ends of a range. -/
inductive Inner where
  | char (c : Char)
  | joint
  deriving DecidableEq, Repr, Inhabited

/-- The chunks between hyphens that can join a range: a hyphen needs a character before it that ends no other
range. `got` is the chunk so far, last character first, and `free` the number of characters that have to come
before the next hyphen that joins. -/
def chunks (got : List Char) (free : Nat) : List Char → List (List Char)
  | [] => if got.isEmpty then [] else [got.reverse]
  | c :: rest =>
    if c == '-' && free == 0 then got.reverse :: chunks [] 2 rest
    else chunks (c :: got) (free - 1) rest

/-- Chunks in which the last is not empty: a hyphen at the very end belongs to the chunk before it. -/
def closeChunks (stuff : List Char) (cs : List (List Char)) : List (List Char) :=
  if stuff.getLast? == some '-' && (cs.flatten.length + cs.length == stuff.length) then
    match cs.reverse with
    | [] => []
    | last :: more => ((last ++ ['-']) :: more).reverse
  else cs

/-- Chunks without the ranges that run backwards: those lose both their ends. -/
def dropBackward (cs : List (List Char)) : List (List Char) :=
  cs.foldr (fun chunk done =>
    match done with
    | [] => [chunk]
    | next :: more =>
      match chunk.getLast?, next.head? with
      | some a, some b => if b < a then (chunk.dropLast ++ next.drop 1) :: more else chunk :: done
      | _, _ => chunk :: done) []

/-- The ranges that characters and joints make. -/
def ranges : List Inner → List (Char × Char)
  | [] => []
  | item :: .joint :: rest =>
    let a := match item with
      | .char c => c
      | .joint => '-'
    match rest with
    | [] => [(a, a), ('-', '-')]
    | last :: more =>
      let b := match last with
        | .char c => c
        | .joint => '-'
      (a, b) :: ranges more
  | .char c :: rest => (c, c) :: ranges rest
  | .joint :: rest => ('-', '-') :: ranges rest

/-- The mark that the inside of brackets makes. -/
def bracket (stuff : List Char) : Mark :=
  let inner : List Inner :=
    if stuff.contains '-' then
      let negation := if stuff.head? == some '!' then 2 else 1
      let cs := dropBackward (closeChunks stuff (chunks [] negation stuff))
      (cs.map fun chunk => chunk.map Inner.char).intersperse [.joint] |>.flatten
    else stuff.map Inner.char
  match inner with
  | [] => .never
  | .char '!' :: [] => .any
  | .char '!' :: rest => .oneOf true (ranges rest)
  | _ => .oneOf false (ranges inner)

/-- The inside of brackets whose opening one has been taken, and what is behind the closing one. A bracket directly
behind the opening one, or behind the exclamation mark, does not close. -/
def inside? (cs : List Char) : Option (List Char × Nat) :=
  let lead := (if cs.head? == some '!' then 1 else 0)
  let lead := lead + (if (cs.drop lead).head? == some ']' then 1 else 0)
  let body := (cs.drop lead).takeWhile (· != ']')
  if lead + body.length < cs.length then some (cs.take (lead + body.length), lead + body.length) else none

/-- The marks of a pattern. -/
def marks : List Char → List Mark
  | [] => []
  | c :: rest =>
    if c == '*' then .star :: marks rest
    else if c == '?' then .any :: marks rest
    else if c == '[' then
      match inside? rest with
      | some (stuff, width) => bracket stuff :: marks (rest.drop (width + 1))
      | none => .char '[' :: marks rest
    else .char c :: marks rest
termination_by cs => cs.length
decreasing_by all_goals (simp only [List.length_drop, List.length_cons]; omega)

/-- Whether a character fits a mark that stands for one. -/
def Mark.fits (c : Char) : Mark → Bool
  | .star | .never => false
  | .any => true
  | .char d => c == d
  | .oneOf negated rs => rs.any (fun (a, b) => a ≤ c && c ≤ b) != negated

/-- Whether a name fits marks. -/
def fits (ms : List Mark) (cs : List Char) : Bool :=
  match ms, cs with
  | [], [] => true
  | [], _ :: _ => false
  | .star :: more, [] => fits more []
  | .star :: more, c :: rest => fits more (c :: rest) || fits (.star :: more) rest
  | _ :: _, [] => false
  | m :: more, c :: rest => m.fits c && fits more rest
termination_by ms.length + cs.length

/-- Whether a name fits a pattern. -/
def fitsName (pattern name : String) : Bool := fits (marks pattern.toList) name.toList

/-- Whether a text has a mark other than plain characters. -/
def hasMarks (s : String) : Bool := s.toList.any fun c => c == '*' || c == '?' || c == '['

/-- Whether a name is hidden. -/
def isHidden (name : String) : Bool := name.startsWith "."

/-- The names in a directory that fit a pattern. -/
def namesIn (d : Disk) (directory pattern : String) (onlyDirectories : Bool) : List String :=
  let directory := if directory.isEmpty then "." else directory
  match d.names directory with
  | .error _ => []
  | .ok names => names.filter fun name =>
      (!onlyDirectories || d.isDirectory (Path.join directory name)) &&
        (isHidden pattern || !isHidden name) && fitsName pattern name

/-- The paths that fit a pattern, whose length bounds the depth. -/
def pathsFrom (d : Disk) (onlyDirectories : Bool) (pattern : String) : Nat → List String
  | 0 => []
  | n + 1 =>
    let directory := Path.parent pattern
    let last := Path.baseName pattern
    if !hasMarks pattern then
      if if last.isEmpty then d.isDirectory directory else d.present pattern then [pattern] else []
    else if directory.isEmpty then namesIn d "" last onlyDirectories
    else
      let directories :=
        if directory != pattern && hasMarks directory then pathsFrom d true directory n else [directory]
      directories.flatMap fun found =>
        (if hasMarks last then namesIn d found last onlyDirectories
          else if if last.isEmpty then d.isDirectory found else d.present (Path.join found last) then [last]
          else []).map (Path.join found)

/-- The paths that fit a pattern. -/
def paths (d : Disk) (pattern : String) : List String := pathsFrom d false pattern (pattern.length + 1)

end Rehearsal.Files.Glob
