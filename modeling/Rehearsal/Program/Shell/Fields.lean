import Rehearsal.Files.Glob
import Rehearsal.Program.Shell.Arithmetic
import Rehearsal.Program.Shell.Basic

/-!
# Fields

What becomes of words. Pieces are replaced by what they stand for, what did not stand in quotes is cut into fields, and a
field with marks of a file pattern becomes the paths that fit it.
-/

namespace Rehearsal.Program.Shell

open Files

/-- What a piece becomes: text that stood in quotes, text that did not, text that is cut into fields, or the gap between two
arguments. -/
inductive Chunk where
  | fixed (cs : List Char)
  | plain (cs : List Char)
  | loose (cs : List Char)
  | cut
  deriving DecidableEq, Repr, Inhabited

/-- The characters of chunks. -/
def Chunk.chars : Chunk → List Char
  | .fixed cs | .plain cs | .loose cs => cs
  | .cut => [' ']

/-- Chunks as one text. -/
def textOf (cs : List Chunk) : String := String.ofList (cs.flatMap Chunk.chars)

/-- Chunks as a pattern. -/
def patternOf (cs : List Chunk) : List Glob.Mark :=
  cs.flatMap fun
    | .fixed cs => cs.map Glob.Mark.char
    | c => Files.Glob.marks c.chars

/-- The lengths of the fronts of a text that fit a pattern, in order. -/
def fittingFronts (ms : List Glob.Mark) (cs : List Char) : List Nat :=
  (List.range (cs.length + 1)).filter fun k => Files.Glob.fits ms (cs.take k)

/-- The lengths of the ends of a text that fit a pattern, in order. -/
def fittingEnds (ms : List Glob.Mark) (cs : List Char) : List Nat :=
  (List.range (cs.length + 1)).filter fun k => Files.Glob.fits ms (cs.drop (cs.length - k))

/-- The first or the last of some numbers. -/
def pick (last : Bool) (ns : List Nat) : Nat := ((if last then ns.getLast? else ns.head?)).getD 0

/-- All arguments, as they stand in quotes or not. -/
def arguments (s : State) (joined quoted : Bool) : List Chunk :=
  if quoted && joined then
    let gap := String.ofList (s.gaps.take 1)
    [.fixed (gap.intercalate s.args).toList]
  else (s.args.map fun a => if quoted then Chunk.fixed a.toList else .loose a.toList).intersperse .cut

/-- The value of a parameter. -/
def valueOf (name : String) (quoted : Bool) : Step (Option (List Chunk)) := do
  let s ← get
  if name == "@" || name == "*" then
    return if s.args.isEmpty then none else some (arguments s (name == "*") quoted)
  return (s.value? name).map fun v => [if quoted then .fixed v.toList else .loose v.toList]

mutual

/-- What a piece becomes, given how commands are run for what they write. -/
def chunks (run : String → Step String) : Piece → Step (List Chunk)
  | .text cs quoted => return [if quoted then .fixed cs else .plain cs]
  | .output commands quoted => do
    let cs := (← run commands).toList
    return [if quoted then .fixed cs else .loose cs]
  | .number expression quoted => do
    let text := textOf (← chunksOf run expression)
    match Arithmetic.value (← get).vars text with
    | .error e => fail (e.message text)
    | .ok (n, vars) =>
      modify fun s => { s with vars }
      return [if quoted then .fixed (toString n).toList else .loose (toString n).toList]
  | .parameter name use w quoted => do
    let found ← valueOf name quoted
    let isThere (empty : Bool) : Bool := match found with
      | none => false
      | some cs => !(empty && (textOf cs).isEmpty)
    let one (cs : List Char) : List Chunk := [if quoted then .fixed cs else .loose cs]
    let value := (found.map textOf).getD ""
    match use with
    | .value => return found.getD []
    | .length => return one (toString value.length).toList
    | .orElse empty => if isThere empty then return found.getD [] else chunksOf run w
    | .ifSet empty => if isThere empty then chunksOf run w else return []
    | .orAssign empty => do
      if isThere empty then return found.getD []
      let text := textOf (← chunksOf run w)
      modify (State.assign name text)
      return one text.toList
    | .orFail empty => do
      if isThere empty then return found.getD []
      let usual := if empty then "parameter not set or null" else "parameter not set"
      let reason ← if w.isEmpty then pure usual else textOf <$> chunksOf run w
      fail s!"{name}: {reason}"
    | .withoutFront longest => do
      let ms := patternOf (← chunksOf run w)
      return one (value.toList.drop (pick longest (fittingFronts ms value.toList)))
    | .withoutEnd longest => do
      let ms := patternOf (← chunksOf run w)
      return one (value.toList.take (value.length - pick longest (fittingEnds ms value.toList)))

/-- What pieces become. -/
def chunksOf (run : String → Step String) : List Piece → Step (List Chunk)
  | [] => return []
  | p :: rest => do
    let first ← chunks run p
    return first ++ (← chunksOf run rest)

end

/-- A field while it is made: its characters, and whether they are only themselves. -/
abbrev Draft := List (Char × Bool)

/-- Cuts text at gaps. Blanks together are one gap; any other gap ends a field even if that is empty. -/
def cutText (gaps : List Char) (opened : Option Draft) : List Char → List Draft × Option Draft
  | [] => ([], opened)
  | c :: rest =>
    if gaps.contains c then
      let isBlank := c == ' ' || c == '\t' || c == '\n'
      let (done, last) := cutText gaps none rest
      (if isBlank then opened.toList ++ done else opened.getD [] :: done, last)
    else cutText gaps (some (opened.getD [] ++ [(c, false)])) rest

/-- The fields that chunks make, with one open. -/
def drafts (gaps : List Char) (opened : Option Draft) : List Chunk → List Draft
  | [] => opened.toList
  | .fixed cs :: rest => drafts gaps (some (opened.getD [] ++ cs.map (·, true))) rest
  | .plain cs :: rest => drafts gaps (some (opened.getD [] ++ cs.map (·, false))) rest
  | .loose cs :: rest =>
    let (done, last) := cutText gaps opened cs
    done ++ drafts gaps last rest
  | .cut :: rest => opened.getD [] :: drafts gaps none rest

/-- The text of a field. -/
def Draft.text (d : Draft) : String := String.ofList (d.map (·.1))

/-- The paths that a field stands for, if it has marks of a pattern and any path fits; else the field. -/
def Draft.paths (disk : Files.Disk) (d : Draft) : List String :=
  let isMark (c : Char) : Bool := c == '*' || c == '?' || c == '['
  if d.any fun (c, quoted) => isMark c && !quoted then
    let pattern := d.flatMap fun (c, quoted) => if quoted && isMark c then ['[', c, ']'] else [c]
    match (Files.Glob.paths disk (String.ofList pattern)).mergeSort fun a b => a ≤ b with
    | [] => [d.text]
    | found => found
  else [d.text]

/-- The fields of a word. A pair of quotes around all arguments makes no field of its own. -/
def fields (run : String → Step String) (w : Word) : Step (List String) := do
  let w := match w with
    | [.text [] true, .parameter "@" .value [] true] => [.parameter "@" .value [] true]
    | w => w
  let cs ← chunksOf run w
  let s ← get
  let disk := (← running).disk
  return (drafts s.gaps none cs).flatMap (Draft.paths disk)

/-- The fields of words. -/
def fieldsOf (run : String → Step String) : List Word → Step (List String)
  | [] => return []
  | w :: rest => do
    let first ← fields run w
    return first ++ (← fieldsOf run rest)

/-- A word as one text. -/
def text (run : String → Step String) (w : Word) : Step String := do return textOf (← chunksOf run w)

/-- The variable and the value that a word assigns. -/
def assignment? (w : Word) : Option (String × Word) :=
  let plain := w.takeWhile fun
    | .text [_] false => true
    | _ => false
  let front := plain.flatMap fun
    | .text cs _ => cs
    | _ => []
  let name := front.takeWhile isNameChar
  if isName name && front[name.length]? == some '=' then some (String.ofList name, w.drop (name.length + 1)) else none

end Rehearsal.Program.Shell
