import Rehearsal.Text.Line

/-!
# Differences between texts

How a difference between two texts is shown: by lines, in hunks with three common lines around each change.

Which lines are common is found by taking the longest run of lines that both texts have, the first in the old text and
then the first in the new one, and doing the same on either side of it. Lines that make up much of a long new text, as
empty lines may, do not begin a run, though one may grow over them.

What this does not decide: the changes found need not be the fewest possible.
-/

namespace Rehearsal.Diff

/-- A run of lines that two lists have in common: where it begins in each, and its length. -/
structure Common where
  old : Nat
  new : Nat
  count : Nat
  deriving DecidableEq, Repr, Inhabited

/-- A piece of a comparison: lines that are kept, or lines in place of others. -/
inductive Edit where
  | keep (lines : List String)
  | change (old new : List String)
  deriving DecidableEq, Repr, Inhabited

/-- The lines of an edit in the old text. -/
def Edit.old : Edit → List String
  | .keep lines => lines
  | .change old _ => old

/-- The lines of an edit in the new text. -/
def Edit.new : Edit → List String
  | .keep lines => lines
  | .change _ new => new

/-- The lengths of the common runs that end at each line of the new text and a given line of the old one, from those for
the line before. -/
def extendRow (seed : String → Bool) (new : List String) (line : String) (row : List Nat) : List Nat :=
  List.zipWith (fun other before => if other == line && seed other then before + 1 else 0) new (0 :: row)

/-- The longer of a run and those that end in a line of the old text. An earlier one wins a tie. -/
def longerIn (best : Common) (index : Nat) (row : List Nat) : Common :=
  row.zipIdx.foldl (fun best (count, j) =>
    if best.count < count then ⟨index + 1 - count, j + 1 - count, count⟩ else best) best

/-- The longest run, given the one found before an index and the row there. -/
def longestFrom (seed : String → Bool) (new : List String) (best : Common) (index : Nat) (row : List Nat) :
    List String → Common
  | [] => best
  | line :: rest =>
    let row := extendRow seed new line row
    longestFrom seed new (longerIn best index row) (index + 1) row rest

/-- How many items two lists begin with in common. -/
def sharedStart : List String → List String → Nat
  | a :: as, b :: bs => if a == b then sharedStart as bs + 1 else 0
  | _, _ => 0

/-- A run with the common lines around it. -/
def Common.grown (c : Common) (old new : List String) : Common :=
  let before := sharedStart (old.take c.old).reverse (new.take c.new).reverse
  let behind := sharedStart (old.drop (c.old + c.count)) (new.drop (c.new + c.count))
  ⟨c.old - before, c.new - before, c.count + before + behind⟩

/-- The longest run of lines that two lists have in common. -/
def longest (seed : String → Bool) (old new : List String) : Common :=
  (longestFrom seed new ⟨0, 0, 0⟩ 0 (new.map fun _ => 0) old).grown old new

/-- What leads from one list of lines to another. -/
def edits (seed : String → Bool) (old new : List String) : List Edit :=
  let c := longest seed old new
  if _h : 0 < c.count ∧ c.old + c.count ≤ old.length then
    edits seed (old.take c.old) (new.take c.new) ++ .keep ((old.drop c.old).take c.count) ::
      edits seed (old.drop (c.old + c.count)) (new.drop (c.new + c.count))
  else if old.isEmpty && new.isEmpty then []
  else [.change old new]
termination_by old.length
decreasing_by all_goals (dsimp only [c] at _h; simp only [List.length_take, List.length_drop]; omega)

/-- Puts kept lines together that follow each other. -/
def joinKept : List Edit → List Edit
  | .keep a :: rest =>
    match joinKept rest with
    | .keep b :: more => .keep (a ++ b) :: more
    | more => .keep a :: more
  | e :: rest => e :: joinKept rest
  | [] => []

/-- How many lines a new text has to have for some of them to be too common. -/
def longText : Nat := 200

/-- Whether a line of a text may begin a common run: in a long text, not when it makes up more than a hundredth. -/
def seedsIn (new : List String) (line : String) : Bool :=
  new.length < longText || new.count line ≤ new.length / 100 + 1

/-- What leads from one text to another, line by line. -/
def compare (old new : List String) : List Edit := joinKept (edits (seedsIn new) old new)

/-- Changes that are shown together, and how many lines of each text are before them. -/
structure Hunk where
  old : Nat
  new : Nat
  edits : List Edit
  deriving DecidableEq, Repr, Inhabited

/-- How many common lines are shown on either side of a change. -/
def context : Nat := 3

/-- The last items of a list. -/
def lastOf (n : Nat) (lines : List String) : List String := lines.drop (lines.length - n)

/-- Adds an edit to a hunk. -/
def Hunk.add (h : Hunk) (e : Edit) : Hunk := { h with edits := h.edits ++ [e] }

/-- The hunks of the edits behind those of an open hunk, and how many lines of each text come before them. -/
def hunksFrom (old new : Nat) (open' : Hunk) : List Edit → List Hunk
  | [] => [open']
  | [.keep lines] => [open'.add (.keep (lines.take context))]
  | .keep lines :: rest =>
    let old := old + lines.length
    let new := new + lines.length
    if 2 * context < lines.length then
      let next : Hunk := ⟨old - context, new - context, [.keep (lastOf context lines)]⟩
      open'.add (.keep (lines.take context)) :: hunksFrom old new next rest
    else hunksFrom old new (open'.add (.keep lines)) rest
  | e :: rest => hunksFrom (old + e.old.length) (new + e.new.length) (open'.add e) rest

/-- The hunks of edits. -/
def hunks : List Edit → List Hunk
  | [] | [.keep _] => []
  | .keep lines :: rest =>
    let n := lines.length
    let shown := lastOf context lines
    hunksFrom n n ⟨n - shown.length, n - shown.length, [.keep shown]⟩ rest
  | es => hunksFrom 0 0 ⟨0, 0, []⟩ es

/-- A range of lines: its first line and its length, unless that is one. An empty range is named by the line before. -/
def rangeText (before count : Nat) : String :=
  if count == 1 then toString (before + 1)
  else if count == 0 then s!"{before},0"
  else s!"{before + 1},{count}"

/-- The lines of an edit, marked as kept, taken away or put in. -/
def Edit.text : Edit → String
  | .keep lines => String.join (lines.map (" " ++ ·))
  | .change old new => String.join (old.map ("-" ++ ·)) ++ String.join (new.map ("+" ++ ·))

/-- How many lines edits take up on one side. -/
def lineCount (side : Edit → List String) (es : List Edit) : Nat := es.foldl (fun n e => n + (side e).length) 0

/-- A hunk with its head. -/
def Hunk.text (h : Hunk) : String :=
  let oldRange := rangeText h.old (lineCount Edit.old h.edits)
  let newRange := rangeText h.new (lineCount Edit.new h.edits)
  s!"@@ -{oldRange} +{newRange} @@\n" ++ String.join (h.edits.map Edit.text)

/-- The lines of a text with their ends. -/
def linesOf (s : String) : List String := (Line.keepingEnds s.toList).map String.ofList

/-- The difference between two texts that go by given names. Equal texts have none. -/
def unified (oldName newName old new : String) : String :=
  match hunks (compare (linesOf old) (linesOf new)) with
  | [] => ""
  | hs => s!"--- {oldName}\n+++ {newName}\n" ++ String.join (hs.map Hunk.text)

end Rehearsal.Diff
