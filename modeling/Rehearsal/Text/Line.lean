/-!
# Lines of text

Three readings of what a line is, each used where its rule matters:

* `splitOn` cuts at one character only, and always gives one piece more than there are cuts; the lines of
  a script are read so.
* `keepingEnds` cuts behind every line boundary, of which there are ten besides the pair of carriage return
  and newline, and keeps the boundary; differences between files are shown so.
* `unifyNewlines` makes every carriage return, with or without a newline behind it, one newline; files
  read as text are read so.
-/

namespace Rehearsal.Line

/-- The pieces of a list between the items equal to `cut`. -/
def splitOn {α : Type} [BEq α] (cut : α) : List α → List (List α)
  | [] => [[]]
  | c :: rest =>
    match splitOn cut rest with
    | [] => [[c]]
    | piece :: more => if c == cut then [] :: piece :: more else (c :: piece) :: more

/-- The pieces of a text between newlines. -/
def split (s : String) : List String := (splitOn '\n' s.toList).map String.ofList

/-- Whether a character ends a line by itself. -/
def isBoundary (c : Char) : Bool :=
  let n := c.toNat
  (10 ≤ n && n ≤ 13) || (28 ≤ n && n ≤ 30) || n == 0x85 || n == 0x2028 || n == 0x2029

/-- Puts a character in front of the first line. -/
def consHead (c : Char) : List (List Char) → List (List Char)
  | [] => [[c]]
  | line :: more => (c :: line) :: more

/-- The lines of a text with their boundaries. No line is empty, and joining them gives back the text. -/
def keepingEnds : List Char → List (List Char)
  | [] => []
  | c :: rest =>
    if c == '\r' && rest.head? == some '\n' then consHead c (keepingEnds rest)
    else if isBoundary c then [c] :: keepingEnds rest
    else consHead c (keepingEnds rest)

/-- A text in which every line end is a newline. -/
def unifyNewlines : List Char → List Char
  | [] => []
  | c :: rest =>
    if c == '\r' then
      if rest.head? == some '\n' then unifyNewlines rest else '\n' :: unifyNewlines rest
    else c :: unifyNewlines rest

end Rehearsal.Line
