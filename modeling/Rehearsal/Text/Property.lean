/-!
# Properties of characters

A property of characters is a list of runs of code points. The runs of a standard property are many, so
they are written as one text of hexadecimal words: each run is the gap since the end of the run before,
then the number of further code points in it. `Property.ofWords` reads such a text.

This module holds no table. What a kind of characters is above ASCII is told by a table where the kind is; ASCII is decided by
a rule.
-/

namespace Rehearsal

/-- The value of one hexadecimal digit in lower case, and nothing for another character. -/
def hexValue? (c : Char) : Option Nat :=
  if '0' ≤ c && c ≤ '9' then some (c.toNat - 48)
  else if 'a' ≤ c && c ≤ 'f' then some (c.toNat - 87)
  else none

/-- The numbers of a text of hexadecimal words. A word ends at any character that is no digit. -/
def hexWords (s : String) : List Nat :=
  let step := fun (done, word) c =>
    match hexValue? c, word with
    | some d, some n => (done, some (16 * n + d))
    | some d, none => (done, some d)
    | none, some n => (n :: done, none)
    | none, none => (done, none)
  match s.toList.foldl step (([] : List Nat), (none : Option Nat)) with
  | (done, some n) => (n :: done).reverse
  | (done, none) => done.reverse

/-- A property of characters: the runs of code points that have it, first and last of each. -/
structure Property where
  runs : List (Nat × Nat)

namespace Property

/-- Runs from alternating gaps and lengths, the first gap counted from `at`. -/
def runsFrom (start : Nat) : List Nat → List (Nat × Nat)
  | gap :: more :: rest => (start + gap, start + gap + more) :: runsFrom (start + gap + more) rest
  | _ => []

/-- Reads a table of words. -/
def ofWords (s : String) : Property := ⟨runsFrom 0 (hexWords s)⟩

/-- Whether a code point lies in one of the runs. -/
def holds (p : Property) (code : Nat) : Bool := p.runs.any fun (first, last) => first ≤ code && code ≤ last

end Property

end Rehearsal
