/-!
# Tables

Keys with values, in the order the keys first came. A value put under a key that is there takes the place of the
old one, and the key keeps its place.
-/

namespace Rehearsal

/-- Keys with values, in the order the keys first came. -/
abbrev Table (α : Type) := List (String × α)

namespace Table

/-- Puts a value under a key. A key that is there keeps its place. -/
def insert {α : Type} (key : String) (value : α) : Table α → Table α
  | [] => [(key, value)]
  | (k, v) :: rest => if k == key then (key, value) :: rest else (k, v) :: insert key value rest

/-- The value under a key. -/
def get? {α : Type} (key : String) : Table α → Option α
  | [] => none
  | (k, v) :: rest => if k == key then some v else get? key rest

/-- A table without a key. -/
def erase {α : Type} (key : String) (t : Table α) : Table α := t.filter fun (k, _) => k != key

/-- Whether a key is there. -/
def contains {α : Type} (key : String) (t : Table α) : Bool := (t.get? key).isSome

/-- The keys in order. -/
def keys {α : Type} (t : Table α) : List String := t.map (·.1)

/-- The table of a list of pairs, a later pair winning over an earlier one of the same key. -/
def ofPairs {α : Type} (pairs : List (String × α)) : Table α :=
  pairs.foldl (fun t (k, v) => t.insert k v) []

end Table

end Rehearsal
