import Rehearsal.Text.Case

/-!
# Headers

The headers of a message are named texts in order. Names are compared without regard to case, and a name may occur
more than once; read as one text, its values stand between commas.
-/

namespace Rehearsal.Http

/-- Headers in order. -/
abbrev Headers := List (String × String)

namespace Headers

/-- Whether two names are the same header. -/
def sameName (a b : String) : Bool := a.toLower == b.toLower

/-- The values of a header. -/
def values (h : Headers) (name : String) : List String :=
  h.filterMap fun (k, v) => if sameName k name then some v else none

/-- Whether a header is there. -/
def has (h : Headers) (name : String) : Bool := h.any fun (k, _) => sameName k name

/-- The text of a header. -/
def get? (h : Headers) (name : String) : Option String :=
  if h.has name then some (", ".intercalate (h.values name)) else none

/-- Headers without one. -/
def drop (h : Headers) (name : String) : Headers := h.filter fun (k, _) => !sameName k name

/-- Headers with one that has a single value, where the first of its name stood or else at the end. -/
def put (h : Headers) (name value : String) : Headers :=
  if h.has name then
    let front := h.takeWhile fun (k, _) => !sameName k name
    front ++ (name, value) :: drop (List.drop front.length h) name
  else h ++ [(name, value)]

/-- Headers with one added, unless it is there already. -/
def putNew (h : Headers) (name value : String) : Headers := if h.has name then h else h ++ [(name, value)]

end Headers

end Rehearsal.Http
