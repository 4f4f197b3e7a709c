import Rehearsal.Deflate.Container
import Rehearsal.Http.Headers
import Rehearsal.Text.Kind
import Rehearsal.Text.Case
import Rehearsal.Text.Line

/-!
# Codings of bodies

A body may be sent compressed, and the header `Content-Encoding` names the codings that were applied to it, the first one
first. Codings that are not known count as none.

The coding `deflate` stands for data in a short container, and just as well for bare data, as some servers understand it:
what is no container is read once more as bare data, and what is wrong with that is what is wrong.
-/

namespace Rehearsal.Http

/-- The codings that are known. -/
inductive Coding where
  | identity
  | deflate
  | gzip
  deriving DecidableEq, Repr, Inhabited

namespace Coding

/-- The coding of a name. -/
def ofName? (name : String) : Option Coding :=
  [("identity", .identity), ("deflate", .deflate), ("gzip", .gzip)].lookup (lowerCase (trim name))

/-- The codings of a message, in the order they were applied. -/
def ofHeaders (h : Headers) : List Coding :=
  ((h.values "Content-Encoding").flatMap fun v => (Line.splitOn ',' v.toList).map String.ofList).filterMap ofName?

/-- A body without a coding. -/
def undo (d : Bytes) : Coding → Except Deflate.Error Bytes
  | .identity => .ok d
  | .gzip => Deflate.decompress .long d
  | .deflate =>
    match Deflate.decompress .short d with
    | .ok out => .ok out
    | .error _ => Deflate.decompress .bare d

/-- A body without its codings. -/
def undoAll (codings : List Coding) (d : Bytes) : Except Deflate.Error Bytes := codings.reverse.foldlM undo d

end Coding

end Rehearsal.Http
