import Rehearsal.Http.Headers
import Rehearsal.Text.Bytes
import Rehearsal.Text.Kind

/-!
# Servers

What answers requests is described by routes. A request is known by its method and address; the first route that fits
it and has replies gives its next one, and goes on giving its last one for ever. That a server has closed an idle connection
is told by the wording of the error alone.
-/

namespace Rehearsal.Http

/-- What a server does with a request. -/
inductive Reply where
  | answer (status : Nat) (headers : Headers) (body : Bytes)
  /-- The connection fails. -/
  | failure (message : String)
  /-- There is never an answer. -/
  | silence
  deriving DecidableEq, Repr, Inhabited

/-- Replies to the requests of a key, or to all if the pattern is a star. -/
structure Route where
  pattern : String
  replies : List Reply
  deriving DecidableEq, Repr, Inhabited

/-- The routes of a server, in order. -/
abbrev Server := List Route

/-- Whether a route answers requests of a key. -/
def Route.fits (r : Route) (key : String) : Bool := (r.pattern == "*" || r.pattern == key) && !r.replies.isEmpty

/-- A route after it has replied once. -/
def Route.next (r : Route) : Route := if r.replies.length ≤ 1 then r else { r with replies := r.replies.drop 1 }

/-- The reply to a request, and the server after it. -/
def Server.serve (s : Server) (key : String) : Reply × Server :=
  match s with
  | [] => (.failure s!"no route for {key}", [])
  | r :: rest =>
    if r.fits key then (r.replies.head?.getD .silence, r.next :: rest)
    else
      let (reply, rest) := serve rest key
      (reply, r :: rest)

/-! ## Idle connections

A server may close a connection that has been idle while a request is on its way. Such a request was never
processed, so it is not reported as a failure. The close is known by the wording of the error: either a plain
sentence, or a termination with the code for no error, whether by name or by number.
-/

/-- The sentence that tells of a close. -/
def closeSentence : List Char := "server sent GOAWAY and closed the connection".toList

/-- How a termination begins. -/
def terminationLead : List Char := "ConnectionTerminated error_code:".toList

/-- What stands behind a word at the front of a text. -/
def afterWord? (word cs : List Char) : Option (List Char) :=
  if word.isPrefixOf cs then some (cs.drop word.length) else none

/-- Whether a word stands at the front of a text and ends there. -/
def startsWithWord (word cs : List Char) : Bool :=
  match afterWord? word cs with
  | some rest => !(rest.head?.any isWordChar)
  | none => false

/-- Whether the code for no error stands at the front of a text. -/
def startsWithNoError (cs : List Char) : Bool :=
  let cs := (afterWord? "ErrorCodes.".toList cs).getD cs
  startsWithWord "NO_ERROR".toList cs || startsWithWord "0".toList cs

/-- Whether the wording of a close begins at the front of a text. -/
def closesHere (cs : List Char) : Bool :=
  closeSentence.isPrefixOf cs || ((afterWord? terminationLead cs).any startsWithNoError)

/-- Whether the wording of a close begins anywhere in a text. -/
def closesSomewhere : List Char → Bool
  | [] => false
  | c :: rest => closesHere (c :: rest) || closesSomewhere rest

/-- Whether an error with this text is the close of an idle connection. -/
def isIdleClose (text : String) : Bool := closesSomewhere text.toList

end Rehearsal.Http
