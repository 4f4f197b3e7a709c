/-!
# Transcripts

The log of a script: text that grows at one place and can be cut back to a mark. The place is where the next
text goes. It is the end of the text, except when the log was cut at a place behind its end; text written then
leaves a gap, which is filled with null characters.
-/

namespace Rehearsal

/-- A log, with the place where the next text goes. -/
structure Transcript where
  text : List Char
  position : Nat
  deriving DecidableEq, Repr, Inhabited

namespace Transcript

/-- The log nothing was written to. -/
def empty : Transcript := ⟨[], 0⟩

/-- Appends a text at the place of writing. -/
def write (t : Transcript) (s : String) : Transcript :=
  if s.isEmpty then t
  else
    let gap := List.replicate (t.position - t.text.length) '\x00'
    let text := t.text ++ gap ++ s.toList
    ⟨text, text.length⟩

/-- Cuts the log at a place and goes on writing there. -/
def truncate (t : Transcript) (size : Nat) : Transcript := ⟨t.text.take size, size⟩

/-- The length of a log, counted to the place of writing. -/
def length (t : Transcript) : Nat := t.position

/-- The text of a log. -/
def toString (t : Transcript) : String := String.ofList t.text

end Transcript

end Rehearsal
