/-!
# The words of a script line

A line is cut into arguments at blanks, which are the space, the tab and the carriage return. A number sign
outside quotes ends the line. Single quotes take their contents literally, blanks and number signs included,
and a doubled quote inside them is one quote:

    'Don''t communicate by sharing memory.'

Text outside quotes is handed to `expand`, chunk by chunk, and what comes back is never cut, unquoted or
expanded again. A chunk ends where quotes begin, so one argument may have several.
-/

namespace Rehearsal.Words

/-- Whether a character separates arguments. -/
def isSeparator (c : Char) : Bool := c == ' ' || c == '\t' || c == '\r'

/-- The quote character. -/
def quote : Char := '\x27'

/-- What ends a line. -/
def commentMark : Char := '#'

/-- The one way a line cannot be cut: its last quotes are never closed. -/
inductive Error where
  | unterminated
  deriving DecidableEq, Repr, Inhabited

/-- The wording of the error. -/
def Error.message : Error → String
  | .unterminated => "unterminated quoted argument"

/-- Where the reading stands. Chunks are held last character first. -/
inductive State where
  /-- Between arguments. -/
  | idle
  /-- In an argument, outside quotes: its text so far, and the current chunk. -/
  | plain (text chunk : List Char)
  /-- In an argument, inside quotes: its text so far, and the current chunk. -/
  | quoted (text chunk : List Char)
  deriving Repr, Inhabited

/-- The argument that ends here, if one was begun. -/
def State.finish (expand : List Char → List Char) : State → List (List Char)
  | .plain text chunk => [text ++ expand chunk.reverse]
  | _ => []

/-- The text of the current argument when quotes begin. -/
def State.textSoFar (expand : List Char → List Char) : State → List Char
  | .plain text chunk => text ++ expand chunk.reverse
  | _ => []

/-- The state behind one more character outside quotes. -/
def State.push (c : Char) : State → State
  | .plain text chunk => .plain text (c :: chunk)
  | _ => .plain [] [c]

/-- Reads the rest of a line from a given state. -/
def read (expand : List Char → List Char) : State → List Char → Except Error (List (List Char))
  | .quoted _ _, [] => .error .unterminated
  | .quoted text chunk, c :: rest =>
    if c == quote then
      match rest with
      | [] => read expand (.plain (text ++ chunk.reverse) []) []
      | d :: more =>
        if d == quote then read expand (.quoted (text ++ chunk.reverse) [quote]) more
        else read expand (.plain (text ++ chunk.reverse) []) (d :: more)
    else read expand (.quoted text (c :: chunk)) rest
  | s, [] => .ok (s.finish expand)
  | s, c :: rest =>
    if c == commentMark then .ok (s.finish expand)
    else if isSeparator c then
      match read expand .idle rest with
      | .ok more => .ok (s.finish expand ++ more)
      | .error e => .error e
    else if c == quote then read expand (.quoted (s.textSoFar expand) []) rest
    else read expand (s.push c) rest
termination_by _ line => line.length

/-- The arguments of a line. A blank or a comment line has none. -/
def split (expand : String → String) (line : String) : Except Error (List String) :=
  match read (fun cs => (expand (String.ofList cs)).toList) .idle line.toList with
  | .ok args => .ok (args.map String.ofList)
  | .error e => .error e

end Rehearsal.Words
