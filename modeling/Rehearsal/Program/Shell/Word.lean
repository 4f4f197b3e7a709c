import Rehearsal.Text.Bytes

/-!
# Words

A word of the shell is pieces side by side: text, parameters, the output of commands, and numbers that are worked out. A
piece remembers whether it stood in quotes, because what a quoted piece becomes is never cut into fields.
-/

namespace Rehearsal.Program.Shell

/-- What is made of a parameter. Where there is a flag, it says whether an empty value counts as none. -/
inductive Use where
  | value
  /-- The number of its characters. -/
  | length
  /-- Its value, or else a word. -/
  | orElse (empty : Bool)
  /-- Its value, or else a word, which it is given for a value. -/
  | orAssign (empty : Bool)
  /-- Its value, or else the end of the shell with a word for a message. -/
  | orFail (empty : Bool)
  /-- A word if it has a value, and nothing else. -/
  | ifSet (empty : Bool)
  /-- Its value without a front, or an end, that fits a pattern: the longest one or the shortest. -/
  | withoutFront (longest : Bool)
  | withoutEnd (longest : Bool)
  deriving DecidableEq, Repr, Inhabited

/-- A piece of a word. -/
inductive Piece where
  | text (cs : List Char) (quoted : Bool)
  | parameter (name : String) (use : Use) (word : List Piece) (quoted : Bool)
  /-- What commands write. -/
  | output (commands : String) (quoted : Bool)
  | number (expression : List Piece) (quoted : Bool)
  deriving Repr, Inhabited

/-- A word: its pieces side by side. -/
abbrev Word := List Piece

/-- The text of a word that is nothing but text without quotes. -/
def Word.literal? : Word → Option String
  | [] => some ""
  | .text cs false :: rest => (literal? rest).map (String.ofList cs ++ ·)
  | _ => none

/-- Why a list is not read. -/
inductive Fault where
  | quote
  | backquote
  | brace
  | badUse
  | loopName
  | functionName
  /-- Something stands where it does not belong, though something else is expected there. -/
  | unexpected (found : String) (expected : Option String)
  deriving DecidableEq, Repr, Inhabited

/-- The wording of the fault. -/
def Fault.message : Fault → String
  | .quote => "Syntax error: Unterminated quoted string"
  | .backquote => "Syntax error: EOF in backquote substitution"
  | .brace => "Syntax error: Missing '\x7d'"
  | .badUse => "Bad substitution"
  | .loopName => "Syntax error: Bad for loop variable"
  | .functionName => "Syntax error: Bad function name"
  | .unexpected found none => s!"Syntax error: {found} unexpected"
  | .unexpected found (some expected) => s!"Syntax error: {found} unexpected (expecting {expected})"

/-- What is found where the text ends. -/
def endOfText : String := "end of file"

/-- Whether a character may stand in the name of a variable. -/
def isNameChar (c : Char) : Bool := c.isAlphanum || c == '_'

/-- Whether a text is the name of a variable. -/
def isName (cs : List Char) : Bool := !cs.isEmpty && cs.all isNameChar && !(cs.head?.any Char.isDigit)

/-- The parameters whose names are one mark. -/
def isSpecial (c : Char) : Bool :=
  c == '$' || c == '#' || c == '?' || c == '@' || c == '*' || c == '!' || c == '-' || c.isDigit

/-- Whether a character ends a word outside quotes. -/
def endsWord (c : Char) : Bool := " \t\n;&|<>()".toList.contains c

/-- Text up to the bracket that closes one, quotes and brackets inside it taken together, and what is behind. `depth` is the
number of brackets that are open inside, and `quote` the quote that is. The bound is the number of characters. -/
def enclosed (depth : Nat) (quote : Option Char) : Nat → List Char → Option (List Char × List Char)
  | 0, _ | _, [] => none
  | n + 1, c :: rest =>
    let push (depth : Nat) (quote : Option Char) : Option (List Char × List Char) :=
      (enclosed depth quote n rest).map fun (body, left) => (c :: body, left)
    match quote with
    | some q =>
      if c == '\\' && q == '"' then
        match n, rest with
        | n + 1, d :: more => (enclosed depth quote n more).map fun (body, left) => (c :: d :: body, left)
        | _, _ => none
      else push depth (if c == q then none else quote)
    | none =>
      if c == '\\' then
        match n, rest with
        | n + 1, d :: more => (enclosed depth quote n more).map fun (body, left) => (c :: d :: body, left)
        | _, _ => none
      else if c == '\x27' || c == '"' then push depth (some c)
      else if c == '(' then push (depth + 1) quote
      else if c == ')' then
        match depth with
        | 0 => some ([], rest)
        | depth + 1 => push depth quote
      else push depth quote

/-- Text up to a backquote, and what is behind. A backslash in front of one, of another backslash or of a dollar sign goes
away. -/
def backquoted : List Char → Option (List Char × List Char)
  | [] => none
  | '\\' :: c :: rest =>
    let kept := if c == '\\' || c == '$' || c.toNat == 96 then [c] else ['\\', c]
    (backquoted rest).map fun (body, left) => (kept ++ body, left)
  | c :: rest =>
    if c.toNat == 96 then some ([], rest)
    else (backquoted rest).map fun (body, left) => (c :: body, left)

/-- The use that marks behind the name of a parameter ask for, and the rest. -/
def use? (cs : List Char) : Option (Use × List Char) :=
  let (empty, marks) := match cs with
    | ':' :: rest => (true, rest)
    | _ => (false, cs)
  match marks with
  | '-' :: rest => some (.orElse empty, rest)
  | '=' :: rest => some (.orAssign empty, rest)
  | '?' :: rest => some (.orFail empty, rest)
  | '+' :: rest => some (.ifSet empty, rest)
  | '#' :: '#' :: rest => if empty then none else some (.withoutFront true, rest)
  | '#' :: rest => if empty then none else some (.withoutFront false, rest)
  | '%' :: '%' :: rest => if empty then none else some (.withoutEnd true, rest)
  | '%' :: rest => if empty then none else some (.withoutEnd false, rest)
  | _ => none

/-- The name of a parameter at the front of some characters, and the rest. -/
def parameterName (cs : List Char) : List Char × List Char :=
  match cs with
  | c :: rest =>
    if isSpecial c then
      if c.isDigit then (cs.takeWhile Char.isDigit, cs.dropWhile Char.isDigit) else ([c], rest)
    else (cs.takeWhile isNameChar, cs.dropWhile isNameChar)
  | [] => ([], [])

mutual

/-- The piece behind a dollar sign, and the rest; a dollar sign may also stand for itself. The bound is the number of
characters. -/
def dollar (inQuotes : Bool) : Nat → List Char → Except Fault (Piece × List Char)
  | 0, cs => .ok (.text ['$'] inQuotes, cs)
  | n + 1, cs =>
    match cs with
    | '(' :: '(' :: rest =>
      match enclosed 0 none rest.length rest with
      | some (body, ')' :: left) => do
        let (expression, _) ← quoted (fun _ => false) n body
        return (.number expression inQuotes, left)
      | _ => commands '(' rest
    | '(' :: rest => commands '(' rest
    | '\x7b' :: '#' :: rest =>
      let (name, left) := parameterName rest
      match name, left with
      | _ :: _, '\x7d' :: more => .ok (.parameter (String.ofList name) .length [] inQuotes, more)
      | _, _ => braces inQuotes n ('#' :: rest)
    | '\x7b' :: rest => braces inQuotes n rest
    | c :: rest =>
      if isSpecial c then .ok (.parameter (String.singleton c) .value [] inQuotes, rest)
      else if isNameChar c then
        .ok (.parameter (String.ofList (cs.takeWhile isNameChar)) .value [] inQuotes, cs.dropWhile isNameChar)
      else .ok (.text ['$'] inQuotes, cs)
    | [] => .ok (.text ['$'] inQuotes, [])
where
  /-- Commands in brackets. -/
  commands (_ : Char) (rest : List Char) : Except Fault (Piece × List Char) :=
    match enclosed 0 none rest.length rest with
    | some (body, left) => .ok (.output (String.ofList body) inQuotes, left)
    | none => .error (.unexpected endOfText (some "\")\""))

/-- A parameter in braces, behind the opening one. -/
def braces (inQuotes : Bool) : Nat → List Char → Except Fault (Piece × List Char)
  | 0, _ => .error .brace
  | n + 1, cs =>
    let (name, left) := parameterName cs
    match left with
    | [] => .error .brace
    | '\x7d' :: more =>
      if name.isEmpty then .error .badUse else .ok (.parameter (String.ofList name) .value [] inQuotes, more)
    | _ =>
      match if name.isEmpty then none else use? left with
      | none => .error .badUse
      | some (use, rest) => do
        let (w, left) ← if inQuotes then quoted (· == '\x7d') n rest else word (· == '\x7d') n rest
        match left with
        | _ :: more => return (.parameter (String.ofList name) use w inQuotes, more)
        | [] => throw .brace

/-- The pieces inside double quotes up to a character that ends them, which is left. -/
def quoted (ends : Char → Bool) : Nat → List Char → Except Fault (Word × List Char)
  | 0, cs => .ok ([], cs)
  | _, [] => .ok ([], [])
  | n + 1, c :: rest =>
    let push (piece : Piece) (rest : List Char) : Except Fault (Word × List Char) := do
      let (more, left) ← quoted ends n rest
      return (piece :: more, left)
    if ends c then .ok ([], c :: rest)
    else if c == '\\' then
      match rest with
      | d :: more =>
        if d == '\n' then quoted ends n more
        else if d == '"' || d == '\\' || d == '$' || d.toNat == 96 then push (.text [d] true) more
        else push (.text [c] true) rest
      | [] => push (.text [c] true) []
    else if c == '$' then do
      let (piece, more) ← dollar true n rest
      push piece more
    else if c.toNat == 96 then
      match backquoted rest with
      | some (body, more) => push (.output (String.ofList body) true) more
      | none => .error .backquote
    else push (.text [c] true) rest

/-- The pieces of a word up to a character that ends it, which is left. -/
def word (ends : Char → Bool) : Nat → List Char → Except Fault (Word × List Char)
  | 0, cs => .ok ([], cs)
  | _, [] => .ok ([], [])
  | n + 1, c :: rest =>
    let push (pieces : Word) (rest : List Char) : Except Fault (Word × List Char) := do
      let (more, left) ← word ends n rest
      return (pieces ++ more, left)
    if ends c then .ok ([], c :: rest)
    else if c == '\x27' then
      match rest.span (· != '\x27') with
      | (text, _ :: more) => push [.text text true] more
      | _ => .error .quote
    else if c == '"' then do
      match ← quoted (· == '"') n rest with
      | (pieces, _ :: more) => push (.text [] true :: pieces) more
      | (_, []) => throw .quote
    else if c == '\\' then
      match rest with
      | d :: more => if d == '\n' then word ends n more else push [.text [d] true] more
      | [] => push [.text [c] true] []
    else if c == '$' then do
      let (piece, more) ← dollar false n rest
      push [piece] more
    else if c.toNat == 96 then
      match backquoted rest with
      | some (body, more) => push [.output (String.ofList body) false] more
      | none => .error .backquote
    else push [.text [c] false] rest

end

/-- A token of a list. -/
inductive Token where
  | word (w : Word)
  | mark (s : String)
  /-- The mark of a redirection, with the number in front of it if there is one. -/
  | redirect (fd : Option Nat) (mark : String)
  /-- What cannot be read. -/
  | fault (f : Fault)
  deriving Repr, Inhabited

/-- A token with the number of the line it stands on. -/
abbrev Placed := Nat × Token

/-- The marks between commands, longer ones first. -/
def marks : List String := ["&&", "||", ";;", "&", "|", ";", "(", ")", "\n"]

/-- The marks of redirections, longer ones first. -/
def redirectMarks : List String := [">>", ">&", "<&", ">|", ">", "<"]

/-- The first of some marks that stands at the front of some characters, and the rest. -/
def markAt? (cs : List Char) (ms : List String) : Option (String × List Char) :=
  (ms.find? fun m => m.toList.isPrefixOf cs).map fun m => (m, cs.drop m.length)

/-- The tokens of a list, up to what cannot be read. The bound is the number of characters. -/
def tokens (line : Nat) : Nat → List Char → List Placed
  | 0, _ | _, [] => []
  | n + 1, c :: rest =>
    let push (t : Token) (left : List Char) : List Placed :=
      let taken := (c :: rest).take (rest.length + 1 - left.length)
      (line, t) :: tokens (line + taken.count '\n') n left
    if c == ' ' || c == '\t' then tokens line n rest
    else if c == '\\' && rest.head? == some '\n' then tokens (line + 1) n (rest.drop 1)
    else if c == '#' then tokens line n (rest.dropWhile (· != '\n'))
    else match markAt? (c :: rest) marks with
      | some (mark, left) => push (.mark mark) left
      | none =>
        match markAt? (c :: rest) redirectMarks with
        | some (mark, left) => push (.redirect none mark) left
        | none =>
          match if c.isDigit then markAt? rest redirectMarks else none with
          | some (mark, left) => push (.redirect (some (c.toNat - 48)) mark) left
          | none =>
            match word endsWord (rest.length + 1) (c :: rest) with
            | .ok (w, left) => push (.word w) left
            | .error f => [(line, .fault f)]

end Rehearsal.Program.Shell
