import Rehearsal.Text.Codes
import Rehearsal.Text.Property
import Rehearsal.Text.Bytes

/-!
# Reading tokens

The characters of a document are read from the left into tokens. Outside brackets the column of a token decides to
which block it belongs, so the reader keeps the columns of the open blocks. Whether something is a key is only known
at the colon behind it: the reader remembers, for each level of brackets, the last place where a key may have begun,
and forgets it at the end of the line or after 1024 characters.

Only whether a document is well formed is told, not where it is not. The exceptions are escapes of characters that
do not exist, which are a fault of their own. A fault is found only when what follows is asked for, so the tokens in
front of it are told too: a fault in their order is found first.
-/

namespace Rehearsal.Yaml

/-! ## Tokens

The words of the block notation that front matter is written in. Besides the marks that stand in the text there are
marks that only indentation makes: where a sequence or a mapping of a block begins, and where a block ends. A key of
one line has no mark of its own either; its token is put in front of it when the colon behind it is read.
-/

/-- What a line that begins with a percent sign says. -/
inductive Directive where
  /-- The version of the notation, of which only the first number matters. -/
  | version (major : Nat)
  /-- A handle stands for the beginning of tags. -/
  | tag (handle start : String)
  | unknown
  deriving DecidableEq, Repr, Inhabited

/-- A token. -/
inductive Token where
  | directive (d : Directive)
  | documentStart
  | documentEnd
  | blockSequence
  | blockMapping
  | blockEnd
  | sequenceStart
  | mappingStart
  | sequenceEnd
  | mappingEnd
  /-- The dash of an entry. -/
  | blockEntry
  /-- The comma between entries. -/
  | flowEntry
  | key
  | value
  | alias (name : String)
  | anchor (name : String)
  | tag (handle : Option String) (suffix : String)
  | scalar (text : Codes) (plain : Bool)
  | streamEnd
  deriving DecidableEq, Repr, Inhabited

/-! ## The reader -/

/-- Why a document has no tokens. -/
inductive ReadError where
  | malformed
  /-- An escape names no character. -/
  | noCharacter
  /-- An escape names a number that is too large to be looked at. -/
  | tooLarge
  /-- Too many sequences and mappings are open within each other. -/
  | tooDeep
  deriving DecidableEq, Repr, Inhabited

/-- A place where a key may have begun: the number of tokens in front of it, whether it has to be a key, and where it
is. -/
structure KeyPlace where
  before : Nat
  required : Bool
  index : Nat
  line : Nat
  column : Nat
  deriving DecidableEq, Repr, Inhabited

/-- What the reader knows. The columns of the open blocks have the innermost first; -1 stands for no block. -/
structure Reading where
  rest : List Char
  index : Nat
  line : Nat
  column : Nat
  tokens : List Token
  indent : Int
  outer : List Int
  level : Nat
  keyAllowed : Bool
  places : List (Nat × KeyPlace)
  deriving Repr, Inhabited

/-- A step of the reader. -/
abbrev Reader := StateT Reading (Except ReadError)

namespace Reader

/-- Fails. -/
def bad {α : Type} : Reader α := throw .malformed

/-- Whether a character ends a line. -/
def isBreak (c : Char) : Bool := c == '\n' || c == '\r' || c == '\x85' || c == '\u2028' || c == '\u2029'

/-- Whether what is next ends a line or the document. -/
def endsLine (c : Option Char) : Bool := c.all isBreak

/-- Whether what is next is a space, or ends a line or the document. -/
def endsWord (c : Option Char) : Bool := endsLine c || c == some ' '

/-- Whether what is next is a space or a tab, or ends a line or the document. -/
def isGap (c : Option Char) : Bool := endsWord c || c == some '\t'

/-- Whether a character may stand in a name. -/
def isNameChar (c : Char) : Bool := c.isAlphanum || c == '-' || c == '_'

/-- The next character. -/
def peek : Reader (Option Char) := do return (← get).rest.head?

/-- The character a number of places ahead. -/
def peekAt (n : Nat) : Reader (Option Char) := do return (← get).rest[n]?

/-- Takes a character. -/
def take : Reader Unit := do
  let s ← get
  match s.rest with
  | [] => return ()
  | c :: rest =>
    let ends := isBreak c && !(c == '\r' && rest.head? == some '\n')
    set { s with
      rest, index := s.index + 1
      line := if ends then s.line + 1 else s.line
      column := if ends then 0 else if c == '\ufeff' then s.column else s.column + 1 }

/-- Takes a number of characters. -/
def takeMany : Nat → Reader Unit
  | 0 => return ()
  | n + 1 => do
    take
    takeMany n

/-- Takes the longest run of characters that satisfy a test. -/
def takeRun (p : Char → Bool) : Reader (List Char) := do
  let run := (← get).rest.takeWhile p
  takeMany run.length
  return run

/-- Takes the end of a line, if it is next. All ends but two are the same. -/
def takeBreak : Reader (List Char) := do
  match (← get).rest with
  | '\r' :: '\n' :: _ => takeMany 2; return ['\n']
  | c :: _ =>
    if isBreak c then
      take
      return if c == '\u2028' || c == '\u2029' then [c] else ['\n']
    else return []
  | [] => return []

/-- Whether a mark of three characters stands here as a word. -/
def wordHere (mark : List Char) : Reader Bool := do
  let cs := (← get).rest
  return mark.isPrefixOf cs && isGap cs[3]?

/-- Whether a document begins or ends here. -/
def separatorHere : Reader Bool := do return (← wordHere "---".toList) || (← wordHere "...".toList)

/-- Adds a token. -/
def add (t : Token) : Reader Unit := modify fun s => { s with tokens := s.tokens ++ [t] }

/-- Sets whether a key may begin. -/
def allowKey (b : Bool) : Reader Unit := modify fun s => { s with keyAllowed := b }

/-- Skips spaces, comments and ends of lines. Outside brackets a key may begin on each new line. The bound is the
number of characters left. -/
def skipFiller : Nat → Reader Unit
  | 0 => return ()
  | n + 1 => do
    let _ ← takeRun (· == ' ')
    if (← peek) == some '#' then let _ ← takeRun (!isBreak ·)
    if (← takeBreak).isEmpty then return ()
    if (← get).level == 0 then allowKey true
    skipFiller n

/-- Forgets the places from which a key can no longer reach here. -/
def dropStale : Reader Unit := do
  let s ← get
  let stale (p : KeyPlace) : Bool := p.line != s.line || 1024 < s.index - p.index
  if s.places.any fun (_, p) => stale p && p.required then bad
  set { s with places := s.places.filter fun (_, p) => !stale p }

/-- Forgets the place of this level. -/
def dropPlace : Reader Unit := do
  let s ← get
  if (s.places.lookup s.level).any (·.required) then bad
  set { s with places := s.places.filter (·.1 != s.level) }

/-- Remembers this place as one where a key may begin. -/
def savePlace : Reader Unit := do
  let s ← get
  if s.keyAllowed then
    dropPlace
    let place := ⟨s.tokens.length, s.level == 0 && s.indent == s.column, s.index, s.line, s.column⟩
    modify fun s => { s with places := (s.level, place) :: s.places }

/-- Closes the blocks that are further right than a column. -/
def closeBlocks (column : Int) : Reader Unit := do
  let s ← get
  if s.level == 0 then
    let open' := s.indent :: s.outer
    let closed := open'.takeWhile (column < ·)
    let left := open'.drop closed.length
    set { s with
      tokens := s.tokens ++ closed.map fun _ => Token.blockEnd
      indent := left.head?.getD (-1)
      outer := left.tail }

/-- Opens a block at a column, unless the innermost one is already there. -/
def openBlock (column : Nat) : Reader Bool := do
  let s ← get
  if s.indent < column then
    set { s with indent := column, outer := s.indent :: s.outer }
    return true
  return false

/-- A run of hexadecimal digits of a length, as a number. -/
def hexNumber (length : Nat) : Reader Nat := do
  let digits := (← get).rest.take length
  if digits.length < length then bad
  let values := digits.filterMap fun c => hexValue? c.toLower
  if values.length < length then bad
  takeMany length
  return values.foldl (fun n d => 16 * n + d) 0

/-- The bytes that percent signs escape. The bound is the number of characters left. -/
def escapedBytes : Nat → Reader Bytes
  | 0 => return []
  | n + 1 => do
    if (← peek) != some '%' then return []
    take
    let b ← hexNumber 2
    return b.toUInt8 :: (← escapedBytes n)

/-- Whether a character may stand in a tag. -/
def isTagChar (c : Char) : Bool := c.isAlphanum || "-;/?:@&=+$,_.!~*'()[]".toList.contains c

/-- The pieces of a tag. The bound is the number of characters left. -/
def tagPieces : Nat → Reader (List Char)
  | 0 => return []
  | n + 1 => do
    let run ← takeRun isTagChar
    if (← peek) == some '%' then
      match Utf8.decodeChars (← escapedBytes (n + 1)) with
      | .ok cs => return run ++ cs ++ (← tagPieces n)
      | .error _ => bad
    else return run

/-- A tag, which is not empty. -/
def tagText : Reader String := do
  let s ← get
  if !(s.rest.head?.any fun c => isTagChar c || c == '%') then bad
  return String.ofList (← tagPieces s.rest.length)

/-- The handle of a tag: a name between exclamation marks, or one mark alone. -/
def tagHandle : Reader String := do
  if (← peek) != some '!' then bad
  take
  if (← peek) == some ' ' then return "!"
  let name ← takeRun isNameChar
  if (← peek) != some '!' then bad
  take
  return String.ofList ('!' :: name ++ ['!'])

/-- A number of decimal digits. -/
def decimal : Reader Nat := do
  let digits ← takeRun Char.isDigit
  if digits.isEmpty then bad
  return digits.foldl (fun n c => 10 * n + (c.toNat - 48)) 0

/-- Skips what may stand at the end of a line that says no more. -/
def finishLine : Reader Unit := do
  let _ ← takeRun (· == ' ')
  if (← peek) == some '#' then let _ ← takeRun (!isBreak ·)
  unless endsLine (← peek) do bad
  let _ ← takeBreak

/-- A directive. -/
def directive : Reader Directive := do
  take
  let name ← takeRun isNameChar
  if name.isEmpty then bad
  unless endsWord (← peek) do bad
  let result ←
    if name == "YAML".toList then do
      let _ ← takeRun (· == ' ')
      let major ← decimal
      if (← peek) != some '.' then bad
      take
      let _ ← decimal
      unless endsWord (← peek) do bad
      pure (Directive.version major)
    else if name == "TAG".toList then do
      let _ ← takeRun (· == ' ')
      let handle ← tagHandle
      if (← peek) != some ' ' then bad
      let _ ← takeRun (· == ' ')
      let start ← tagText
      unless endsWord (← peek) do bad
      pure (Directive.tag handle start)
    else do
      let _ ← takeRun (!isBreak ·)
      pure Directive.unknown
  finishLine
  return result

/-- The name of an anchor or an alias. -/
def anchorName : Reader String := do
  take
  let name ← takeRun isNameChar
  if name.isEmpty then bad
  let next ← peek
  unless isGap next || next.any fun c => "?:,]\x7d%@\x60".toList.contains c do bad
  return String.ofList name

/-- Whether a second exclamation mark stands in the word behind the first. -/
def hasHandle (cs : List Char) : Bool := (cs.takeWhile fun c => !endsWord (some c)).contains '!'

/-- A tag. -/
def tag : Reader Token := do
  let t ←
    match ← peekAt 1 with
    | some '<' => do
      takeMany 2
      let text ← tagText
      if (← peek) != some '>' then bad
      take
      pure (Token.tag none text)
    | next =>
      if isGap next then do
        take
        pure (Token.tag none "!")
      else if hasHandle ((← get).rest.drop 1) then do
        let handle ← tagHandle
        pure (Token.tag (some handle) (← tagText))
      else do
        take
        pure (Token.tag (some "!") (← tagText))
  unless endsWord (← peek) do bad
  return t

/-- How the lines at the end of a block text are kept: all of them, the first only, or none. -/
inductive Chomping where
  | keep | clip | strip
  deriving DecidableEq, Repr, Inhabited

/-- The sign that says how lines at the end are kept. -/
def chomping? : Option Char → Option Chomping
  | some '+' => some .keep
  | some '-' => some .strip
  | _ => none

/-- The digit that says how far a block text is indented. -/
def indentation? : Reader (Option Nat) := do
  match ← peek with
  | some c =>
    if !c.isDigit then return none
    if c == '0' then bad
    take
    return some (c.toNat - 48)
  | none => return none

/-- The marks behind the mark of a block text: a sign and a digit in either order. -/
def blockHeader : Reader (Chomping × Option Nat) := do
  let result ←
    match chomping? (← peek) with
    | some chomping => do
      take
      pure (chomping, ← indentation?)
    | none => do
      let indent ← indentation?
      match indent, chomping? (← peek) with
      | some _, some chomping => do
        take
        pure (chomping, indent)
      | _, _ => pure (.clip, indent)
  unless endsWord (← peek) do bad
  return result

/-- The ends of empty lines in front of a block text, and the column of the deepest space among them. The bound is the
number of characters left. -/
def blockLead (deepest : Nat) : Nat → Reader (List Char × Nat)
  | 0 => return ([], deepest)
  | n + 1 => do
    match ← peek with
    | some ' ' => do
      take
      blockLead (max deepest (← get).column) n
    | c =>
      if c.any isBreak then
        let b ← takeBreak
        let (more, deepest) ← blockLead deepest n
        return (b ++ more, deepest)
      else return ([], deepest)

/-- Takes spaces up to a column. The bound is the number of characters left. -/
def spacesTo (column : Nat) : Nat → Reader Unit
  | 0 => return ()
  | n + 1 => do
    if (← get).column < column && (← peek) == some ' ' then
      take
      spacesTo column n

/-- The ends of empty lines within a block text, and the spaces in front of the next line. The bound is the number of
characters left. -/
def blockBreaks (indent : Nat) : Nat → Reader (List Char)
  | 0 => return []
  | n + 1 => do
    spacesTo indent indent
    if (← peek).any isBreak then
      let b ← takeBreak
      return b ++ (← blockBreaks indent n)
    else return []

/-- The lines of a block text, with `breaks` the ends of empty lines in front: the text so far, the end of its last
line, and the ends of the empty lines behind. The bound is the number of characters left. -/
def blockLines (folded : Bool) (indent : Nat) (breaks : List Char) :
    Nat → Reader (List Char × List Char × List Char)
  | 0 => return ([], [], breaks)
  | n + 1 => do
    let inside : Reader Bool := do
      let s ← get
      return s.column == indent && !s.rest.isEmpty
    let blank (c : Option Char) : Bool := c == some ' ' || c == some '\t'
    if !(← inside) then return ([], [], breaks)
    let indented := blank (← peek)
    let line ← takeRun (!isBreak ·)
    let lineBreak ← takeBreak
    let after ← blockBreaks indent n
    if !(← inside) then return (breaks ++ line, lineBreak, after)
    let joint :=
      if folded && lineBreak == ['\n'] && !indented && !blank (← peek) then
        if after.isEmpty then [' '] else []
      else lineBreak
    let (more, last, tail) ← blockLines folded indent after n
    return (breaks ++ line ++ joint ++ more, last, tail)

/-- A block text. -/
def blockText (folded : Bool) : Reader Token := do
  take
  let (chomping, given) ← blockHeader
  finishLine
  let s ← get
  let n := s.rest.length + 1
  let least := (max (s.indent + 1) 1).toNat
  let (breaks, indent) ←
    match given with
    | some k => do pure (← blockBreaks (least + k - 1) n, least + k - 1)
    | none => do
      let (breaks, deepest) ← blockLead 0 n
      pure (breaks, max least deepest)
  let (text, lineBreak, tail) ← blockLines folded indent breaks n
  let ending := match chomping with
    | .strip => []
    | .clip => lineBreak
    | .keep => lineBreak ++ tail
  return .scalar ((text ++ ending).map Char.toNat) false

/-- The character a letter behind a backslash stands for. -/
def escaped? (c : Char) : Option Char :=
  [('0', '\x00'), ('a', '\x07'), ('b', '\x08'), ('t', '\t'), ('\t', '\t'), ('n', '\n'), ('v', '\x0b'),
    ('f', '\x0c'), ('r', '\r'), ('e', '\x1b'), (' ', ' '), ('"', '"'), ('\\', '\\'), ('/', '/'), ('N', '\x85'),
    ('_', '\xa0'), ('L', '\u2028'), ('P', '\u2029')].lookup c

/-- The number of digits behind a letter that begins a numbered escape. -/
def escapeLength? (c : Char) : Option Nat := [('x', 2), ('u', 4), ('U', 8)].lookup c

/-- The ends of empty lines within a quoted text. The bound is the number of characters left. -/
def quotedBreaks : Nat → Reader (List Char)
  | 0 => return []
  | n + 1 => do
    if ← separatorHere then bad
    let _ ← takeRun fun c => c == ' ' || c == '\t'
    let b ← takeBreak
    if b.isEmpty then return []
    return b ++ (← quotedBreaks n)

/-- The codes of characters. -/
def codesOf (cs : List Char) : Codes := cs.map Char.toNat

/-- An escape behind its backslash. It may be half of a surrogate pair. -/
def escape : Reader Codes := do
  match ← peek with
  | none => bad
  | some c =>
    if let some e := escaped? c then
      take
      return [e.toNat]
    if let some length := escapeLength? c then
      take
      let code ← hexNumber length
      if 0x80000000 ≤ code then throw .tooLarge
      if 0x110000 ≤ code then throw .noCharacter
      return [code]
    if !isBreak c then bad
    let _ ← takeBreak
    return codesOf (← quotedBreaks (← get).rest.length)

/-- A stretch of a quoted text without blanks. The bound is the number of characters left. -/
def quotedWord (double : Bool) : Nat → Reader Codes
  | 0 => return []
  | n + 1 => do
    let run := codesOf (← takeRun fun c =>
      !(c == '\x27' || c == '"' || c == '\\' || c == ' ' || c == '\t' || isBreak c))
    match ← peek with
    | none => return run
    | some c =>
      if c == '\x27' && !double then
        if (← peekAt 1) == some '\x27' then
          takeMany 2
          return run ++ c.toNat :: (← quotedWord double n)
        return run
      if c == '\\' && double then
        take
        let e ← escape
        return run ++ e ++ (← quotedWord double n)
      if c == '\x27' || (!double && (c == '"' || c == '\\')) then
        take
        return run ++ c.toNat :: (← quotedWord double n)
      return run

/-- The blanks within a quoted text: those around the end of a line become one space. -/
def quotedBlanks : Reader (List Char) := do
  let blanks ← takeRun fun c => c == ' ' || c == '\t'
  if (← peek).isNone then bad
  let lineBreak ← takeBreak
  if lineBreak.isEmpty then return blanks
  let breaks ← quotedBreaks ((← get).rest.length + 1)
  return (if lineBreak != ['\n'] then lineBreak else if breaks.isEmpty then [' '] else []) ++ breaks

/-- A quoted text from behind its opening quote. The bound is the number of characters left. -/
def quotedRest (double : Bool) (quote : Char) : Nat → Reader Codes
  | 0 => bad
  | n + 1 => do
    let word ← quotedWord double (n + 1)
    if (← peek) == some quote then
      take
      return word
    let blanks ← quotedBlanks
    return word ++ codesOf blanks ++ (← quotedRest double quote n)

/-- A quoted text. -/
def quotedText (double : Bool) : Reader Token := do
  take
  let text ← quotedRest double (if double then '"' else '\x27') ((← get).rest.length + 1)
  return .scalar text false

/-- Whether a plain text ends at the front of some characters. -/
def plainEnds (inFlow : Bool) : List Char → Bool
  | [] => true
  | c :: rest =>
    let flow (d : Char) : Bool := d == ',' || d == '[' || d == ']' || d == '\x7b' || d == '\x7d'
    isGap (some c) || (c == ':' && (isGap rest.head? || (inFlow && rest.head?.any flow))) ||
      (inFlow && (flow c || c == '?'))

/-- The characters of a plain text up to where it ends. -/
def plainRun (inFlow : Bool) : List Char → List Char
  | [] => []
  | c :: rest => if plainEnds inFlow (c :: rest) then [] else c :: plainRun inFlow rest

/-- The ends of empty lines within a plain text, or nothing where the document ends. The bound is the number of
characters left. -/
def plainBreaks : Nat → Reader (Option (List Char))
  | 0 => return some []
  | n + 1 => do
    let _ ← takeRun (· == ' ')
    let b ← takeBreak
    if b.isEmpty then return some []
    if ← separatorHere then return none
    return (← plainBreaks n).map (b ++ ·)

/-- The blanks behind a stretch of plain text. At the end of a line they become one space, and a key may begin. -/
def plainBlanks : Reader (List Char) := do
  let spaces ← takeRun (· == ' ')
  let lineBreak ← takeBreak
  if lineBreak.isEmpty then return spaces
  allowKey true
  if ← separatorHere then return []
  match ← plainBreaks ((← get).rest.length + 1) with
  | none => return []
  | some breaks =>
    return (if lineBreak != ['\n'] then lineBreak else if breaks.isEmpty then [' '] else []) ++ breaks

/-- A plain text, with `blanks` in front of what comes next. The bound is the number of characters left. -/
def plainRest (indent : Int) (blanks : List Char) : Nat → Reader (List Char)
  | 0 => return []
  | n + 1 => do
    if (← peek) == some '#' then return []
    let s ← get
    let run := plainRun (s.level != 0) s.rest
    if run.isEmpty then return []
    allowKey false
    takeMany run.length
    let after ← plainBlanks
    let s ← get
    if after.isEmpty || s.rest.head? == some '#' || (s.level == 0 && (s.column : Int) < indent) then
      return blanks ++ run
    return blanks ++ run ++ (← plainRest indent after n)

/-- A plain text. -/
def plainText : Reader Token := do
  let s ← get
  return .scalar (codesOf (← plainRest (s.indent + 1) [] (s.rest.length + 1))) true

/-- Whether a plain text may begin at the front of some characters. -/
def plainBegins (inFlow : Bool) : List Char → Bool
  | [] => false
  | c :: rest =>
    !(isGap (some c) || "-?:,[]\x7b\x7d#&*!|>'\"%@\x60".toList.contains c) ||
      (!isGap rest.head? && (c == '-' || (!inFlow && (c == '?' || c == ':'))))

/-- Ends the open blocks and adds a token that stands outside them. -/
def outside (t : Reader Token) : Reader Unit := do
  closeBlocks (-1)
  dropPlace
  allowKey false
  add (← t)

/-- Takes a number of characters that are a token. -/
def mark (t : Token) (length : Nat) : Reader Token := do
  takeMany length
  return t

/-- Opens brackets. -/
def openBracket (t : Token) : Reader Unit := do
  savePlace
  modify fun s => { s with level := s.level + 1 }
  allowKey true
  add (← mark t 1)

/-- Closes brackets, of which there have to be some. -/
def closeBracket (t : Token) : Reader Unit := do
  dropPlace
  if (← get).level == 0 then bad
  modify fun s => { s with level := s.level - 1 }
  allowKey false
  add (← mark t 1)

/-- The comma between entries. -/
def comma : Reader Unit := do
  allowKey true
  dropPlace
  add (← mark .flowEntry 1)

/-- The dash of an entry, which opens a block if it is further right than the innermost one. -/
def dash : Reader Unit := do
  let s ← get
  if s.level == 0 then
    unless s.keyAllowed do bad
    if ← openBlock s.column then add .blockSequence
  allowKey true
  dropPlace
  add (← mark .blockEntry 1)

/-- The mark of a key. -/
def questionMark : Reader Unit := do
  let s ← get
  if s.level == 0 then
    unless s.keyAllowed do bad
    if ← openBlock s.column then add .blockMapping
  allowKey (s.level == 0)
  dropPlace
  add (← mark .key 1)

/-- Puts tokens behind the first few. -/
def insertAt (n : Nat) (ts : List Token) : Reader Unit :=
  modify fun s => { s with tokens := s.tokens.take n ++ ts ++ s.tokens.drop n }

/-- The colon between a key and its value. If a key may have begun on this level, it did. -/
def colon : Reader Unit := do
  let s ← get
  match s.places.lookup s.level with
  | some place =>
    set { s with places := s.places.filter (·.1 != s.level) }
    insertAt place.before [.key]
    if s.level == 0 then
      if ← openBlock place.column then insertAt place.before [.blockMapping]
    allowKey false
  | none =>
    if s.level == 0 then
      unless s.keyAllowed do bad
      if ← openBlock s.column then add .blockMapping
    allowKey (s.level == 0)
    dropPlace
  add (← mark .value 1)

/-- A token that a key may begin with. -/
def word (t : Reader Token) : Reader Unit := do
  savePlace
  allowKey false
  add (← t)

/-- A block text. -/
def block (folded : Bool) : Reader Unit := do
  allowKey true
  dropPlace
  add (← blockText folded)

/-- Reads the token that begins with a character, and tokens that indentation makes in front of it. -/
def token (c : Char) : Reader Unit := do
  let s ← get
  let inFlow := s.level != 0
  let gap := isGap (s.rest.drop 1).head?
  if c == '%' && s.column == 0 then outside (.directive <$> directive)
  else if s.column == 0 && (← wordHere "---".toList) then outside (mark .documentStart 3)
  else if s.column == 0 && (← wordHere "...".toList) then outside (mark .documentEnd 3)
  else if c == '[' then openBracket .sequenceStart
  else if c == '\x7b' then openBracket .mappingStart
  else if c == ']' then closeBracket .sequenceEnd
  else if c == '\x7d' then closeBracket .mappingEnd
  else if c == ',' then comma
  else if c == '-' && gap then dash
  else if c == '?' && (inFlow || gap) then questionMark
  else if c == ':' && (inFlow || gap) then colon
  else if c == '*' then word (.alias <$> anchorName)
  else if c == '&' then word (.anchor <$> anchorName)
  else if c == '!' then word tag
  else if c == '|' && !inFlow then block false
  else if c == '>' && !inFlow then block true
  else if c == '\x27' then word (quotedText false)
  else if c == '"' then word (quotedText true)
  else if plainBegins inFlow s.rest then word plainText
  else bad

/-- Reads the next token. The flag tells whether there is more to read. -/
def next : Reader Bool := do
  skipFiller ((← get).rest.length + 1)
  dropStale
  closeBlocks (← get).column
  match ← peek with
  | none => do
    outside (pure .streamEnd)
    return false
  | some c => do
    token c
    return true

/-- The number of tokens that may be used before more has to be read: the first one that may yet turn out to be a key
has to wait. -/
def settled (s : Reading) : Nat :=
  let live := s.places.filter fun (_, p) => p.line == s.line && s.index - p.index ≤ 1024
  live.foldl (fun n (_, p) => min n p.before) s.tokens.length

/-- Reads tokens to the end or to a fault, of which is told together with the tokens that may be used before it is
found. The bound is the number of characters left. -/
def readAll (s : Reading) : Nat → List Token × Option ReadError
  | 0 => (s.tokens, some .malformed)
  | n + 1 =>
    match next.run s with
    | .ok (true, s) => readAll s n
    | .ok (false, s) => (s.tokens, none)
    | .error e => (s.tokens.take (settled s), some e)

end Reader

/-- Whether a character may stand in a document. -/
def isAllowed (c : Char) : Bool :=
  let n := c.toNat
  n == 9 || n == 10 || n == 13 || (0x20 ≤ n && n ≤ 0x7E) || n == 0x85 || (0xA0 ≤ n && n ≤ 0xD7FF) ||
    (0xE000 ≤ n && n ≤ 0xFFFD) || 0x10000 ≤ n

/-- The tokens of a document, and the fault that is found behind them if there is one. -/
def tokens (s : String) : List Token × Option ReadError :=
  let cs := s.toList
  if !cs.all isAllowed then ([], some .malformed)
  else
    let cs := if cs.head? == some '\ufeff' then cs.drop 1 else cs
    Reader.readAll ⟨cs, 0, 0, 0, [], -1, [], 0, true, []⟩ (cs.length + 2)

end Rehearsal.Yaml
