import Rehearsal.Text.Property
import Rehearsal.Value

/-!
# Tables of settings

The format of the settings file: statements of the form `key = value` under headers in brackets, which open a
table, or in double brackets, which append one to a list of tables. What a document may say twice is settled by
two marks on keys: a table that was opened explicitly cannot be opened again, and nothing can be added to a list
or a table written inside a value.

Only whether a document is well formed is told, not where it is not.
-/

namespace Rehearsal.Toml

/-- Why a document is not read. -/
inductive Error where
  | malformed
  | number (e : Integer.Error)
  /-- Too many lists and tables are open within each other. -/
  | tooDeep
  deriving DecidableEq, Repr, Inhabited

/-- A reader of the characters that are left. -/
abbrev Reader := StateT (List Char) (Except Error)

/-- Fails. -/
def bad {α : Type} : Reader α := throw .malformed

/-- The next character, if there is one. -/
def peek : Reader (Option Char) := do return (← get).head?

/-- Takes a text if it comes next. -/
def accept (s : String) : Reader Bool := do
  let cs := s.toList
  if cs.isPrefixOf (← get) then
    modify (·.drop cs.length)
    return true
  return false

/-- Takes the longest run of characters that satisfy a test. -/
def takeRun (p : Char → Bool) : Reader (List Char) := do
  let cs ← get
  set (cs.dropWhile p)
  return cs.takeWhile p

/-- Whether a character is a blank within a line. -/
def isSpace (c : Char) : Bool := c == ' ' || c == '\t'

/-- Whether a character is a blank or ends a line. -/
def isSpaceOrNewline (c : Char) : Bool := isSpace c || c == '\n'

/-- Skips blanks within a line. -/
def skipSpace : Reader Unit := do let _ ← takeRun isSpace

/-- Whether a character is a control that no line may hold. -/
def isControl (c : Char) : Bool := (c.toNat < 32 && c != '\t') || c.toNat == 127

/-- Skips a comment, if one begins here. -/
def skipComment : Reader Unit := do
  if ← accept "#" then
    let text ← takeRun (· != '\n')
    if text.any isControl then bad

/-- Skips blanks, line ends and comments. The bound is the number of characters left. -/
def skipFiller : Nat → Reader Unit
  | 0 => return ()
  | n + 1 => do
    let before := (← get).length
    let _ ← takeRun isSpaceOrNewline
    skipComment
    if (← get).length < before then skipFiller n

/-- Whether a character may be part of a bare key. -/
def isKeyChar (c : Char) : Bool := c.isAlphanum || c == '-' || c == '_'

/-- The character of a given number of hexadecimal digits. -/
def hexChar (count : Nat) : Reader (List Char) := do
  let digits := (← get).take count
  let values := digits.filterMap fun c => hexValue? c.toLower
  if values.length < count then bad
  modify (·.drop count)
  let code := Integer.ofDigits 16 values
  if 0x10FFFF < code || (0xD800 ≤ code && code < 0xE000) then bad
  return [Char.ofNat code]

/-- What a backslash in a text makes of the characters behind it. -/
def escape (multiline : Bool) : Reader (List Char) := do
  match ← get with
  | [] => bad
  | c :: rest =>
    set rest
    if multiline && (c == ' ' || c == '\t' || c == '\n') then
      if c == '\n' then let _ ← takeRun isSpaceOrNewline
      else
        skipSpace
        match ← peek with
        | none => return []
        | some d =>
          if d != '\n' then bad
          let _ ← takeRun isSpaceOrNewline
      return []
    match c with
    | 'u' => hexChar 4
    | 'U' => hexChar 8
    | 'b' => return ['\x08']
    | 't' => return ['\t']
    | 'n' => return ['\n']
    | 'f' => return ['\x0c']
    | 'r' => return ['\r']
    | '"' => return ['\x22']
    | '\\' => return ['\\']
    | _ => bad

/-- The rest of a text between double quotes, one or three at its end. The bound is the number of characters
left. -/
def basicText (multiline : Bool) : Nat → List Char → Reader (List Char)
  | 0, _ => bad
  | n + 1, got => do
    if multiline then
      if ← accept "\"\"\"" then return got
    else
      if ← accept "\"" then return got
    match ← get with
    | [] => bad
    | c :: rest =>
      set rest
      if c == '\\' then
        let cs ← escape multiline
        basicText multiline n (got ++ cs)
      else if isControl c && !(multiline && c == '\n') then bad
      else basicText multiline n (got ++ [c])

/-- The text up to the first occurrence of `stop`, which is taken too. -/
def textUntil (stop : List Char) (got : List Char) : List Char → Option (List Char × List Char)
  | [] => none
  | c :: rest =>
    if stop.isPrefixOf (c :: rest) then some (got.reverse, (c :: rest).drop stop.length)
    else textUntil stop (c :: got) rest

/-- A text between single quotes, taken as it is. -/
def literalText (multiline : Bool) : Reader (List Char) := do
  match textUntil (if multiline then ['\x27', '\x27', '\x27'] else ['\x27']) [] (← get) with
  | none => bad
  | some (text, rest) =>
    if text.any fun c => isControl c && !(multiline && c == '\n') then bad
    set rest
    return text

/-- Up to two more quotes, which belong to a text that three end. -/
def extraQuotes (quote : Char) : Reader (List Char) := do
  let run := ((← get).take 2).takeWhile (· == quote)
  modify (·.drop run.length)
  return run

/-- A text in quotes of any kind, if one begins here. -/
def quoted? (allowMultiline : Bool) : Reader (Option (List Char)) := do
  let n := (← get).length + 1
  if allowMultiline then
    if ← accept "\"\"\"" then
      let _ ← accept "\n"
      let text ← basicText true n []
      return some (text ++ (← extraQuotes '\x22'))
    if ← accept "'''" then
      let _ ← accept "\n"
      let text ← literalText true
      return some (text ++ (← extraQuotes '\x27'))
  if ← accept "\"" then return some (← basicText false n [])
  if ← accept "'" then return some (← literalText false)
  return none

/-- One part of a key. -/
def keyPart : Reader String := do
  match ← quoted? false with
  | some cs => return String.ofList cs
  | none =>
    let cs ← takeRun isKeyChar
    if cs.isEmpty then bad
    return String.ofList cs

/-- The parts of a key behind its first. -/
def keyParts : Nat → List String → Reader (List String)
  | 0, _ => bad
  | n + 1, got => do
    skipSpace
    if ← accept "." then
      skipSpace
      keyParts n (got ++ [← keyPart])
    else return got

/-- A key: parts between dots. -/
def key : Reader (List String) := do
  let n := (← get).length + 1
  keyParts n [← keyPart]

/-! ## Scalars -/

/-- Two digits of a number not above a bound, at the front of a text. -/
def twoDigits? (least most : Nat) : List Char → Option (Nat × List Char)
  | a :: b :: rest =>
    if a.isDigit && b.isDigit then
      let n := (a.toNat - 48) * 10 + (b.toNat - 48)
      if least ≤ n && n ≤ most then some (n, rest) else none
    else none
  | _ => none

/-- A character at the front of a text, and what follows. -/
def after? (c : Char) : List Char → Option (List Char)
  | d :: rest => if d == c then some rest else none
  | [] => none

/-- A time of day at the front of a text. -/
def clock? (cs : List Char) : Option (Clock × List Char) := do
  let (h, cs) ← twoDigits? 0 23 cs
  let cs ← after? ':' cs
  let (m, cs) ← twoDigits? 0 59 cs
  let cs ← after? ':' cs
  let (s, cs) ← twoDigits? 0 59 cs
  match cs with
  | '.' :: rest =>
    let digits := rest.takeWhile Char.isDigit
    if digits.isEmpty then return (⟨h, m, s, 0⟩, cs)
    let six := digits.take 6 ++ List.replicate (6 - digits.length) '0'
    return (⟨h, m, s, Integer.ofDigits 10 (six.map fun c => c.toNat - 48)⟩, rest.dropWhile Char.isDigit)
  | _ => return (⟨h, m, s, 0⟩, cs)

/-- A distance to universal time at the front of a text, if there is one. -/
def offset? (cs : List Char) : Option Int × List Char :=
  match cs with
  | [] => (none, [])
  | c :: rest =>
    if c == 'Z' || c == 'z' then (some 0, rest)
    else if c == '+' || c == '-' then
      match (do
        let (h, more) ← twoDigits? 0 23 rest
        let more ← after? ':' more
        let (m, more) ← twoDigits? 0 59 more
        return (h * 60 + m, more)) with
      | some (minutes, more) => (some (if c == '-' then -(minutes : Int) else minutes), more)
      | none => (none, cs)
    else (none, cs)

/-- A day, or a day with a time, at the front of a text. A day that the calendar does not have is a fault. -/
def day? (cs : List Char) : Option (Except Error Value × List Char) := do
  let year := cs.take 4
  if year.length < 4 || !year.all Char.isDigit then none
  let rest ← after? '-' (cs.drop 4)
  let (month, rest) ← twoDigits? 1 12 rest
  let rest ← after? '-' rest
  let (day, rest) ← twoDigits? 1 31 rest
  let made := Calendar.day? (Integer.ofDigits 10 (year.map fun c => c.toNat - 48)) month day
  let withTime : Option (Clock × List Char) := match rest with
    | c :: more => if c == 'T' || c == 't' || c == ' ' then clock? more else none
    | [] => none
  match made, withTime with
  | .error _, _ => return (.error .malformed, rest)
  | .ok d, none => return (.ok (.day d), rest)
  | .ok d, some (clock, more) =>
    let (zone, more) := offset? more
    return (.ok (.moment ⟨d, clock, zone⟩), more)

/-- Digits of a kind with single underscores between them, as they stand. -/
def digitRun (p : Char → Bool) (more : Bool) : List Char → List Char × List Char
  | [] => ([], [])
  | c :: rest =>
    if p c then
      let (ds, left) := digitRun p true rest
      (c :: ds, left)
    else if more && c == '_' && rest.head?.any p then
      let (ds, left) := digitRun p false rest
      (ds, left)
    else ([], c :: rest)

/-- Digits as a whole number. -/
def number (base : Nat) (ds : List Char) : Nat :=
  Integer.ofDigits base (ds.filterMap fun c => hexValue? c.toLower)

/-- A whole number behind the mark of its base, at the front of a text. -/
def based? (cs : List Char) : Option (Value × List Char) :=
  match cs with
  | '0' :: c :: rest =>
    let base := if c == 'x' then 16 else if c == 'o' then 8 else if c == 'b' then 2 else 0
    let digit (d : Char) : Bool := (hexValue? d.toLower).any (· < base)
    if base = 0 || !(rest.head?.any digit) then none
    else
      let (ds, left) := digitRun digit false rest
      some (.int (number base ds), left)
  | _ => none

/-- Digits behind a point, at the front of a text. -/
def places (cs : List Char) : List Char × List Char :=
  match cs with
  | '.' :: rest => if rest.head?.any Char.isDigit then digitRun Char.isDigit false rest else ([], cs)
  | _ => ([], cs)

/-- An exponent at the front of a text. -/
def exponent (cs : List Char) : Option Int × List Char :=
  match cs with
  | c :: rest =>
    if c == 'e' || c == 'E' then
      let (negative, digits) := Integer.sign rest
      if digits.head?.any Char.isDigit then
        let (ds, left) := digitRun Char.isDigit false digits
        (some (Integer.signed negative (number 10 ds)), left)
      else (none, cs)
    else (none, cs)
  | [] => (none, [])

/-- A decimal number at the front of a text. A number that begins with zero ends there. -/
def decimal? (cs : List Char) : Option (Except Error Value × List Char) :=
  let (negative, rest) := Integer.sign cs
  match rest with
  | [] => none
  | c :: more =>
    if !c.isDigit then none
    else
      let (whole, left) := if c == '0' then (['0'], more) else digitRun Char.isDigit false rest
      let (part, left) := places left
      let (power, left) := exponent left
      if part.isEmpty && power.isNone then
        if Integer.maxDigits < whole.length then some (.error (.number (.tooLong whole.length)), left)
        else some (.ok (.int (Integer.signed negative (number 10 whole))), left)
      else
        some (.ok (.float (Binary.ofDecimal negative (number 10 (whole ++ part)) (power.getD 0 - part.length))), left)

/-- Infinity or no number at the front of a text. -/
def special? (cs : List Char) : Option (Value × List Char) :=
  let (negative, rest) := Integer.sign cs
  let word := rest.take 3
  if word == "inf".toList then some (.float (Binary.nearest negative (Integer.twoTo 1025) 1), rest.drop 3)
  else if word == "nan".toList then some (.float (Float.ofBits 0x7FF8000000000000), rest.drop 3)
  else none

/-- A day, a time or a number. -/
def scalar : Reader Value := do
  let cs ← get
  match day? cs with
  | some (.ok v, rest) => set rest; return v
  | some (.error e, _) => throw e
  | none =>
    match clock? cs with
    | some (c, rest) => set rest; return .clock c
    | none =>
      match based? cs with
      | some (v, rest) => set rest; return v
      | none =>
        match decimal? cs with
        | some (.ok v, rest) => set rest; return v
        | some (.error e, _) => throw e
        | none =>
          match special? cs with
          | some (v, rest) => set rest; return v
          | none => bad

/-! ## Tables -/

/-- The items of a table. -/
abbrev Items := List (Value × Value)

/-- A mark on a key: that its table was opened, or that it is closed for good, itself alone or with everything under
it. -/
inductive Mark where
  | opened
  | frozen
  deriving DecidableEq, Repr, Inhabited

/-- Keys with the marks they carry. -/
abbrev Marks := List (List String × Mark)

/-- Whether a key carries a mark. The mark of being closed reaches everything under its key. -/
def Marks.has (ms : Marks) (k : List String) (m : Mark) : Bool :=
  ms.any fun (key, mark) => mark == m && (key == k || (mark == .frozen && key.isPrefixOf k))

/-- The marks without those at or under a key. -/
def Marks.free (ms : Marks) (k : List String) : Marks := ms.filter fun (key, _) => !k.isPrefixOf key

/-- Changes the table at a key, making those on the way that are missing. In the last table of a list it goes on where
`lists` is set. -/
def changeAt (lists : Bool) (f : Items → Except Error Items) : List String → Items → Except Error Items
  | [], items => f items
  | k :: rest, items =>
    match Value.get? k items with
    | none =>
      match changeAt lists f rest [] with
      | .ok made => .ok (items ++ [(.text k, .table made)])
      | .error e => .error e
    | some (.table inner) =>
      match changeAt lists f rest inner with
      | .ok changed => .ok (Value.put (.text k) (.table changed) items)
      | .error e => .error e
    | some (.list vs) =>
      match lists, vs.getLast? with
      | true, some (.table inner) =>
        match changeAt lists f rest inner with
        | .ok changed => .ok (Value.put (.text k) (.list (vs.dropLast ++ [.table changed])) items)
        | .error e => .error e
      | _, _ => .error .malformed
    | some _ => .error .malformed

/-- Puts a value under a key that is free. -/
def addNew (k : String) (v : Value) (items : Items) : Except Error Items :=
  if (Value.get? k items).isSome then .error .malformed else .ok (items ++ [(.text k, v)])

/-- Appends an empty table to the list under a key. -/
def appendTable (k : String) (items : Items) : Except Error Items :=
  match Value.get? k items with
  | none => .ok (items ++ [(.text k, .list [.table []])])
  | some (.list vs) => .ok (Value.put (.text k) (.list (vs ++ [.table []])) items)
  | some _ => .error .malformed

/-- Whether a value is closed for good once it is written. -/
def closes : Value → Bool
  | .table _ | .list _ => true
  | _ => false

/-- The parts of a key before the last, and the last. -/
def splitKey (k : List String) : List String × String := (k.dropLast, k.getLast?.getD "")

/-- The room for lists and tables that are open within each other. -/
def maxRoom : Nat := 989

/-- What is left of a room when something is opened that takes up a part of it. -/
def roomIn (room part : Nat) : Reader Nat := if room < part then throw .tooDeep else return room - part

mutual

/-- Reads a value. A list takes up two parts of the room, and a table three. Each call of these readers takes one from the
bound, the number of characters at the start. -/
def value (room : Nat) : Nat → Reader Value
  | 0 => bad
  | n + 1 => do
    match ← quoted? true with
    | some cs => return .text (String.ofList cs)
    | none =>
      if ← accept "true" then return .bool true
      if ← accept "false" then return .bool false
      if ← accept "[" then
        let room ← roomIn room 2
        skipFiller n
        if ← accept "]" then return .list []
        return .list (← arrayItems room n [])
      if ← accept "\x7b" then
        let room ← roomIn room 3
        skipSpace
        if ← accept "\x7d" then return .table []
        return .table (← inlineItems room n [] [])
      scalar

/-- Reads the rest of a list that has one more item. -/
def arrayItems (room : Nat) : Nat → List Value → Reader (List Value)
  | 0, _ => bad
  | n + 1, got => do
    let v ← value room n
    let got := got ++ [v]
    skipFiller n
    if ← accept "]" then return got
    unless ← accept "," do bad
    skipFiller n
    if ← accept "]" then return got
    arrayItems room n got

/-- Reads the rest of an inline table that has one more item. -/
def inlineItems (room : Nat) : Nat → Items → Marks → Reader Items
  | 0, _, _ => bad
  | n + 1, got, marks => do
    let k ← key
    unless ← accept "=" do bad
    skipSpace
    let v ← value room n
    if marks.has k .frozen then bad
    let (front, last) := splitKey k
    let got ← changeAt false (addNew last v) front got
    skipSpace
    if ← accept "\x7d" then return got
    unless ← accept "," do bad
    skipSpace
    inlineItems room n got (if closes v then (k, .frozen) :: marks else marks)

end

/-- A document as far as it is read: its items, the marks on its keys, those that come into force at the next header,
and the current header. -/
structure Document where
  items : Items
  marks : Marks
  pending : List (List String)
  header : List String
  deriving Repr, Inhabited

/-- The document with its pending marks in force. -/
def Document.settle (d : Document) : Document :=
  { d with marks := d.pending.map (·, Mark.opened) ++ d.marks, pending := [] }

/-- Reads a header in single brackets, the first of which has been taken. -/
def openTable (d : Document) : Reader Document := do
  let d := d.settle
  skipSpace
  let k ← key
  if d.marks.has k .opened || d.marks.has k .frozen then bad
  let items ← changeAt true .ok k d.items
  unless ← accept "]" do bad
  return { d with items, marks := (k, .opened) :: d.marks, header := k }

/-- Reads a header in double brackets, which have been taken. -/
def openList (d : Document) : Reader Document := do
  let d := d.settle
  skipSpace
  let k ← key
  if d.marks.has k .frozen then bad
  let marks := (k, Mark.opened) :: d.marks.free k
  let (front, last) := splitKey k
  let items ← changeAt true (appendTable last) front d.items
  unless ← accept "]]" do bad
  return { d with items, marks, header := k }

/-- The proper beginnings of a key, none of them empty. -/
def properPrefixes (k : List String) : List (List String) :=
  (List.range (k.length - 1)).map fun i => k.take (i + 1)

/-- Reads a statement. -/
def keyValue (d : Document) (n : Nat) : Reader Document := do
  let k ← key
  unless ← accept "=" do bad
  skipSpace
  let v ← value maxRoom n
  let (front, last) := splitKey k
  let opened := (properPrefixes k).map (d.header ++ ·)
  if opened.any fun o => d.marks.has o .opened then bad
  if d.marks.has (d.header ++ front) .frozen && !(d.header ++ front).isEmpty then bad
  let items ← changeAt true (addNew last v) (d.header ++ front) d.items
  let marks := if closes v then (d.header ++ k, Mark.frozen) :: d.marks else d.marks
  return { d with items, marks, pending := opened ++ d.pending }

/-- Reads statements to the end. The bound is the number of characters at the start. -/
def statements : Nat → Document → Reader Document
  | 0, d => return d
  | n + 1, d => do
    skipSpace
    match ← peek with
    | none => return d
    | some c =>
      if c == '\n' then
        modify (·.drop 1)
        statements n d
      else
        let d ← if c == '[' then do
            if ← accept "[[" then openList d
            else
              modify (·.drop 1)
              openTable d
          else if c == '#' then pure d
          else keyValue d (2 * n + 2)
        skipSpace
        skipComment
        match ← peek with
        | none => return d
        | some e =>
          if e != '\n' then bad
          modify (·.drop 1)
          statements n d

/-- A text in which every carriage return before a newline is dropped. -/
def unifyEnds : List Char → List Char
  | [] => []
  | c :: rest => if c == '\r' && rest.head? == some '\n' then unifyEnds rest else c :: unifyEnds rest

/-- Reads a document. -/
def ofText (s : String) : Except Error Items :=
  let cs := unifyEnds s.toList
  match (statements (cs.length + 1) ⟨[], [], [], []⟩).run cs with
  | .ok (d, _) => .ok d.items
  | .error e => .error e

end Rehearsal.Toml
