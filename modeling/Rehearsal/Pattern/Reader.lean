import Rehearsal.Decimal.Integer
import Rehearsal.Pattern.Basic
import Rehearsal.Text.Identifier
import Rehearsal.Text.Name
import Rehearsal.Text.Nesting
import Rehearsal.Text.Quoted

/-!
# Reading patterns

A pattern is read from the left, one token at a time; a token is a character or a backslash with the character
behind it. The reader looks at one token before taking it, so a backslash at the very end is noticed as soon as
the token before it is taken, ahead of anything else that may be wrong.

Every error says where it is: a position in characters, and for a pattern of several lines the line and the
column too.
-/

namespace Rehearsal.Pattern

/-- What is wrong with a pattern. -/
inductive Error where
  /-- It is not written as a pattern is, with the position of the fault if there is one. -/
  | malformed (what : String) (position : Option Nat) (text : String)
  /-- A count is too large to be repeated. -/
  | tooManyRounds
  /-- A count has too many digits. -/
  | count (e : Integer.Error)
  /-- The flags at the front ask for two alphabets. -/
  | twoAlphabets
  /-- Too many groups are open within each other. -/
  | tooDeep
  deriving DecidableEq, Repr, Inhabited

/-- Where a position lies: its line, counted from one, and its column. -/
def lineAndColumn (cs : List Char) (position : Nat) : Nat × Nat :=
  let before := cs.take position
  (before.count '\n' + 1, (before.reverse.takeWhile (· != '\n')).length + 1)

/-- The wording of the error. -/
def Error.message : Error → String
  | .malformed what none _ => what
  | .malformed what (some position) text =>
    let cs := text.toList
    let shown := s!"{what} at position {position}"
    if cs.contains '\n' then
      let (line, column) := lineAndColumn cs position
      s!"{shown} (line {line}, column {column})"
    else shown
  | .tooManyRounds => "the repetition number is too large"
  | .count e => e.message
  | .twoAlphabets => "ASCII and UNICODE flags are incompatible"
  | .tooDeep => Nesting.message

/-- A token: a character, or one behind a backslash. -/
inductive Token where
  | plain (c : Char)
  | escaped (c : Char)
  deriving DecidableEq, Repr, Inhabited

/-- The text of a token. -/
def Token.text : Token → List Char
  | .plain c => [c]
  | .escaped c => ['\\', c]

/-- What the reader knows: the rest of the pattern, where it is in it, the flags of the whole, the names and widths
of the groups begun so far, of which group numbers something was asked before they were known, and how many more groups
may be opened within those that are open. -/
structure Reading where
  rest : List Char
  pos : Nat
  flags : Flags
  names : List (String × Nat)
  widths : List (Option (Nat × Nat))
  lookingBehind : Option Nat
  asked : List (Nat × Nat)
  levels : Nat
  deriving Repr, Inhabited

/-- A step of reading a pattern whose text is at hand. -/
abbrev Reader := ReaderT String (StateT Reading (Except Error))

namespace Reader

/-- Fails at an absolute position. -/
def failAt {α : Type} (what : String) (position : Option Nat) : Reader α := do
  throw (.malformed what position (← read))

/-- Fails, the fault lying `offset` characters before the current position. -/
def fail {α : Type} (what : String) (offset : Nat) : Reader α := do
  failAt what (some ((← get).pos - offset))

/-- The current token, if the pattern is not over. -/
def peek : Reader (Option Token) := do
  match (← get).rest with
  | [] => return none
  | [c] => return some (.plain c)
  | c :: d :: _ => return some (if c == '\\' then .escaped d else .plain c)

/-- Fails when only a backslash is left. -/
def checkEnd : Reader Unit := do
  if (← get).rest == ['\\'] then fail "bad escape (end of pattern)" 0

/-- Takes the current token. -/
def take : Reader (Option Token) := do
  match ← peek with
  | none => return none
  | some t =>
    modify fun s => { s with rest := s.rest.drop t.text.length, pos := s.pos + t.text.length }
    checkEnd
    return some t

/-- Takes the current token if it is a given character. -/
def accept (c : Char) : Reader Bool := do
  if (← peek) == some (.plain c) then let _ ← take; return true
  return false

/-- Takes up to `n` characters of a set. -/
def takeWhile (p : Char → Bool) : Nat → Reader (List Char)
  | 0 => return []
  | n + 1 => do
    match ← peek with
    | some (.plain c) =>
      if p c then
        let _ ← take
        return c :: (← takeWhile p n)
      return []
    | _ => return []

/-- Takes a name up to its closing character, `n` bounding its tokens. -/
def nameUntil (stop : Char) (what : String) (n : Nat) (got : List Char) : Reader (List Char) := do
  match n, ← take with
  | _, none =>
    if got.isEmpty then fail s!"missing {what}" 0
    else fail s!"missing {stop}, unterminated name" got.length
  | 0, _ => return got
  | n + 1, some t =>
    if t == .plain stop then
      if got.isEmpty then fail s!"missing {what}" 1
      return got
    nameUntil stop what n (got ++ t.text)

/-- Takes a name up to its closing character. -/
def name (stop : Char) (what : String) : Reader (List Char) := do
  nameUntil stop what ((← get).rest.length + 1) []

/-- Fails unless characters form a name. They end one character before the current position. -/
def checkName (cs : List Char) : Reader Unit := do
  unless Identifier.isName cs do fail s!"bad character in group name {Quoted.text (String.ofList cs)}" (cs.length + 1)

/-- The widths of a group that is closed. -/
def closed? (n : Nat) : Reader (Option (Nat × Nat)) := do return ((← get).widths[n]?).join

/-- Fails where a look behind asks for a group that is not closed, or that it holds itself. -/
def checkBehind (n : Nat) : Reader Unit := do
  match (← get).lookingBehind with
  | none => return ()
  | some first =>
    if (← closed? n).isNone then fail "cannot refer to an open group" 0
    if first ≤ n then fail "cannot refer to group defined in the same lookbehind subpattern" 0

/-- A reference to a group, the text of which ends `offset` characters before the current position. -/
def reference (n offset : Nat) : Reader Tree := do
  if (← closed? n).isNone then fail "cannot refer to an open group" offset
  checkBehind n
  return .same n

/-- The widths of the groups so far. -/
def widths (t : Tree) : Reader (Nat × Nat) := do
  let ws := (← get).widths
  return t.widths fun n => ((ws[n]?).join).getD (0, 0)

/-- The value of hexadecimal digits of either case. -/
def hexNumber (cs : List Char) : Nat := cs.foldl (fun n c => 16 * n + (hexValue? c.toLower).getD 0) 0

/-- Whether a character is a hexadecimal digit of either case. -/
def isHex (c : Char) : Bool := (hexValue? c.toLower).isSome

/-- Whether a character is an octal digit. -/
def isOctal (c : Char) : Bool := '0' ≤ c && c ≤ '7'

/-- Whether a character is a digit of ASCII. -/
def isPlainDigit (c : Char) : Bool := '0' ≤ c && c ≤ '9'

/-- An escape by a fixed number of hexadecimal digits. -/
def hexEscape (kind : Char) (count : Nat) : Reader Nat := do
  let digits ← takeWhile isHex count
  let shown := '\\' :: kind :: digits
  if digits.length ≠ count then fail s!"incomplete escape {String.ofList shown}" shown.length
  let code := hexNumber digits
  if 0x10FFFF < code then fail s!"bad escape {String.ofList shown}" shown.length
  return code

/-- An escape by the name of a character. -/
def namedEscape : Reader Nat := do
  unless ← accept '\x7b' do fail "missing \x7b" 0
  let given ← name '\x7d' "character name"
  match CharName.find? given with
  | some code => return code
  | none => fail s!"undefined character name {Quoted.text (String.ofList given)}" (given.length + 4)

/-- Fails at an octal escape beyond one byte. -/
def checkOctal (shown : List Char) : Reader Nat := do
  let code := Integer.ofDigits 8 ((shown.drop 1).map fun c => c.toNat - 48)
  if 255 < code then
    fail s!"octal escape value {String.ofList shown} outside of range 0-0o377" shown.length
  return code

/-- Characters with a short escape. -/
def shortEscape? (c : Char) : Option Char :=
  match c with
  | 'a' => some '\x07'
  | 'b' => some '\x08'
  | 'f' => some '\x0c'
  | 'n' => some '\n'
  | 'r' => some '\r'
  | 't' => some '\t'
  | 'v' => some '\x0b'
  | '\\' => some '\\'
  | _ => none

/-- Character classes with an escape. -/
def category? (c : Char) : Option Member :=
  match c with
  | 'd' => some (.category .digit false)
  | 'D' => some (.category .digit true)
  | 's' => some (.category .space false)
  | 'S' => some (.category .space true)
  | 'w' => some (.category .word false)
  | 'W' => some (.category .word true)
  | _ => none

/-- Places with an escape. -/
def anchor? (c : Char) : Option Anchor :=
  match c with
  | 'A' => some .textStart
  | 'b' => some .boundary
  | 'B' => some .notBoundary
  | 'Z' => some .textEnd
  | _ => none

/-- An escape that ends with its one character: a letter may not stand for itself. -/
def selfEscape (c : Char) : Reader Nat := do
  if c.isAlphanum then fail ("bad escape " ++ String.ofList ['\\', c]) 2
  return c.toNat

/-- An escape within a character set. -/
def memberEscape (c : Char) : Reader Member := do
  match shortEscape? c, category? c with
  | some d, _ => return .one d.toNat
  | none, some m => return m
  | none, none =>
    if c == 'x' then return .one (← hexEscape 'x' 2)
    else if c == 'u' then return .one (← hexEscape 'u' 4)
    else if c == 'U' then return .one (← hexEscape 'U' 8)
    else if c == 'N' then return .one (← namedEscape)
    else if isOctal c then
      let more ← takeWhile isOctal 2
      return .one (← checkOctal ('\\' :: c :: more))
    else return .one (← selfEscape c)

/-- An escape by digits outside a set: an octal code or the number of a group. -/
def digitEscape (c : Char) : Reader Tree := do
  if c == '0' then
    let more ← takeWhile isOctal 2
    return .char (Integer.ofDigits 8 (more.map fun d => d.toNat - 48))
  let second ← takeWhile isPlainDigit 1
  if isOctal c && second.any isOctal then
    let third ← takeWhile isOctal 1
    unless third.isEmpty do return .char (← checkOctal ('\\' :: c :: second ++ third))
  let n := Integer.ofDigits 10 ((c :: second).map fun d => d.toNat - 48)
  if n < (← get).widths.length then reference n (2 + second.length)
  else fail s!"invalid group reference {n}" (1 + second.length)

/-- An escape outside a set. -/
def escape (c : Char) : Reader Tree := do
  match anchor? c, category? c, shortEscape? c with
  | some a, _, _ => return .anchor a
  | none, some m, _ => return .oneOf false [m]
  | none, none, some d => return .char d.toNat
  | none, none, none =>
    if c == 'x' then return .char (← hexEscape 'x' 2)
    else if c == 'u' then return .char (← hexEscape 'u' 4)
    else if c == 'U' then return .char (← hexEscape 'U' 8)
    else if c == 'N' then return .char (← namedEscape)
    else if isPlainDigit c then digitEscape c
    else return .char (← selfEscape c)

/-- A member begun by a token. -/
def member : Token → Reader Member
  | .plain c => return .one c.toNat
  | .escaped c => memberEscape c

/-- The members of a set up to its closing bracket, `start` being the position of the opening one. The bound `n`
is the number of characters left. -/
def members (start : Nat) : Nat → List Member → Reader (List Member)
  | 0, got => return got
  | n + 1, got => do
    let unterminated : Reader (List Member) := failAt "unterminated character set" (some start)
    match ← take with
    | none => unterminated
    | some t =>
      if t == .plain ']' && !got.isEmpty then return got
      let first ← member t
      unless ← accept '-' do return ← members start n (got ++ [first])
      match ← take with
      | none => unterminated
      | some u =>
        if u == .plain ']' then return got ++ [first, .one '-'.toNat]
        let last ← member u
        match first, last with
        | .one a, .one b =>
          if b < a then badRange t u
          members start n (got ++ [.range a b])
        | _, _ =>
          badRange t u
          return got
where
  /-- Fails at a range that is none. -/
  badRange (t u : Token) : Reader Unit :=
    fail s!"bad character range {String.ofList t.text}-{String.ofList u.text}" (t.text.length + 1 + u.text.length)

/-- A character set behind its opening bracket. -/
def charSet : Reader Tree := do
  let start := (← get).pos - 1
  let negated ← accept '^'
  match (← members start ((← get).rest.length + 1) []).eraseDups, negated with
  | [.one c], false => return .char c
  | [.one c], true => return .notChar c
  | ms, _ => return .oneOf negated ms

/-- The flag a letter stands for. -/
def flag? (c : Char) : Option Flag :=
  match c with
  | 'i' => some .ignoreCase
  | 'L' => some .locale
  | 'm' => some .multiline
  | 's' => some .dotAll
  | 'x' => some .verbose
  | 'a' => some .ascii
  | 't' => some .template
  | 'u' => some .unicode
  | _ => none

/-- Whether a flag chooses an alphabet. -/
def choosesAlphabet (f : Flag) : Bool := f == .ascii || f == .locale || f == .unicode

/-- The flag a token stands for. -/
def tokenFlag? : Token → Option Flag
  | .plain c => flag? c
  | .escaped _ => none

/-- Whether a token is a letter. -/
def isLetterToken : Token → Bool
  | .plain c => isLetter c
  | .escaped _ => false

/-- Flags switched on, up to the token that ends them. -/
def flagsOn : Nat → Flag → Flags → Reader (Flags × Char)
  | 0, _, on => return (on, ')')
  | n + 1, f, on => do
    if f == .locale then fail "bad inline flags: cannot use 'L' flag with a str pattern" 0
    let on := if on.contains f then on else on ++ [f]
    if choosesAlphabet f && on.any (fun g => choosesAlphabet g && g != f) then
      fail "bad inline flags: flags 'a', 'u' and 'L' are incompatible" 0
    match ← take with
    | none => fail "missing -, : or )" 0
    | some t =>
      if t == .plain ')' then return (on, ')')
      if t == .plain '-' then return (on, '-')
      if t == .plain ':' then return (on, ':')
      match tokenFlag? t with
      | some g => flagsOn n g on
      | none => fail (if isLetterToken t then "unknown flag" else "missing -, : or )") t.text.length

/-- Flags switched off, up to the colon that ends them. -/
def flagsOff : Nat → Flag → Flags → Reader Flags
  | 0, _, off => return off
  | n + 1, f, off => do
    if choosesAlphabet f then fail "bad inline flags: cannot turn off flags 'a', 'u' and 'L'" 0
    let off := if off.contains f then off else off ++ [f]
    match ← take with
    | none => fail "missing :" 0
    | some t =>
      if t == .plain ':' then return off
      match tokenFlag? t with
      | some g => flagsOff n g off
      | none => fail (if isLetterToken t then "unknown flag" else "missing :") t.text.length

/-- Inline flags from their first token on: nothing when they hold for the whole pattern, and otherwise those
switched on and off. -/
def inlineFlags (first : Option Flag) : Reader (Option (Flags × Flags)) := do
  let n := (← get).rest.length + 1
  let (on, stop) ← match first with
    | some f => flagsOn n f []
    | none => pure ([], '-')
  if stop == ')' then
    modify fun s => { s with flags := s.flags ++ on.filter fun f => !s.flags.contains f }
    return none
  if on.contains .template then fail "bad inline flags: cannot turn on global flag" 1
  let off ← if stop == '-' then
      match ← take with
      | none => fail "missing flag" 0
      | some t =>
        match tokenFlag? t with
        | some f => flagsOff n f []
        | none => fail (if isLetterToken t then "unknown flag" else "missing flag") t.text.length
    else pure []
  if off.contains .template then fail "bad inline flags: cannot turn off global flag" 1
  if on.any off.contains then fail "bad inline flags: flag turned on and off" 1
  return some (on, off)

/-- The most groups that may be open within each other. -/
def maxLevels : Nat := 480

/-- Reads something one level further in. -/
def within {α : Type} (body : Reader α) : Reader α := do
  let levels := (← get).levels
  if levels == 0 then throw .tooDeep
  modify fun s => { s with levels := levels - 1 }
  let a ← body
  modify fun s => { s with levels }
  return a

/-- Begins a group and gives its number. -/
def openGroup (given : Option (List Char)) : Reader Nat := do
  let s ← get
  let n := s.widths.length
  match given with
  | none => set { s with widths := s.widths ++ [none] }
  | some cs =>
    let key := String.ofList cs
    match s.names.lookup key with
    | some old =>
      fail s!"redefinition of group name {Quoted.text key} as group {n}; was group {old}" (cs.length + 1)
    | none => set { s with widths := s.widths ++ [none], names := (key, n) :: s.names }
  return n

/-- Ends a group. -/
def closeGroup (n : Nat) (body : Tree) : Reader Unit := do
  let w ← widths body
  modify fun s => { s with widths := s.widths.set n (some w) }

/-- The most rounds that can be counted. -/
def maxRounds : Nat := 4294967295

/-- The count that digits give; none give nought. -/
def rounds (digits : List Char) : Reader Nat := do
  if digits.isEmpty then return 0
  match Integer.ofText (String.ofList digits) with
  | .error e => throw (.count e)
  | .ok n =>
    if maxRounds ≤ n.toNat then throw .tooManyRounds
    return n.toNat

/-- The bounds in braces, if braces that are bounds follow: the least and the greatest count. -/
def bounds : Reader (Option (Nat × Option Nat)) := do
  if (← peek) == some (.plain '\x7d') then return none
  let here ← get
  let n := here.rest.length
  let low ← takeWhile isPlainDigit n
  let high ← if ← accept ',' then takeWhile isPlainDigit n else pure low
  unless ← accept '\x7d' do
    set here
    return none
  let least ← rounds low
  let greatest ← rounds high
  if high.isEmpty then return some (least, none)
  if greatest < least then failAt "min repeat greater than max repeat" (some here.pos)
  return some (least, some greatest)

/-- The counts a quantifier asks for. -/
def quantifier (c : Char) : Reader (Option (Nat × Option Nat)) :=
  if c == '?' then return some (0, some 1)
  else if c == '*' then return some (0, none)
  else if c == '+' then return some (1, none)
  else bounds

/-- How a repetition chooses its count, by the mark behind its quantifier. -/
def mode : Reader Mode := do
  if ← accept '?' then return .lazy
  if ← accept '+' then return .possessive
  return .greedy

/-- Repeats the latest tree of a sequence, which is given last first. The quantifier stands at `start`. -/
def repeatLast (start : Nat) (counts : Nat × Option Nat) (got : List Tree) : Reader (List Tree) := do
  match got with
  | [] => failAt "nothing to repeat" (some start)
  | .anchor _ :: _ => failAt "nothing to repeat" (some start)
  | .loop .. :: _ => failAt "multiple repeat" (some start)
  | body :: more =>
    return .loop (← mode) counts.1 counts.2 body :: more

/-- Skips to the end of a comment in parentheses that began at `start`. -/
def skipComment (start : Nat) : Nat → Reader Unit
  | 0 => return ()
  | n + 1 => do
    match ← peek with
    | none => failAt "missing ), unterminated comment" (some start)
    | some t =>
      let _ ← take
      unless t == .plain ')' do skipComment start n

/-- Skips to the end of a line. -/
def skipLine : Nat → Reader Unit
  | 0 => return ()
  | n + 1 => do
    match ← take with
    | none => return ()
    | some t => unless t == .plain '\n' do skipLine n

/-- Takes the closing parenthesis of what began at `start`. -/
def closeAt (start : Nat) : Reader Unit := do
  unless ← accept ')' do failAt "missing ), unterminated subpattern" (some start)

/-- The group a condition asks about. -/
def conditionGroup : Reader Nat := do
  let cs ← name ')' "group name"
  let offset := cs.length + 1
  let key := String.ofList cs
  if Identifier.isName cs then
    match (← get).names.lookup key with
    | some n => return n
    | none => fail s!"unknown group name {Quoted.text key}" offset
  else
    let bad : Reader Nat := fail s!"bad character in group name {Quoted.text key}" offset
    match Integer.ofText key with
    | .error _ => bad
    | .ok i =>
      if i < 0 then bad
      else if i == 0 then fail "bad group number" offset
      else if 1073741823 ≤ i then fail s!"invalid group reference {i}" offset
      else
        let n := i.toNat
        modify fun s =>
          if (s.asked.lookup n).isSome then s else { s with asked := s.asked ++ [(n, s.pos - offset)] }
        return n

/-- How a group is read on once what stands behind its opening parenthesis is known. -/
inductive Opening where
  /-- There is no group: a comment, a reference or flags of the whole. -/
  | nothing (t : Option Tree)
  | capture (name : Option (List Char))
  | plain (on off : Flags)
  | atomic
  | look (behind negated : Bool)
  | condition
  deriving Repr, Inhabited

/-- Reads what stands behind an opening parenthesis at `start` and its question mark. `alone` says that nothing
stands before it in the whole pattern. -/
def opening (start : Nat) (alone : Bool) : Reader Opening := do
  match ← take with
  | none => fail "unexpected end of pattern" 0
  | some t =>
    match t with
    | .plain 'P' =>
      if ← accept '<' then
        let cs ← name '>' "group name"
        checkName cs
        return .capture (some cs)
      if ← accept '=' then
        let cs ← name ')' "group name"
        checkName cs
        match (← get).names.lookup (String.ofList cs) with
        | none => fail s!"unknown group name {Quoted.text (String.ofList cs)}" (cs.length + 1)
        | some n => return .nothing (some (← reference n (cs.length + 1)))
      match ← take with
      | none => fail "unexpected end of pattern" 0
      | some u => fail s!"unknown extension ?P{String.ofList u.text}" (u.text.length + 2)
    | .plain ':' => return .plain [] []
    | .plain '#' =>
      skipComment start ((← get).rest.length + 1)
      return .nothing none
    | .plain '=' => return .look false false
    | .plain '!' => return .look false true
    | .plain '<' =>
      match ← take with
      | none => fail "unexpected end of pattern" 0
      | some u =>
        if u == .plain '=' then return .look true false
        if u == .plain '!' then return .look true true
        fail s!"unknown extension ?<{String.ofList u.text}" (u.text.length + 2)
    | .plain '(' => return .condition
    | .plain '>' => return .atomic
    | _ =>
      if t == .plain '-' || (tokenFlag? t).isSome then
        match ← inlineFlags (tokenFlag? t) with
        | some (on, off) => return .plain on off
        | none =>
          unless alone do failAt "global flags not at the start of the expression" (some start)
          return .nothing none
      else fail s!"unknown extension ?{String.ofList t.text}" (t.text.length + 1)

mutual

/-- Reads branches up to the end of the group or of the pattern. Each call of one of these three readers takes one
from the bound, of which a token never needs more than two. -/
def branches (verbose top : Bool) : Nat → List Tree → Reader Tree
  | 0, got => return .choices got.reverse
  | n + 1, got => do
    let t ← sequence verbose (top && got.isEmpty) n []
    if ← accept '|' then
      let verbose ← if top then pure ((← get).flags.contains .verbose) else pure verbose
      branches verbose top n (t :: got)
    else return .choices (t :: got).reverse

/-- Reads trees up to the end of the branch; `got` holds those read so far, last first. -/
def sequence (verbose first : Bool) : Nat → List Tree → Reader Tree
  | 0, got => return .ofList got.reverse
  | n + 1, got => do
    let done : Tree := .ofList got.reverse
    match ← peek with
    | none => return done
    | some (.escaped c) =>
      let _ ← take
      sequence verbose first n ((← escape c) :: got)
    | some (.plain c) =>
      if c == '|' || c == ')' then return done
      let start := (← get).pos
      let _ ← take
      if verbose && (c == ' ' || (9 ≤ c.toNat && c.toNat ≤ 13)) then sequence verbose first n got
      else if verbose && c == '#' then
        skipLine ((← get).rest.length + 1)
        sequence verbose first n got
      else if c == '[' then sequence verbose first n ((← charSet) :: got)
      else if c == '*' || c == '+' || c == '?' || c == '\x7b' then
        match ← quantifier c with
        | none => sequence verbose first n (.char c.toNat :: got)
        | some counts => sequence verbose first n (← repeatLast start counts got)
      else if c == '.' then sequence verbose first n (.any :: got)
      else if c == '^' then sequence verbose first n (.anchor .lineStart :: got)
      else if c == '$' then sequence verbose first n (.anchor .lineEnd :: got)
      else if c == '(' then
        let opened ← if ← accept '?' then opening start (first && got.isEmpty) else pure (.capture none)
        match opened with
        | .nothing none =>
          -- Flags of the whole pattern may have changed whether blanks count.
          let nowVerbose := (← get).flags.contains .verbose
          sequence (verbose || (first && nowVerbose)) first n got
        | .nothing (some t) => sequence verbose first n (t :: got)
        | other => sequence verbose first n ((← within (group verbose start other n)) :: got)
      else sequence verbose first n (.char c.toNat :: got)

/-- Reads the body of a group that began at `start`, and its end. -/
def group (verbose : Bool) (start : Nat) (opened : Opening) : Nat → Reader Tree
  | 0 => return .empty
  | n + 1 => do
    match opened with
    | .nothing _ => return .empty
    | .capture given =>
      let number ← openGroup given
      let body ← branches verbose false n []
      closeAt start
      closeGroup number body
      return .group number body
    | .plain on off =>
      let verbose := (verbose || on.contains .verbose) && !off.contains .verbose
      let body ← branches verbose false n []
      closeAt start
      return .switch on off body
    | .atomic =>
      let body ← branches verbose false n []
      closeAt start
      return .atomic body
    | .look false negated =>
      let body ← branches verbose false n []
      closeAt start
      return .ahead negated body
    | .look true negated =>
      let outer := (← get).lookingBehind
      if outer.isNone then modify fun s => { s with lookingBehind := some s.widths.length }
      let body ← branches verbose false n []
      modify fun s => { s with lookingBehind := outer }
      closeAt start
      let (least, most) ← widths body
      return .behind negated least most body
    | .condition =>
      let number ← conditionGroup
      checkBehind number
      let yes ← sequence verbose false n []
      let no ← if ← accept '|' then
          let no ← sequence verbose false n []
          if (← peek) == some (.plain '|') then fail "conditional backref with more than two branches" 0
          pure no
        else pure .empty
      closeAt start
      return .whether number yes no

end

/-- Reads a whole pattern. -/
def whole : Reader Tree := do
  checkEnd
  let n := (← get).rest.length
  let t ← branches ((← get).flags.contains .verbose) true (2 * n + 4) []
  let s ← get
  if s.flags.contains .ascii && s.flags.contains .unicode then throw .twoAlphabets
  if (← peek).isSome then fail "unbalanced parenthesis" 0
  if let some (n, pos) := s.asked.find? fun (n, _) => s.widths.length ≤ n then
    failAt s!"invalid group reference {n}" (some pos)
  unless t.looksFixed do failAt "look-behind requires fixed-width pattern" none
  return t

end Reader

/-- Reads a pattern that starts out with some flags. -/
def ofText (text : String) (flags : Flags) : Except Error Pattern :=
  match (Reader.whole.run text).run ⟨text.toList, 0, flags, [], [none], none, [], Reader.maxLevels⟩ with
  | .ok (tree, s) => .ok ⟨tree, s.flags⟩
  | .error e => .error e

end Rehearsal.Pattern
