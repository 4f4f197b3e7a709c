import Rehearsal.Program.Tools.Stream

/-!
# Sorting

Lines in order. Lines are compared by keys, parts of a line between two places, one key after another; a place is
counted in fields, and in bytes from the beginning of a field. Lines with equal keys go by all their bytes, unless
they are to stay as they came. Beside it, lines that repeat the one before are told from the others.
-/

namespace Rehearsal.Program.Tools

open Files

/-- How keys compare: as numbers or by their bytes, what is left out of them, and in which direction. -/
structure KeyStyle where
  numeric : Bool
  /-- Only letters, digits and blanks count. -/
  dictionary : Bool
  /-- Only what can be printed counts, where nothing stricter is asked for. -/
  printable : Bool
  /-- Small letters count as capitals. -/
  folded : Bool
  /-- Blanks at the beginning do not count. -/
  trimsStart : Bool
  /-- Blanks before the last byte counted do not count. -/
  trimsEnd : Bool
  reverse : Bool
  deriving DecidableEq, Repr, Inhabited

/-- By bytes, all of them. -/
def KeyStyle.plain : KeyStyle := ⟨false, false, false, false, false, false, false⟩

/-- The style with what a letter asks for. -/
def KeyStyle.with? (s : KeyStyle) (atStart atEnd : Bool) (c : Char) : Option KeyStyle :=
  match c with
  | 'b' => some { s with trimsStart := s.trimsStart || atStart, trimsEnd := s.trimsEnd || atEnd }
  | 'd' => some { s with dictionary := true }
  | 'f' => some { s with folded := true }
  | 'g' | 'n' => some { s with numeric := true }
  | 'i' => some { s with printable := true }
  | 'r' => some { s with reverse := true }
  | _ => none

/-- A key: how many fields and bytes come before it, and how many fields and bytes of the next it ends behind, if not
with the line. -/
structure SortKey where
  fields : Nat
  bytes : Nat
  stop : Option (Nat × Nat)
  style : KeyStyle
  deriving DecidableEq, Repr, Inhabited

/-- Why a request to sort is refused. -/
inductive SortFault where
  | unknown (letter : Char)
  | noValue (letter : Char)
  | noCount (place value : String)
  | badKey (why value : String)
  | emptySeparator
  | longSeparator (value : String)
  deriving DecidableEq, Repr, Inhabited

/-- The wording of the fault. -/
def SortFault.message : SortFault → String
  | .unknown letter => s!"invalid option -- '{letter}'"
  | .noValue letter => s!"option requires an argument -- '{letter}'"
  | .noCount place value => s!"invalid number {place}: invalid count at start of '{value}'"
  | .badKey why value => s!"{why}: invalid field specification '{value}'"
  | .emptySeparator => "empty tab"
  | .longSeparator value => s!"multi-character tab '{value}'"

/-- Whether the fault is in the use of options, so that help is pointed to. -/
def SortFault.isMisuse : SortFault → Bool
  | .unknown _ | .noValue _ => true
  | _ => false

/-- What is asked of a sort. -/
structure Sorting where
  style : KeyStyle
  keys : List SortKey
  separator : Option UInt8
  unique : Bool
  stable : Bool
  /-- Lines end in null bytes. -/
  nullEnded : Bool
  /-- The lines are only looked at, and with `some false` nothing is said about them. -/
  check : Option Bool
  output : Option String
  files : List String
  deriving DecidableEq, Repr, Inhabited

/-- All lines by their bytes. -/
def Sorting.plain : Sorting := ⟨.plain, [], none, false, false, false, none, none, []⟩

/-! ## Options -/

/-- A count at the front of a value. -/
def fieldCount (place : String) (cs : List Char) : Except SortFault (Nat × List Char) :=
  let (ds, rest) := cs.span Char.isDigit
  if ds.isEmpty then .error (.noCount place (String.ofList cs))
  else .ok (Integer.ofDigits 10 (ds.map fun c => c.toNat - 48), rest)

/-- The letters of a style at the front of a value. -/
def keyLetters (atStart : Bool) (s : KeyStyle) : List Char → KeyStyle × List Char
  | [] => (s, [])
  | c :: rest =>
    match s.with? atStart (!atStart) c with
    | some s => keyLetters atStart s rest
    | none => (s, c :: rest)

/-- The key that a value describes. -/
def SortKey.ofChars (cs : List Char) : Except SortFault SortKey := do
  let bad (why : String) : SortFault := .badKey why (String.ofList cs)
  let afterPoint := "after '.'"
  let (field, rest) ← fieldCount "at field start" cs
  if field == 0 then throw (bad "field number is zero")
  let (byte, rest) ← match rest with
    | '.' :: rest => fieldCount afterPoint rest
    | _ => pure (1, rest)
  if byte == 0 then throw (bad "character offset is zero")
  let (style, rest) := keyLetters true .plain rest
  let key : SortKey := ⟨field - 1, byte - 1, none, style⟩
  let (key, rest) ← match rest with
    | ',' :: rest => do
      let (field, rest) ← fieldCount "after ','" rest
      if field == 0 then throw (bad "field number is zero")
      let (byte, rest) ← match rest with
        | '.' :: rest => fieldCount afterPoint rest
        | _ => pure (0, rest)
      let (style, rest) := keyLetters false style rest
      pure ({ key with stop := some (field - 1, byte), style := style }, rest)
    | _ => pure (key, rest)
  if rest.isEmpty then return key else throw (bad "stray character in field spec")

/-- The request with what a letter alone asks for. -/
def Sorting.letter? (s : Sorting) (c : Char) : Option Sorting :=
  match c with
  | 'u' => some { s with unique := true }
  | 's' => some { s with stable := true }
  | 'z' => some { s with nullEnded := true }
  | 'c' => some { s with check := some true }
  | 'C' => some { s with check := some false }
  | 'm' => some s
  | _ => (s.style.with? true true c).map fun style => { s with style := style }

/-- Whether a value belongs to a letter. -/
def takesValue (c : Char) : Bool := c == 'k' || c == 't' || c == 'o'

/-- The request with what a letter and its value ask for. -/
def Sorting.value (s : Sorting) (c : Char) (value : List Char) : Except SortFault Sorting :=
  match c with
  | 'k' => do return { s with keys := s.keys ++ [← SortKey.ofChars value] }
  | 't' =>
    if value == ['\\', '0'] then .ok { s with separator := some 0 }
    else match Utf8.encodeChars value with
      | [b] => .ok { s with separator := some b }
      | [] => .error .emptySeparator
      | _ => .error (.longSeparator (String.ofList value))
  | _ => .ok { s with output := some (String.ofList value) }

/-- The request with what letters ask for, up to the first that takes a value: that letter and what follows it. -/
def Sorting.letters (s : Sorting) : List Char → Except SortFault (Sorting × Option (Char × List Char))
  | [] => .ok (s, none)
  | c :: rest =>
    if takesValue c then .ok (s, some (c, rest))
    else match s.letter? c with
      | some s => s.letters rest
      | none => .error (.unknown c)

/-- Long names of options, and the letters they stand for. -/
def sortOptions : List (String × String) :=
  [("--check", "-c"), ("--dictionary-order", "-d"), ("--general-numeric-sort", "-g"), ("--ignore-case", "-f"),
    ("--ignore-leading-blanks", "-b"), ("--ignore-nonprinting", "-i"), ("--merge", "-m"), ("--numeric-sort", "-n"),
    ("--reverse", "-r"), ("--stable", "-s"), ("--unique", "-u"), ("--zero-terminated", "-z"), ("--key", "-k"),
    ("--field-separator", "-t"), ("--output", "-o")]

/-- A word with the letter of an option in place of its long name. -/
def shortOption (word : String) : String :=
  let (name, value) := word.toList.span (· != '=')
  match sortOptions.lookup (String.ofList name) with
  | some letter => letter ++ String.ofList (value.drop 1)
  | none => word

/-- The request that words make. -/
def Sorting.words (s : Sorting) : List String → Except SortFault Sorting
  | [] => .ok s
  | word :: rest =>
    if word == "--" then .ok { s with files := s.files ++ rest }
    else match (shortOption word).toList with
      | '-' :: c :: cs => do
        let (s, asked) ← s.letters (c :: cs)
        match asked with
        | none => s.words rest
        | some (c, []) =>
          match rest with
          | [] => throw (.noValue c)
          | value :: rest => (← s.value c value.toList).words rest
        | some (c, value) => (← s.value c value).words rest
      | _ => { s with files := s.files ++ [word] }.words rest

/-! ## Keys -/

/-- Whether a byte stands between fields where no separator is given. -/
def isGap (b : UInt8) : Bool := b == 32 || b == 9 || b == 10

/-- What is left of a line behind so many fields. A field begins with the blanks before it, or behind a separator. -/
def dropFields (separator : Option UInt8) : Nat → Bytes → Bytes
  | 0, d => d
  | n + 1, d =>
    match separator with
    | some b => dropFields separator n ((d.dropWhile (· != b)).drop 1)
    | none => dropFields separator n ((d.dropWhile isGap).dropWhile fun b => !isGap b)

/-- The number of bytes before the end of a key. -/
def keyEnd (separator : Option UInt8) (trims : Bool) (fields bytes : Nat) (d : Bytes) : Nat :=
  let rest := dropFields separator fields d
  if bytes == 0 then
    match separator with
    | some b => d.length - (rest.dropWhile (· != b)).length
    | none => d.length - (dropFields none 1 rest).length
  else d.length - ((if trims then rest.dropWhile isGap else rest).drop bytes).length

/-- The part of a line that a key names. -/
def SortKey.part (k : SortKey) (separator : Option UInt8) (d : Bytes) : Bytes :=
  let rest := dropFields separator k.fields d
  let rest := (if k.style.trimsStart then rest.dropWhile isGap else rest).drop k.bytes
  match k.stop with
  | none => rest
  | some (fields, bytes) => rest.take (keyEnd separator k.style.trimsEnd fields bytes d - (d.length - rest.length))

/-- The order of texts by their bytes. -/
def orderOf (a b : Bytes) : Ordering := if a == b then .eq else if lineLe a b then .lt else .gt

/-- A decimal number at the front of a text: whether it is below zero, and its digits on both sides of the point. -/
def leadingDecimal (d : Bytes) : Bool × List Nat × List Nat :=
  let isDigit (b : UInt8) : Bool := 48 ≤ b && b ≤ 57
  let values (d : Bytes) : List Nat := d.map fun b => b.toNat - 48
  let d := d.dropWhile isGap
  let (negative, d) := if d.head? == some 45 then (true, d.drop 1) else (false, d)
  let (whole, rest) := d.span isDigit
  (negative, values whole, if rest.head? == some 46 then values ((rest.drop 1).takeWhile isDigit) else [])

/-- The order of texts by the numbers at their front. -/
def numberOrder (a b : Bytes) : Ordering :=
  let (below, whole, places) := leadingDecimal a
  let (below', whole', places') := leadingDecimal b
  let width := max places.length places'.length
  let value (below : Bool) (whole places : List Nat) : Int :=
    Integer.signed below (Integer.ofDigits 10 (whole ++ places ++ List.replicate (width - places.length) 0))
  compare (value below whole places) (value below' whole' places')

/-- What counts of a key that goes by its bytes. -/
def KeyStyle.counted (s : KeyStyle) (d : Bytes) : Bytes :=
  let isLetter (b : UInt8) : Bool := (65 ≤ b && b ≤ 90) || (97 ≤ b && b ≤ 122)
  let isSmall (b : UInt8) : Bool := 97 ≤ b && b ≤ 122
  let d :=
    if s.dictionary then d.filter fun b => isGap b || isLetter b || (48 ≤ b && b ≤ 57)
    else if s.printable then d.filter fun b => 32 ≤ b && b < 127
    else d
  if s.folded then d.map fun b => if isSmall b then b - 32 else b else d

/-- The order of two keys. -/
def KeyStyle.order (s : KeyStyle) (a b : Bytes) : Ordering :=
  let o := if s.numeric then numberOrder a b else orderOf (s.counted a) (s.counted b)
  if s.reverse then o.swap else o

/-- The keys to compare by: those without a style of their own have that of all; where there are none, the line is a
key if there is a style. -/
def Sorting.allKeys (s : Sorting) : List SortKey :=
  if s.keys.isEmpty then
    if { s.style with reverse := false } == KeyStyle.plain then [] else [⟨0, 0, none, s.style⟩]
  else s.keys.map fun k => if k.style == KeyStyle.plain then { k with style := s.style } else k

/-- The order of two lines by their keys, and by all their bytes if that is asked for. -/
def Sorting.order (s : Sorting) (a b : Bytes) : Ordering :=
  let keys := s.allKeys
  let byKeys := keys.foldl (fun o k => o.then (k.style.order (k.part s.separator a) (k.part s.separator b))) .eq
  if byKeys != .eq || (!keys.isEmpty && (s.unique || s.stable)) then byKeys
  else if s.style.reverse then (orderOf a b).swap else orderOf a b

/-- Lines without those equal to the one kept before. -/
def dropEqual (order : Bytes → Bytes → Ordering) : List Bytes → List Bytes
  | [] => []
  | a :: rest =>
    match dropEqual order rest with
    | b :: more => if order a b == .eq then a :: more else a :: b :: more
    | [] => [a]

/-- Lines in the order asked for. -/
def Sorting.sorted (s : Sorting) (lines : List Bytes) : List Bytes :=
  let all := lines.mergeSort fun a b => (s.order a b).isLE
  if s.unique then dropEqual s.order all else all

/-- The first line that is out of order, and its number. -/
def Sorting.disorder? (s : Sorting) (number : Nat) : List Bytes → Option (Nat × Bytes)
  | a :: b :: rest =>
    let o := s.order a b
    if o == .gt || (s.unique && o == .eq) then some (number + 1, b) else s.disorder? (number + 1) (b :: rest)
  | _ => none

/-- The pieces of some bytes between marks. The last is left out if it is empty. -/
def piecesOf (mark : UInt8) (d : Bytes) : List Bytes :=
  d.foldr (fun b pieces =>
    if b == mark then [] :: pieces
    else match pieces with
      | [] => [[b]]
      | piece :: more => (b :: piece) :: more) []

/-- Sorts as a request asks. -/
def Sorting.run (s : Sorting) : Run Int := do
  let mark : UInt8 := if s.nullEnded then 0 else Bytes.newline
  let mut all : List Bytes := []
  for name in if s.files.isEmpty then ["-"] else s.files do
    match ← contents name with
    | .ok d => all := all ++ piecesOf mark d
    | .error e =>
      Run.complain s!"sort: cannot read: {name}: {reason e}"
      return 2
  if let some spoken := s.check then
    match s.disorder? 1 all with
    | some (number, line) =>
      if spoken then
        let name := s.files.headD "-"
        Run.emit (← get).err (Utf8.encode s!"sort: {name}:{number}: disorder: " ++ line ++ [Bytes.newline])
      return 1
    | none => return 0
  let written := (s.sorted all).flatMap (· ++ [mark])
  match s.output with
  | none => Run.write written
  | some name =>
    match ← Run.files (Access.write name written) with
    | .ok () => pure ()
    | .error e =>
      Run.complain s!"sort: open failed: {name}: {reason e}"
      return 2
  return 0

/-- Writes lines in order. -/
def sort (args : List String) : Run Int := do
  match Sorting.plain.words args with
  | .ok s => s.run
  | .error e =>
    Run.complain s!"sort: {e.message}"
    if e.isMisuse then Run.complain "Try 'sort --help' for more information."
    return 2

/-! ## Repeated lines -/

/-- Lines with the number of times each of them stands one after another. -/
def repeats (same : Bytes → Bytes → Bool) (lines : List Bytes) : List (Nat × Bytes) :=
  lines.foldr (fun a groups =>
    match groups with
    | (n, b) :: more => if same a b then (n + 1, a) :: more else (1, a) :: groups
    | [] => [(1, a)]) []

/-- Writes lines without those that repeat the one before. -/
def uniq (args : List String) : Run Int := do
  let isOption (a : String) : Bool := a.startsWith "-" && a != "-"
  let options := (args.filter isOption).flatMap fun a => a.toList.drop 1
  let folds := KeyStyle.counted { KeyStyle.plain with folded := options.contains 'i' }
  let same (a b : Bytes) : Bool := folds a == folds b
  let wanted (n : Nat) : Bool :=
    (!options.contains 'd' || 1 < n) && (!options.contains 'u' || n == 1)
  let shown (n : Nat) (line : Bytes) : Bytes :=
    (if options.contains 'c' then Utf8.encode (columns 7 n ++ " ") else []) ++ line ++ [Bytes.newline]
  let (input, output) := match args.filter (!isOption ·) with
    | [] => ("-", none)
    | [input] => (input, none)
    | input :: output :: _ => (input, some output)
  eachFile "" 1 [input] fun _ d => do
    let written := ((repeats same (piecesOf Bytes.newline d)).filter fun (n, _) => wanted n).flatMap fun (n, line) =>
      shown n line
    match output with
    | none => Run.write written
    | some name =>
      match ← Run.files (Access.write name written) with
      | .ok () => pure ()
      | .error e => Run.blame s!"{shownName name}: {reason e}"

end Rehearsal.Program.Tools
