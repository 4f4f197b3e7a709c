import Rehearsal.Decimal.Integer
import Rehearsal.Program.Run

/-!
# Printing

What the programs that write their arguments make of escapes and of formats. A backslash begins an escape; a percent
sign begins a mark that an argument takes the place of. A format is used again as long as there are arguments left.
-/

namespace Rehearsal.Program.Tools

/-- The number that digits to a base make. -/
def numberIn (base : Nat) (ds : List Char) : Nat := Integer.ofDigits base (ds.filterMap (Integer.valueIn? base))

/-- Whether a character is an octal digit. -/
def isOctal (c : Char) : Bool := '0' ≤ c && c ≤ '7'

/-- The byte that a letter behind a backslash stands for. -/
def escapedByte? (c : Char) : Option UInt8 :=
  [('a', 7), ('b', 8), ('f', 12), ('n', 10), ('r', 13), ('t', 9), ('v', 11), ('\\', 92)].lookup c

/-- What stands behind a backslash: bytes and the rest, or nothing where the text ends. Up to three octal digits
make a byte; with `zero` set they have to stand behind a zero. -/
def escape (zero : Bool) : List Char → Option (Bytes × List Char)
  | [] => some (Bytes.ascii "\\", [])
  | c :: rest =>
    let from' := if zero then rest else c :: rest
    let digits := (from'.take 3).takeWhile isOctal
    match escapedByte? c with
    | some b => some ([b], rest)
    | none =>
      if c == 'c' then none
      else if if zero then c == '0' else isOctal c then
        some ([(numberIn 8 digits).toUInt8], from'.drop digits.length)
      else some (Bytes.ascii "\\" ++ Utf8.encodeChar c, rest)

/-- A text with its escapes replaced, and whether it was ended by one. The bound is the length of the text. -/
def unescapeIn (zero : Bool) : Nat → List Char → Bytes × Bool
  | 0, _ | _, [] => ([], false)
  | n + 1, '\\' :: rest =>
    match escape zero rest with
    | none => ([], true)
    | some (d, rest) => let (more, ended) := unescapeIn zero n rest; (d ++ more, ended)
  | n + 1, c :: rest => let (more, ended) := unescapeIn zero n rest; (Utf8.encodeChar c ++ more, ended)

/-- A text with its escapes replaced, and whether it was ended by one. -/
def unescape (zero : Bool) (cs : List Char) : Bytes × Bool := unescapeIn zero cs.length cs

/-- How much of an argument is a number. -/
inductive Reading where
  | whole | front | none
  deriving DecidableEq, Repr, Inhabited

/-- The number at the front of an argument: to base sixteen or eight behind their marks, the code of a character behind a
quote. -/
def leadingNumber (s : String) : Int × Reading :=
  match s.toList with
  | [] => (0, .whole)
  | [quote, c] => if quote == '\x27' || quote == '"' then (c.toNat, .whole) else number [quote, c]
  | cs => number cs
where
  /-- The number at the front of some characters. -/
  number (cs : List Char) : Int × Reading :=
    let body := cs.dropWhile fun c => c == ' ' || c == '\t'
    let (negative, body) := match body with
      | '-' :: rest => (true, rest)
      | '+' :: rest => (false, rest)
      | _ => (false, body)
    let (base, body) := match body with
      | '0' :: 'x' :: c :: rest =>
        if (Integer.valueIn? 16 c).isSome then (16, c :: rest) else (8, '0' :: 'x' :: c :: rest)
      | '0' :: _ => (8, body)
      | _ => (10, body)
    let ds := body.takeWhile fun c => (Integer.valueIn? base c).isSome
    let n := numberIn base ds
    (if negative then -(n : Int) else n,
      if ds.isEmpty then .none else if ds.length < body.length then .front else .whole)

/-- How a value is laid out. -/
structure Layout where
  left : Bool
  zeros : Bool
  plus : Bool
  blank : Bool
  marked : Bool
  width : Nat
  precision : Option Nat
  deriving DecidableEq, Repr, Inhabited

/-- Text brought to its least width. -/
def Layout.pad (l : Layout) (d : Bytes) : Bytes :=
  let gap := List.replicate (l.width - d.length) (32 : UInt8)
  if l.left then d ++ gap else gap ++ d

/-- A number laid out: with its sign, at least as many digits as the precision says, and zeros to its width where they are
asked for. -/
def Layout.number (l : Layout) (sign mark digits : String) : Bytes :=
  let digits := match l.precision with
    | some p => String.ofList (List.replicate (p - digits.length) '0') ++ digits
    | none => digits
  let body := sign ++ mark ++ digits
  if l.zeros && !l.left && l.precision.isNone then
    Bytes.ascii (sign ++ mark ++ String.ofList (List.replicate (l.width - body.length) '0') ++ digits)
  else l.pad (Bytes.ascii body)

/-- The layout at the front of a mark, the letter behind it, and the rest. A star takes the width from the arguments. -/
def layout? (cs : List Char) (args : List String) : Option (Layout × Char × List Char × List String) :=
  let flags := cs.takeWhile fun c => c == '-' || c == '0' || c == '+' || c == ' ' || c == '#'
  let cs := cs.drop flags.length
  let (width, cs, args) := match cs with
    | '*' :: rest => ((leadingNumber (args.headD "")).1, rest, args.tail)
    | _ =>
      let ds := cs.takeWhile Char.isDigit
      ((numberIn 10 ds : Int), cs.drop ds.length, args)
  let (precision, cs, args) := match cs with
    | '.' :: '*' :: rest => (some (leadingNumber (args.headD "")).1.toNat, rest, args.tail)
    | '.' :: rest =>
      let ds := rest.takeWhile Char.isDigit
      (some (numberIn 10 ds), rest.drop ds.length, args)
    | _ => (none, cs, args)
  match cs with
  | [] => none
  | c :: rest =>
    some (⟨flags.contains '-' || width < 0, flags.contains '0', flags.contains '+', flags.contains ' ',
      flags.contains '#', width.natAbs, precision⟩, c, rest, args)

/-- What filling in a format comes to: what is written, the arguments that are left, those that should have been numbers,
and whether an escape or an unknown mark ended it. -/
structure Filled where
  data : Bytes
  left : List String
  faults : List (String × Reading)
  ended : Bool
  deriving Repr, Inhabited

/-- Puts bytes in front. -/
def Filled.after (d : Bytes) (f : Filled) : Filled := { f with data := d ++ f.data }

/-- A number that an argument stands for, as a letter asks for it. -/
def shownNumber (l : Layout) (letter : Char) (n : Int) : Option Bytes :=
  let unsigned := (n % (Integer.twoTo 64 : Int)).toNat
  let sign := if n < 0 then "-" else if l.plus then "+" else if l.blank then " " else ""
  if letter == 'd' || letter == 'i' then some (l.number sign "" (toString n.natAbs))
  else if letter == 'u' then some (l.number "" "" (toString unsigned))
  else if letter == 'o' then some (l.number "" (if l.marked then "0" else "") (String.ofList (Nat.toDigits 8 unsigned)))
  else
    let digits := String.ofList (Nat.toDigits 16 unsigned)
    if letter == 'x' then some (l.number "" (if l.marked then "0x" else "") digits)
    else if letter == 'X' then some (l.number "" (if l.marked then "0X" else "") digits.toUpper)
    else none

/-- A format with its marks replaced by arguments. The bound is the length of the format. -/
def fillIn : Nat → List Char → List String → Filled
  | 0, _, args | _, [], args => ⟨[], args, [], false⟩
  | n + 1, '\\' :: rest, args =>
    match escape false rest with
    | none => ⟨[], args, [], true⟩
    | some (d, rest) => (fillIn n rest args).after d
  | n + 1, '%' :: '%' :: rest, args => (fillIn n rest args).after (Bytes.ascii "%")
  | n + 1, '%' :: rest, args =>
    match layout? rest args with
    | none => ⟨[], args, [("%", .none)], true⟩
    | some (l, letter, rest, args) =>
      let next := args.headD ""
      let cut (d : Bytes) : Bytes := match l.precision with
        | some p => d.take p
        | none => d
      if letter == 's' then (fillIn n rest args.tail).after (l.pad (cut (Utf8.encode next)))
      else if letter == 'c' then (fillIn n rest args.tail).after (l.pad ((Utf8.encode next).take 1))
      else if letter == 'b' then
        let (d, ended) := unescape true next.toList
        if ended then ⟨l.pad (cut d), args.tail, [], true⟩ else (fillIn n rest args.tail).after (l.pad (cut d))
      else
        let (value, reading) := leadingNumber next
        match shownNumber l letter value with
        | none => ⟨[], args, [(String.ofList ['%', letter], .none)], true⟩
        | some d =>
          let f := (fillIn n rest args.tail).after d
          if reading == .whole then f else { f with faults := (next, reading) :: f.faults }
  | n + 1, c :: rest, args => (fillIn n rest args).after (Utf8.encodeChar c)

/-- Fills in a format as often as there are arguments for it. The bound is the number of arguments. -/
def fillAll (format : List Char) : Nat → List String → Filled
  | 0, args => fillIn format.length format args
  | n + 1, args =>
    let f := fillIn format.length format args
    if f.ended || f.left.isEmpty || f.left.length == args.length then f
    else
      let more := fillAll format n f.left
      { more with data := f.data ++ more.data, faults := f.faults ++ more.faults }

/-- Writes a format filled in with arguments, and complains of those that should have been numbers. -/
def printf (complain : String → Run Unit) (usage : String) (args : List String) : Run Int := do
  let args := match args with
    | "--" :: rest => rest
    | _ => args
  match args with
  | [] =>
    complain usage
    return 2
  | format :: args =>
    let f := fillAll format.toList args.length args
    for (argument, reading) in f.faults do
      if argument.startsWith "%" then complain s!"{argument}: invalid directive"
      else if reading == .front then complain s!"{argument}: not completely converted"
      else complain s!"{argument}: expected numeric value"
    Run.write f.data
    return if f.faults.isEmpty then 0 else 1

/-- Writes arguments as a line, escapes in them replaced where that is asked for. -/
def writeWords (escapes newline : Bool) (args : List String) : Run Int := do
  let text := (" ".intercalate args).toList
  let (d, ended) := if escapes then unescape true text else (Utf8.encodeChars text, false)
  Run.write (d ++ if newline && !ended then [Bytes.newline] else [])
  return 0

/-- The options at the front of what the program that writes words is given: whether escapes are replaced, whether a
newline is written, and the words. -/
def wordOptions (escapes newline : Bool) : List String → Bool × Bool × List String
  | [] => (escapes, newline, [])
  | a :: rest =>
    match a.toList with
    | '-' :: c :: more =>
      if (c :: more).all fun c => c == 'n' || c == 'e' || c == 'E' then
        let escapes := (c :: more).foldl (fun b c => if c == 'e' then true else if c == 'E' then false else b) escapes
        wordOptions escapes (newline && !(c :: more).contains 'n') rest
      else (escapes, newline, a :: rest)
    | _ => (escapes, newline, a :: rest)

/-- Writes its arguments as a line. -/
def echo (args : List String) : Run Int :=
  let (escapes, newline, args) := wordOptions false true args
  writeWords escapes newline args

end Rehearsal.Program.Tools
