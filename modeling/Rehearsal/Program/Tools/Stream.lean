import Rehearsal.Decimal.Integer
import Rehearsal.Program.Run

/-!
# Tools on streams

Programs that read files, or their input where no file is named, and write what they make of it.
-/

namespace Rehearsal.Program.Tools

open Files

/-- Why a file cannot be used. -/
def reason : Files.Error → String
  | .refused why _ _ => why.reason
  | .nullCharacter => Refusal.notFound.reason

/-- The contents of a file, or the input for a hyphen. -/
def contents (name : String) : Run (Except Files.Error Bytes) := do
  if name == "-" then return .ok (← Run.takeInput)
  return (← get).disk.read name

/-- Whether a character means something to a shell. -/
def isDelicate (c : Char) : Bool := " \t\n*?[]$&;|<>()~#!=^\"\\\x7b\x7d\x27".toList.contains c || c.toNat == 96

/-- The name of a file as messages show it: in quotes if a shell would take it for something else. -/
def shownName (name : String) : String := if name.isEmpty || name.toList.any isDelicate then s!"'{name}'" else name

/-- Reads files one after another, complains of those that cannot be read, and hands what is read to a step with the
name. The result is zero, or the given code if one could not be read. -/
def eachFile (verb : String) (failed : Int) (files : List String) (step : String → Bytes → Run Unit) : Run Int := do
  let mut code : Int := 0
  for name in if files.isEmpty then ["-"] else files do
    match ← contents name with
    | .ok d => step name d
    | .error e =>
      let shown := if verb.isEmpty then shownName name else s!"{verb} '{name}' for reading"
      let why := reason e
      Run.blame s!"{shown}: {why}"
      code := failed
  return code

/-- Writes files one after another. -/
def cat (args : List String) : Run Int := eachFile "" 1 args fun _ d => Run.write d

/-- The lines of some bytes, each with its newline if it has one. -/
def linesOf (d : Bytes) : List Bytes :=
  d.foldr (fun b lines =>
    if b == Bytes.newline then [b] :: lines
    else match lines with
      | [] => [[b]]
      | line :: more => (b :: line) :: more) []

/-- How much of a stream is asked for: lines or bytes, counted from its near or its far end. -/
structure Portion where
  bytes : Bool
  fromStart : Bool
  count : Nat
  deriving DecidableEq, Repr, Inhabited

/-- A portion with the number that a text gives. -/
def Portion.counted (p : Portion) (text : String) : Portion :=
  let cs := text.toList
  let ds := if cs.head? == some '+' || cs.head? == some '-' then cs.drop 1 else cs
  { p with fromStart := cs.head? == some '+', count := Integer.ofDigits 10 (ds.map fun c => c.toNat - 48) }

/-- The portion that options ask for, and the files. -/
def portion (p : Portion) : List String → Portion × List String
  | [] => (p, [])
  | option :: rest =>
    match option.toList with
    | '-' :: c :: more =>
      let p' := if c == 'c' then { p with bytes := true } else if c == 'n' then { p with bytes := false } else p
      if c == 'c' || c == 'n' then
        if more.isEmpty then
          match rest with
          | text :: files => portion (p'.counted text) files
          | [] => (p', [])
        else portion (p'.counted (String.ofList more)) rest
      else if c.isDigit then portion (p'.counted (String.ofList (c :: more))) rest
      else (p, option :: rest)
    | _ => (p, option :: rest)
termination_by args => args.length

/-- Writes the front of a stream. A device that never ends is read as far as is asked for. -/
def head (args : List String) : Run Int := do
  let (p, files) := portion ⟨false, false, 10⟩ args
  eachFile "cannot open" 1 files fun name d =>
    let d := if name == "/dev/zero" then List.replicate p.count 0 else d
    Run.write (if p.bytes then d.take p.count else ((linesOf d).take p.count).flatten)

/-- Writes the end of a stream. -/
def tail (args : List String) : Run Int := do
  let (p, files) := portion ⟨false, false, 10⟩ args
  let last {α : Type} (l : List α) : List α := l.drop (if p.fromStart then p.count - 1 else l.length - p.count)
  eachFile "cannot open" 1 files fun _ d =>
    Run.write (if p.bytes then last d else (last (linesOf d)).flatten)

/-- The numbers of lines, of words and of bytes. -/
def counts (d : Bytes) : Nat × Nat × Nat :=
  let (words, _) := d.foldl (fun (n, inside) b =>
    if Bytes.isBlank b then (n, false) else if inside then (n, true) else (n + 1, true)) (0, false)
  (d.count Bytes.newline, words, d.length)

/-- A number in so many columns. -/
def columns (width n : Nat) : String :=
  let ds := toString n
  String.ofList (List.replicate (width - ds.length) ' ') ++ ds

/-- Counts lines, words and bytes. -/
def wc (args : List String) : Run Int := do
  let options := (args.takeWhile fun a => a.startsWith "-" && a != "-").flatMap fun a => a.toList.drop 1
  let files := args.dropWhile fun a => a.startsWith "-" && a != "-"
  let asked (c : Char) : Bool := options.isEmpty || options.contains c
  let several := options.length != 1
  eachFile "" 1 files fun name d =>
    let (lines, words, bytes) := counts d
    let shown := (if asked 'l' then [lines] else []) ++ (if asked 'w' then [words] else []) ++
      (if asked 'c' || asked 'm' then [bytes] else [])
    let width := if !several then 1 else if name == "-" then 7 else (toString bytes).length
    let numbers := " ".intercalate (shown.map (columns width))
    Run.writeLine (if name == "-" then numbers else s!"{numbers} {name}")

/-- Whether one line comes before another, by their bytes. -/
def lineLe (a b : Bytes) : Bool := decide (a ≤ b)

/-- Writes its input, and keeps it in files. -/
def tee (args : List String) : Run Int := do
  let d ← Run.takeInput
  let mut code : Int := 0
  for name in args do
    match ← Run.files (Access.write name d) with
    | .ok () => pure ()
    | .error e =>
      Run.complain s!"tee: {name}: {reason e}"
      code := 1
  Run.write d
  return code

/-- A set of bytes in full: ranges are spread out, and escapes replaced. -/
def spread : List Char → List Char
  | '\\' :: 'n' :: rest => '\n' :: spread rest
  | '\\' :: 't' :: rest => '\t' :: spread rest
  | '\\' :: 'r' :: rest => '\r' :: spread rest
  | '\\' :: '0' :: '0' :: '0' :: rest => '\x00' :: spread rest
  | '\\' :: '0' :: rest => '\x00' :: spread rest
  | '\\' :: c :: rest => c :: spread rest
  | a :: '-' :: b :: rest =>
    ((List.range (b.toNat + 1 - a.toNat)).map fun k => Char.ofNat (a.toNat + k)) ++ spread rest
  | c :: rest => c :: spread rest
  | [] => []

/-- The sets of bytes that go by a name. -/
def namedSet (s : String) : List Char :=
  match s with
  | "[:upper:]" => spread "A-Z".toList
  | "[:lower:]" => spread "a-z".toList
  | "[:digit:]" => spread "0-9".toList
  | "[:space:]" => " \t\n\r\x0b\x0c".toList
  | _ => spread s.toList

/-- Writes its input with bytes replaced, or without some of them. -/
def tr (args : List String) : Run Int := do
  let d ← Run.takeInput
  let bytes (s : String) : Bytes := Utf8.encodeChars (namedSet s)
  match args with
  | ["-d", set] =>
    Run.write (d.filter fun b => !(bytes set).contains b)
    return 0
  | [set, target] =>
    let source := bytes set
    let target := bytes target
    Run.write (d.map fun b =>
      match source.idxOf? b with
      | some k => (target[k]?.orElse fun _ => target.getLast?).getD b
      | none => b)
    return 0
  | _ =>
    Run.blame "missing operand"
    return 1

/-- Writes numbers, one a line. -/
def seq (args : List String) : Run Int := do
  match args.map (·.toInt?) with
  | [some last] => numbers 1 1 last
  | [some first, some last] => numbers first 1 last
  | [some first, some step, some last] => numbers first step last
  | _ =>
    Run.blame "missing operand"
    return 1
where
  /-- Numbers from one to another in steps. -/
  numbers (first step last : Int) : Run Int := do
    let count : Nat :=
      if 0 < step then ((last - first) / step + 1).toNat else if step < 0 then ((first - last) / (-step) + 1).toNat else 0
    let shown (k : Nat) : String := toString (first + step * k) ++ "\n"
    Run.write (Utf8.encode (String.join ((List.range count).map shown)))
    return 0

/-- A number in octal with at least so many digits. -/
def octal (width n : Nat) : String :=
  let ds := Nat.toDigits 8 n
  String.ofList (List.replicate (width - ds.length) '0' ++ ds)

/-- A byte as a character, in four columns. -/
def shownByte (b : UInt8) : String :=
  let text :=
    match [(0, "\\0"), (7, "\\a"), (8, "\\b"), (9, "\\t"), (10, "\\n"), (11, "\\v"), (12, "\\f"),
        (13, "\\r")].lookup b with
    | some s => s
    | none => if 32 ≤ b && b < 127 then String.singleton (Char.ofNat b.toNat) else octal 3 b.toNat
  String.ofList (List.replicate (4 - text.length) ' ') ++ text

/-- Bytes in lines of sixteen behind their place. Lines that repeat the one before are shown as a star. The bound is
the number of bytes. -/
def dumpFrom (place : Nat) (before : Option Bytes) (starred : Bool) (d : Bytes) : Nat → String
  | 0 => octal 7 place ++ "\n"
  | n + 1 =>
    let line := d.take 16
    if line.isEmpty then octal 7 place ++ "\n"
    else if some line == before && line.length == 16 then
      (if starred then "" else "*\n") ++ dumpFrom (place + 16) before true (d.drop 16) n
    else
      octal 7 place ++ String.join (line.map shownByte) ++ "\n" ++
        dumpFrom (place + line.length) (some line) false (d.drop 16) n

/-- Shows files byte by byte, as characters. -/
def od (args : List String) : Run Int := do
  match args with
  | "-c" :: files =>
    eachFile "" 1 files fun _ d => Run.write (Utf8.encode (dumpFrom 0 none false d (d.length + 1)))
  | _ =>
    Run.blame "only -c is known"
    return 1

end Rehearsal.Program.Tools
