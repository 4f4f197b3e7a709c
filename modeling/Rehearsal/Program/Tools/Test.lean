import Rehearsal.Program.Tools.Print

/-!
# Tests

Questions about words and files, answered by an exit code: zero for yes, one for no, and two where the question is
not understood.
-/

namespace Rehearsal.Program.Tools

open Files

/-- Why a question is not understood. -/
inductive TestFault where
  | badNumber (word : String)
  | noOperator (word : String)
  | noArgument (word : String)
  | notClosed
  deriving DecidableEq, Repr, Inhabited

/-- The wording of the fault. -/
def TestFault.message : TestFault → String
  | .badNumber word => s!"Illegal number: {word}"
  | .noOperator word => s!"{word}: unexpected operator"
  | .noArgument word => s!"{word}: argument expected"
  | .notClosed => "missing ]"

/-- Questions about one word. -/
def unaryTest? (d : Disk) (name word : String) : Option Bool :=
  match name with
  | "-e" => some (d.exists? word)
  | "-f" => some (d.isFile word)
  | "-d" => some (d.isDirectory word)
  | "-L" | "-h" => some (d.isLink word)
  | "-s" => some (match d.find? true word with
    | some (.file _ data) => !data.isEmpty
    | some (.directory _) => true
    | _ => false)
  | "-x" => some ((d.find? true word).any (Entry.allows · searchBit))
  | "-w" => some ((d.find? true word).any (Entry.allows · writeBit))
  | "-r" => some ((d.find? true word).any (Entry.allows · readBit))
  | "-n" => some (!word.isEmpty)
  | "-z" => some word.isEmpty
  | _ => none

/-- Comparisons of numbers. -/
def comparison? (name : String) : Option (Int → Int → Bool) :=
  match name with
  | "-eq" => some fun a b => a == b
  | "-ne" => some fun a b => a != b
  | "-lt" => some fun a b => decide (a < b)
  | "-le" => some fun a b => decide (a ≤ b)
  | "-gt" => some fun a b => decide (b < a)
  | "-ge" => some fun a b => decide (b ≤ a)
  | _ => none

/-- The number a word is. -/
def wholeNumber (s : String) : Except TestFault Int :=
  let cs := s.toList.dropWhile fun c => c == ' '
  let ds := if cs.head? == some '-' || cs.head? == some '+' then cs.drop 1 else cs
  if ds.isEmpty || !ds.all Char.isDigit then .error (.badNumber s)
  else
    let n := numberIn 10 ds
    .ok (if cs.head? == some '-' then -(n : Int) else n)

/-- Questions about two words. -/
def binaryTest? (a name b : String) : Option (Except TestFault Bool) :=
  match name with
  | "=" | "==" => some (.ok (a == b))
  | "!=" => some (.ok (a != b))
  | "<" => some (.ok (decide (a < b)))
  | ">" => some (.ok (decide (b < a)))
  | _ => (comparison? name).map fun compare => do
    let m ← wholeNumber a
    let n ← wholeNumber b
    return compare m n

/-- A question at the front of some words, and the words behind it. -/
def question (d : Disk) : List String → Except TestFault (Bool × List String)
  | [] => .ok (false, [])
  | "!" :: rest =>
    if rest.isEmpty then .ok (true, [])
    else (question d rest).map fun (b, left) => (!b, left)
  | a :: rest =>
    match rest with
    | name :: b :: more =>
      match binaryTest? a name b with
      | some answer => answer.map (·, more)
      | none => unary a rest
    | _ => unary a rest
where
  /-- A question about one word, or about whether there is one. -/
  unary (a : String) (rest : List String) : Except TestFault (Bool × List String) :=
    match rest with
    | word :: more =>
      if word == "-a" || word == "-o" then .ok (!a.isEmpty, rest)
      else match unaryTest? d a word with
        | some b => .ok (b, more)
        | none => .ok (!a.isEmpty, rest)
    | [] => .ok (!a.isEmpty, [])

/-- Questions joined by conjunctions and disjunctions, given whether those that were read and are joined to the next one
hold. The bound is the number of words. -/
def questions (d : Disk) (holds : Bool) : Nat → List String → Except TestFault Bool
  | 0, _ => .ok holds
  | n + 1, args => do
    let (b, left) ← question d args
    match left with
    | [] => return holds && b
    | "-a" :: rest => questions d (holds && b) n rest
    | "-o" :: rest => return (← questions d true n rest) || (holds && b)
    | word :: _ => throw (.noOperator word)

/-- The answer to a question. -/
def answer (d : Disk) (args : List String) : Except TestFault Bool :=
  match args with
  | [name, word] =>
    if name == "!" then .ok word.isEmpty
    else match unaryTest? d name word with
      | some b => .ok b
      | none => .error (.noOperator name)
  | [a, name, _] =>
    if a != "!" && (binaryTest? a name "0").isNone && name != "-a" && name != "-o" then .error (.noOperator a)
    else questions d true args.length args
  | _ => questions d true args.length args

/-- Answers a question by an exit code. -/
def test (complain : TestFault → Run Unit) (args : List String) : Run Int := do
  match answer (← get).disk args with
  | .ok b => return if b then 0 else 1
  | .error e =>
    complain e
    return 2

/-- Answers a question that stands before a closing bracket. -/
def bracket (complain : TestFault → Run Unit) (args : List String) : Run Int := do
  if args.getLast? == some "]" then test complain args.dropLast
  else
    complain .notClosed
    return 2

end Rehearsal.Program.Tools
