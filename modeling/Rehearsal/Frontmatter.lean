import Rehearsal.Environment
import Rehearsal.Table
import Rehearsal.Text.Kind
import Rehearsal.Yaml.Document

/-!
# Front matter

A script may begin with a block of settings of its own between two lines of three dashes: a limit of time, variables,
and a reason to skip it. The block leaves as many newlines behind as it had, so that the lines of the script keep
their numbers.

Keys it does not know are told as warnings. The warnings stand even where the block is refused afterwards.
-/

namespace Rehearsal

/-- The settings of a script. -/
structure Frontmatter where
  timeout : Option Float
  vars : Table String
  skip : Option String
  deriving Repr, Inhabited

namespace Frontmatter

/-- Why a block is refused. -/
inductive Error where
  | yaml (e : Yaml.Error)
  | noMapping (found : Value)
  | timeoutKind (found : Value)
  | timeoutNegative (seconds : String)
  /-- A number of seconds is greater than every float. -/
  | timeoutTooLarge
  | variablesKind (found : Value)
  | variableName (name : Codes)
  /-- A value has no text. -/
  | noText
  deriving Repr, Inhabited

/-- The wording of an error. -/
def Error.message : Error → String
  | .yaml e => e.message
  | .noMapping found => s!"Invalid frontmatter: expected a mapping, got {found.kind}"
  | .timeoutKind found => s!"Invalid frontmatter 'timeout': expected number, got {found.kind}"
  | .timeoutNegative seconds => s!"Invalid frontmatter 'timeout': must be non-negative, got {seconds}"
  | .timeoutTooLarge => "int too large to convert to float"
  | .variablesKind found => s!"Invalid frontmatter 'env': expected mapping, got {found.kind}"
  | .variableName name => s!"Invalid frontmatter 'env': bad variable name {Quoted.codes name}"
  | .noText => Integer.tooLongToWrite

/-- What is behind three dashes and blanks at the front of a line: the end of the text, or a newline, which is taken.
The flag says which. -/
def afterMark? (cs : List Char) : Option (Bool × List Char) :=
  match cs with
  | '-' :: '-' :: '-' :: rest =>
    match rest.dropWhile fun c => c == ' ' || c == '\t' with
    | [] => some (false, [])
    | '\n' :: more => some (true, more)
    | _ => none
  | _ => none

/-- The lines of a block up to the one that closes it, and what is behind that, which begins a line if the flag is
set. -/
def splitAtMark (atStart : Bool) : List Char → Option (List Char × Bool × List Char)
  | [] => none
  | c :: rest =>
    match if atStart then afterMark? (c :: rest) else none with
    | some (newline, more) => some ([], newline, more)
    | none => (splitAtMark (c == '\n') rest).map fun (block, newline, more) => (c :: block, newline, more)

/-- The block at the front of a script, and the script with empty lines in its place. -/
def split (script : String) : Option (String × String) :=
  match afterMark? script.toList with
  | some (true, cs) =>
    (splitAtMark true cs).map fun (block, newline, more) =>
      let lines := 1 + block.count '\n' + if newline then 1 else 0
      (String.ofList block, String.ofList (List.replicate lines '\n' ++ more))
  | _ => none

/-- The keys that are known. -/
def knownKeys : List String := ["timeout", "env", "skip"]

/-- Whether a key is known. -/
def isKnown : Value → Bool
  | .text s => knownKeys.contains s
  | _ => false

/-- The text of a value. -/
def textOf (v : Value) : Except Error String :=
  match v.text? with
  | some s => .ok s
  | none => .error .noText

/-- The warnings about keys, up to the first whose text cannot be told. -/
def warnings : List (Value × Yaml.Cell) → List String × Except Error Unit
  | [] => ([], .ok ())
  | (key, _) :: rest =>
    if isKnown key then warnings rest
    else match key.text? with
      | none => ([], .error .noText)
      | some s =>
        let (more, result) := warnings rest
        (s!"Unknown frontmatter key '{s}' ignored" :: more, result)

/-- The limit of time that a value gives. -/
def timeoutOf : Value → Except Error (Option Float)
  | .null => .ok none
  | .int n =>
    if n < 0 then
      match Integer.text? n with
      | some s => .error (.timeoutNegative s)
      | none => .error .noText
    else match Binary.ofInt? n with
      | some x => .ok (some x)
      | none => .error .timeoutTooLarge
  | .float x =>
    if x < Float.ofBits 0 then .error (.timeoutNegative (Binary.shortest x)) else .ok (some x)
  | v => .error (.timeoutKind v)

/-- The variables that the pairs of a mapping give, put behind those of a table. -/
def variablesFrom (d : Yaml.Document) (got : Table String) : List (Value × Yaml.Cell) → Except Error (Table String)
  | [] => .ok got
  | (key, cell) :: rest => do
    if let .codes cs := key then throw (.variableName cs)
    let name ← textOf key
    if !Environment.isName name then throw (.variableName (Codes.ofText name))
    let text ← match d.value cell with
      | .null => pure ""
      | v => textOf v
    variablesFrom d (got.insert name text) rest

/-- The variables that a part of a document gives. -/
def variablesOf (d : Yaml.Document) (cell : Yaml.Cell) : Except Error (Table String) :=
  match d.table? cell with
  | some items => variablesFrom d [] items
  | none =>
    match d.value cell with
    | .null => .ok []
    | v => .error (.variablesKind v)

/-- The reason to skip that a value gives. -/
def skipOf : Value → Except Error (Option String)
  | .null | .bool false => .ok none
  | .bool true => .ok (some "skipped by frontmatter")
  | v => (textOf v).map some

/-- The settings in the pairs of a mapping. -/
def ofItems (d : Yaml.Document) (items : List (Value × Yaml.Cell)) : Except Error Frontmatter := do
  let under (key : String) : Yaml.Cell :=
    ((items.find? fun (k, _) => k.sameKey (.text key)).map (·.2)).getD (.value .null)
  let timeout ← timeoutOf (d.value (under "timeout"))
  let vars ← variablesOf d (under "env")
  let skip ← skipOf (d.value (under "skip"))
  return { timeout, vars, skip }

/-- The settings in the text of a block, if it says anything, and warnings. -/
def ofBlock (block : String) : List String × Except Error (Option Frontmatter) :=
  match Yaml.Document.ofText block with
  | .error e => ([], .error (.yaml e))
  | .ok d =>
    match d.table? d.root with
    | some items =>
      let (warned, result) := warnings items
      (warned, match result with
        | .error e => .error e
        | .ok () => (ofItems d items).map some)
    | none =>
      match d.value d.root with
      | .null => ([], .ok none)
      | v => ([], .error (.noMapping v))

/-- What is known of a script before it runs: its settings if it has a block that says anything, its lines, and
warnings about the block. -/
structure Read where
  warnings : List String
  result : Except Error (Option Frontmatter × String)

/-- Reads the block at the front of a script. -/
def read (script : String) : Read :=
  match split script with
  | none => ⟨[], .ok (none, script)⟩
  | some (block, body) =>
    if (trim block).isEmpty then ⟨[], .ok (none, body)⟩
    else
      let (warned, result) := ofBlock block
      ⟨warned, result.map fun settings => (settings, body)⟩

end Frontmatter

end Rehearsal
