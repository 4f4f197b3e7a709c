import Rehearsal.Options.Basic
import Rehearsal.Pattern.Reader

/-!
# Reading a command line

An argument that begins with a dash is an option, unless it is the dash alone, looks like a negative number, or
holds a space and is no option. Long options may be shortened as far as they stay unique, several short ones may
stand behind one dash, and a value may follow an equals sign. Everything behind `--` is a plain argument.

All arguments are sorted into options and plain ones before the first is acted upon; then they act in their order,
and the first fault ends the reading. Asking for help ends it too. Arguments that are left over are complained
about last.
-/

namespace Rehearsal.Options

/-- What an option does. -/
inductive Choice where
  | help | glob | run | update | testwork | workdirRoot | short | timeout | phasePrefix | commentPrefix | verbose
  | initConfig
  deriving DecidableEq, Repr, Inhabited

namespace Choice

/-- Every option, in the order help shows them. -/
def all : List Choice :=
  [.help, .glob, .run, .update, .testwork, .workdirRoot, .short, .timeout, .phasePrefix, .commentPrefix, .verbose,
    .initConfig]

/-- The spellings of an option, the short one first. -/
def spellings : Choice → List String
  | .help => ["-h", "--help"]
  | .glob => ["--glob"]
  | .run => ["--run"]
  | .update => ["-u", "--update"]
  | .testwork => ["--testwork"]
  | .workdirRoot => ["--workdir-root"]
  | .short => ["--short"]
  | .timeout => ["--timeout"]
  | .phasePrefix => ["--phase-prefix"]
  | .commentPrefix => ["--comment-prefix"]
  | .verbose => ["-v", "--verbose"]
  | .initConfig => ["--init-config"]

/-- Whether an option has a value. -/
def hasValue : Choice → Bool
  | .glob | .run | .workdirRoot | .timeout | .phasePrefix | .commentPrefix => true
  | .help | .update | .testwork | .short | .verbose | .initConfig => false

/-- How messages call an option. -/
def shown (c : Choice) : String := "/".intercalate c.spellings

/-- Every spelling with its option. -/
def table : List (String × Choice) := all.flatMap fun c => c.spellings.map fun s => (s, c)

/-- The option of a spelling. -/
def ofSpelling? (s : String) : Option Choice := table.lookup s

end Choice

/-- What is wrong with a command line. -/
inductive UsageError where
  | ambiguous (argument : String) (spellings : List String)
  | ignored (option : Choice) (value : String)
  | valueMissing (option : Choice)
  | badPattern (text : String) (e : Pattern.Error)
  | badNumber (text : String)
  | negative (x : Float)
  | leftOver (arguments : List String)
  deriving Repr, Inhabited

/-- The wording of the error. -/
def UsageError.message : UsageError → String
  | .ambiguous argument spellings =>
    s!"ambiguous option: {argument} could match " ++ ", ".intercalate spellings
  | .ignored option value => s!"argument {option.shown}: ignored explicit argument {Quoted.text value}"
  | .valueMissing option => s!"argument {option.shown}: expected one argument"
  | .badPattern text .twoAlphabets | .badPattern text (.count _) =>
    s!"argument {Choice.run.shown}: invalid regex value: {Quoted.text text}"
  | .badPattern text e => s!"argument {Choice.run.shown}: invalid regular expression '{text}': {e.message}"
  | .badNumber text => s!"argument {Choice.timeout.shown}: invalid float value: '{text}'"
  | .negative x => s!"argument {Choice.timeout.shown}: timeout must be non-negative, got {Binary.shortest x}"
  | .leftOver arguments => "unrecognized arguments: " ++ " ".intercalate arguments

/-- Why a command line yields no options. -/
inductive Stop where
  /-- Help was asked for. -/
  | help
  | usage (e : UsageError)
  /-- A pattern repeats something too often, or too many groups are open in it; this is not told apart from a fault of the
  program. -/
  | overflow (e : Pattern.Error)
  deriving Repr, Inhabited

/-- What an argument is. -/
inductive Mark where
  | plain
  | dashes
  /-- An option that is known, by its spelling, and the value behind its equals sign or its letter. -/
  | option (choice : Choice) (spelling : String) (value : Option String)
  | unknown
  deriving Repr, Inhabited

/-- Whether a character is a digit in the sense of any script. -/
def allDigits (cs : List Char) : Bool := !cs.isEmpty && cs.all isDigit

/-- Whether an argument looks like a negative number. A newline at its end is overlooked. -/
def looksNegative (cs : List Char) : Bool :=
  let cs := if cs.getLast? == some '\n' then cs.dropLast else cs
  match cs with
  | '-' :: digits => allDigits digits || match digits.dropWhile isDigit with
    | '.' :: places => allDigits places
    | _ => false
  | _ => false

/-- The text before the first equals sign and the text behind it, if there is one. -/
def cutAtEquals (s : String) : String × Option String :=
  match s.toList.span (· != '=') with
  | (front, _ :: value) => (String.ofList front, some (String.ofList value))
  | (_, []) => (s, none)

/-- The options an argument may be short for. -/
def candidates (argument : String) : List (String × Choice × Option String) :=
  match argument.toList with
  | '-' :: '-' :: _ =>
    let (front, value) := cutAtEquals argument
    Choice.table.filterMap fun (s, c) => if s.startsWith front then some (s, c, value) else none
  | '-' :: letter :: value =>
    let short := String.ofList ['-', letter]
    Choice.table.filterMap fun (s, c) =>
      if s == short then some (s, c, some (String.ofList value))
      else if s.startsWith argument then some (s, c, none)
      else none
  | _ => []

/-- Sorts an argument in front of any `--`. -/
def markOf (argument : String) : Except UsageError Mark :=
  if !argument.startsWith "-" then .ok .plain
  else match Choice.ofSpelling? argument with
    | some c => .ok (.option c argument none)
    | none =>
      if argument == "-" then .ok .plain
      else
        let (front, value) := cutAtEquals argument
        match value, Choice.ofSpelling? front with
        | some v, some c => .ok (.option c front (some v))
        | _, _ =>
          match candidates argument with
          | [(s, c, v)] => .ok (.option c s v)
          | _ :: _ :: _ => .error (.ambiguous argument ((candidates argument).map (·.1)))
          | [] =>
            if looksNegative argument.toList || argument.toList.contains ' ' then .ok .plain else .ok .unknown

/-- Sorts all arguments. -/
def marks : List String → Except UsageError (List (String × Mark))
  | [] => .ok []
  | argument :: rest =>
    if argument == "--" then .ok ((argument, .dashes) :: rest.map (·, .plain))
    else do
      let mark ← markOf argument
      return (argument, mark) :: (← marks rest)

/-- What has been read: the options, whether the directory has been, and what is left over. -/
structure Reading where
  options : Options
  dirTaken : Bool
  leftOver : List String
  deriving Repr, Inhabited

/-- Does what an option without a value asks for. -/
def flag (c : Choice) (o : Options) : Except Stop Options :=
  match c with
  | .help => .error .help
  | .update => .ok { o with updateScripts := true }
  | .testwork => .ok { o with testWork := true }
  | .short => .ok { o with short := true }
  | .verbose => .ok { o with verbose := true }
  | .initConfig => .ok { o with initConfig := true }
  | _ => .ok o

/-- The pattern an option gives, if it is one. -/
def patternOf (text : String) : Except Stop String :=
  match Pattern.ofText text [] with
  | .ok _ => .ok text
  | .error .tooManyRounds => .error (.overflow .tooManyRounds)
  | .error .tooDeep => .error (.overflow .tooDeep)
  | .error e => .error (.usage (.badPattern text e))

/-- The number of seconds an option gives, if it is one. -/
def secondsOf (text : String) : Except Stop Seconds :=
  match Binary.ofText? text with
  | none => .error (.usage (.badNumber text))
  | some x => if x < Float.ofBits 0 then .error (.usage (.negative x)) else .ok (.float x)

/-- Does what an option with a value asks for. A lone `--` is no value. -/
def valued (c : Choice) (text : String) (o : Options) : Except Stop Options :=
  let given {α : Type} (read : String → Except Stop α) : Except Stop (Given α) :=
    if text == "--" then .ok .nothing else (read text).map .value
  match c with
  | .glob => do return { o with glob := ← given .ok }
  | .run => do return { o with run := ← given patternOf }
  | .workdirRoot => do return { o with workdirRoot := ← given .ok }
  | .timeout => do return { o with timeout := ← given secondsOf }
  | .phasePrefix => do return { o with phasePrefix := ← given .ok }
  | .commentPrefix => do return { o with commentPrefix := ← given .ok }
  | _ => .ok o

/-- The options behind one dash: the first, and the letters behind it as long as they are options. What an equals sign
leaves as a value of an option without one is read as such letters too. -/
def cluster (c : Choice) (spelling : String) : List Char → Except UsageError (List Choice)
  | [] => .error (.ignored c "")
  | letter :: rest =>
    if spelling.startsWith "--" then .error (.ignored c (String.ofList (letter :: rest)))
    else
      let next := String.ofList ['-', letter]
      match Choice.ofSpelling? next with
      | none => .error (.ignored c (String.ofList (letter :: rest)))
      | some d =>
        if rest.isEmpty then .ok [c, d]
        else (cluster d next rest).map (c :: ·)

/-- Lets arguments act in their order. -/
def act (r : Reading) : List (String × Mark) → Except Stop Reading
  | [] => .ok r
  | (argument, .unknown) :: rest => act { r with leftOver := r.leftOver ++ [argument] } rest
  | (_, .option c _ none) :: rest =>
    if c.hasValue then
      match rest with
      | (value, .plain) :: rest => do act { r with options := ← valued c value r.options } rest
      | _ => .error (.usage (.valueMissing c))
    else do act { r with options := ← flag c r.options } rest
  | (_, .option c spelling (some value)) :: rest =>
    if c.hasValue then do act { r with options := ← valued c value r.options } rest
    else
      match cluster c spelling value.toList with
      | .error e => .error (.usage e)
      | .ok choices => do act { r with options := ← choices.foldlM (fun o c => flag c o) r.options } rest
  | (argument, .plain) :: rest =>
    if r.dirTaken then act { r with leftOver := r.leftOver ++ [argument] } rest
    else
      let r := { r with dirTaken := true, options := { r.options with dir := argument } }
      match rest with
      | (_, .dashes) :: rest => act r rest
      | rest => act r rest
  | (argument, .dashes) :: rest =>
    if r.dirTaken then act { r with leftOver := r.leftOver ++ [argument] } rest
    else
      match rest with
      | (dir, .plain) :: rest => act { r with dirTaken := true, options := { r.options with dir } } rest
      | rest => act { r with dirTaken := true } rest

/-- Reads a command line. -/
def ofArguments (arguments : List String) : Except Stop Options :=
  match marks arguments with
  | .error e => .error (.usage e)
  | .ok ms =>
    match act ⟨Options.default, false, []⟩ ms with
    | .error e => .error e
    | .ok r => if r.leftOver.isEmpty then .ok r.options else .error (.usage (.leftOver r.leftOver))

end Rehearsal.Options
