import Rehearsal.Archive.Quoting
import Rehearsal.Files.Access
import Rehearsal.Frontmatter
import Rehearsal.Http.Exchange
import Rehearsal.Pattern.Reader
import Rehearsal.Program.Process
import Rehearsal.Program.Search
import Rehearsal.Words

/-!
# How commands come out

How a command should come out is said in front of it, and a command that does not complete says why.
-/

/-!
## Modifiers

What is written before a command to say how it should come out: nothing for success, an exclamation mark for failure,
and a question mark where either will do.
-/

namespace Rehearsal

/-- How a command should come out. -/
inductive Modifier where
  | plain | negated | neutral
  deriving DecidableEq, Repr, Inhabited

namespace Modifier

/-- How a modifier is written. -/
def mark : Modifier → String
  | .plain => ""
  | .negated => "!"
  | .neutral => "?"

/-- The modifier that a word is, if it is one. -/
def ofWord? (word : String) : Option Modifier :=
  if word == mark .negated then some .negated else if word == mark .neutral then some .neutral else none

/-- Whether a modifier is content with how a command came out. -/
def accepts (m : Modifier) (succeeded : Bool) : Bool :=
  match m with
  | .plain => succeeded
  | .negated => !succeeded
  | .neutral => true

end Modifier

/-!
## What ends a command early

A command that does not complete says why. A *mismatch* is an outcome that the line did not ask for, and a question mark
in front of the line makes it a note in the transcript. A *misuse* is a line that cannot be understood or carried out. An
*accident* is something that went wrong beyond the rules of scripts: a file that cannot be opened, say, or a host's
function that gives up.

A mismatch, a misuse and a timeout are failures, which end a script and nothing else. A skip ends it too, without
failing it. What remains, an accident that nothing turned into a misuse and a golden file that the archive does not hold,
reaches beyond the script.
-/

/-- What a host's function left with. -/
inductive ExitCode where
  | number (n : Int)
  | text (s : String)
  deriving DecidableEq, Repr, Inhabited

/-- The code as it stands in a note. -/
def ExitCode.inNote : ExitCode → String
  | .number n => toString n
  | .text s => s

/-- The code as it was given. -/
def ExitCode.shown : Option ExitCode → String
  | some (.number n) => toString n
  | some (.text s) => Quoted.text s
  | none => "None"

/-- Errors that a host may report, by their kind. -/
inductive HostError where
  | runtime | key | value | system | mistyped | archive
  deriving DecidableEq, Repr, Inhabited

/-- The name of a kind of error. -/
def HostError.label : HostError → String
  | .runtime => "RuntimeError"
  | .key => "KeyError"
  | .value => "ValueError"
  | .system => "OSError"
  | .mistyped => "TypeError"
  | .archive => "ArchiveError"

/-- Something that went wrong beyond the rules of scripts. -/
inductive Accident where
  | file (e : Files.Error)
  | noProgram (command : String)
  /-- A program is given a variable whose name has an equals sign in it. -/
  | variableName
  | notUtf8 (e : Utf8.DecodeError)
  | pattern (e : Pattern.Error)
  | quoting (e : Archive.QuoteError)
  | number (e : Integer.Error)
  | exchange (f : Http.Exchange.Failure)
  | frontmatter (e : Frontmatter.Error)
  /-- A time limit is greater than every float. -/
  | limitTooLarge
  /-- Settings are too deep within each other. -/
  | tooDeep
  | exit (code : ExitCode)
  | host (kind : HostError) (text : String)
  deriving Inhabited

namespace Accident

/-- The wording of an accident. -/
def message : Accident → String
  | .file e => e.message
  | .noProgram command => Program.notFound command
  | .variableName => (Program.StartError.variableName).message
  | .notUtf8 e => e.message
  | .pattern e => e.message
  | .quoting e => e.message
  | .number e => e.message
  | .exchange f => f.message
  | .frontmatter e => e.message
  | .limitTooLarge => Frontmatter.Error.timeoutTooLarge.message
  | .tooDeep => Nesting.message
  | .exit code => code.inNote
  | .host .key text => Quoted.text text
  | .host _ text => text

/-- The name of the kind of a refusal. -/
def refusalLabel : Files.Refusal → String
  | .notFound => "FileNotFoundError"
  | .notPermitted | .noAccess => "PermissionError"
  | .exists => "FileExistsError"
  | .notDirectory => "NotADirectoryError"
  | .isDirectory => "IsADirectoryError"
  | _ => "OSError"

/-- The name of the kind of a failure of settings. -/
def settingsLabel : Frontmatter.Error → String
  | .yaml (.truth _) => "KeyError"
  | .yaml .noDigits => "IndexError"
  | .yaml .noMoment => "AttributeError"
  | .yaml .momentOfMapping => "TypeError"
  | .yaml .endless | .yaml .tooDeep => "RecursionError"
  | .yaml .tooLarge | .yaml .floatTooLarge | .timeoutTooLarge => "OverflowError"
  | _ => "ValueError"

/-- The name of the kind of an accident. -/
def label : Accident → String
  | .file (.refused why _ _) => refusalLabel why
  | .file .nullCharacter | .variableName | .number _ => "ValueError"
  | .noProgram _ => refusalLabel .notFound
  | .notUtf8 _ => "UnicodeDecodeError"
  | .pattern .tooManyRounds | .limitTooLarge => "OverflowError"
  | .pattern .twoAlphabets | .pattern (.count _) => "ValueError"
  | .pattern .tooDeep | .tooDeep => "RecursionError"
  | .pattern (.malformed ..) => "error"
  | .quoting _ => HostError.archive.label
  | .exchange (.query (.halves ..)) | .exchange (.header ..) => "UnicodeEncodeError"
  | .exchange (.query (.tooDeep _)) => "RecursionError"
  | .exchange (.contentType (.noOrder _)) | .exchange (.body .textOnly) => "TypeError"
  | .exchange (.body .strictOnly) => "AssertionError"
  | .exchange (.body (.notAscii ..)) => "UnicodeDecodeError"
  | .exchange (.body _) => "UnicodeError"
  | .exchange _ => "ValueError"
  | .frontmatter e => settingsLabel e
  | .exit _ => "SystemExit"
  | .host kind _ => kind.label

/-- Whether the operating system is what refused something. -/
def isSystem : Accident → Bool
  | .file (.refused ..) | .noProgram _ | .host .system _ => true
  | _ => false

/-- Whether an accident is a value that cannot be used. -/
def isValue : Accident → Bool
  | .exchange (.query (.tooDeep _)) | .exchange (.contentType (.noOrder _)) => false
  | .exchange (.body .textOnly) | .exchange (.body .strictOnly) => false
  | .file .nullCharacter | .variableName | .number _ | .notUtf8 _ | .exchange _ | .host .value _ => true
  | .frontmatter e => settingsLabel e == HostError.value.label
  | _ => false

/-- Whether an accident speaks for itself when a command meets it. Any other is reported with the command and its
kind. -/
def isMild : Accident → Bool
  | .pattern .tooManyRounds | .pattern .tooDeep => false
  | .pattern _ | .quoting _ | .host .archive _ => true
  | a => a.isSystem || a.isValue

end Accident

/-- A line that cannot be understood or carried out. -/
inductive Misuse where
  | usage (form : String)
  | unsupported (m : Modifier) (verb : String)
  | negatedClient
  | noDirectory (path : String)
  | notDirectory (path : String)
  | badMode (text : String)
  | copyTarget (path : String)
  | badCount (e : Integer.Error)
  | countTooSmall
  | negatedCount
  | badStatus (text : String)
  | badVariable (key : String)
  | modifierAlone (m : Modifier)
  | guardAlone
  | badCondition (condition reason : String)
  | setup (reason : String)
  /-- A function of the host leaves in a way that loses what is being measured. -/
  | exitMeasured (function : String) (code : Option ExitCode)
  /-- An accident that speaks for itself. -/
  | accident (a : Accident)
  /-- An accident that a command met. -/
  | uncaught (verb : String) (a : Accident)
  | host (text : String)
  deriving Inhabited

/-- The wording of a misuse. -/
def Misuse.message : Misuse → String
  | .usage form => s!"usage: {form}"
  | .unsupported m verb => s!"unsupported: {m.mark} {verb}"
  | .negatedClient => "unsupported: negated http client"
  | .noDirectory path => s!"directory {path} does not exist"
  | .notDirectory path => s!"{path} is not a directory"
  | .badMode text => s!"invalid mode: {text}"
  | .copyTarget path => s!"cp: destination {path} is not a directory"
  | .badCount e => s!"bad -count=: {e.message}"
  | .countTooSmall => "bad -count=: must be at least 1"
  | .negatedCount => "cannot use -count= with negated match"
  | .badStatus text => s!"bad status code {Quoted.text text}"
  | .badVariable key => Environment.badName key
  | .modifierAlone m => s!"{m.mark} on line by itself"
  | .guardAlone => "missing command after condition"
  | .badCondition condition reason => s!"bad condition {Quoted.text condition}: {reason}"
  | .setup reason => s!"setup: {reason}"
  | .exitMeasured function code =>
    s!"function {Quoted.text function} exited via SystemExit({ExitCode.shown code}) while coverage is measuring; " ++
      "coverage data may be lost (set ignore_missed_coverage to allow)"
  | .accident a => a.message
  | .uncaught verb a => s!"{verb}: {a.label}: {a.message}"
  | .host text => text

/-- A command that came out otherwise than its modifier asked for. -/
structure Surprise where
  what : String
  succeeded : Bool
  deriving DecidableEq, Repr, Inhabited

/-- The wording of a surprise. -/
def Surprise.message (s : Surprise) : String := s!"unexpected {s.what} " ++ if s.succeeded then "success" else "failure"

/-- An outcome that a line did not ask for. -/
inductive Mismatch where
  | surprise (s : Surprise)
  /-- Commands in the background that came out otherwise than asked for, with their arguments. -/
  | background (problems : List (Surprise × List String))
  | differ (first second : String)
  | present (isDirectory : Bool) (file : String)
  | absent (file : String)
  | writable (file : String)
  | notExecutable (file : String)
  | noMatch (pattern name : String)
  | matched (pattern name found : String)
  | matchCount (found : Nat) (pattern : String) (wanted : Int)
  | requestFailed (reason : String)
  | isStatus (n : Int)
  | otherStatus (n wanted : Int)
  /-- The new contents of a golden file cannot be stored. -/
  | golden (file : String) (e : Archive.QuoteError)
  /-- The script file cannot be written. -/
  | scriptFile (e : Files.Error)
  | host (text : String)
  deriving Inhabited

/-- The wording of a mismatch. -/
def Mismatch.message : Mismatch → String
  | .surprise s => s.message
  | .background problems =>
    "\n".intercalate (problems.map fun (s, argv) => s.message ++ ": " ++ " ".intercalate argv)
  | .differ first second => s!"{first} and {second} differ"
  | .present isDirectory file => (if isDirectory then "directory " else "file ") ++ s!"{file} unexpectedly exists"
  | .absent file => s!"{file} does not exist"
  | .writable file => s!"{file} exists but is writable"
  | .notExecutable file => s!"{file} exists but is not executable"
  | .noMatch pattern name => s!"no match for {Quoted.text pattern} found in {name}"
  | .matched pattern name found => s!"unexpected match for {Quoted.text pattern} found in {name}: {found}"
  | .matchCount found pattern wanted => s!"have {found} matches for {Quoted.text pattern}, want {wanted}"
  | .requestFailed reason => s!"unexpected http failure:\n{reason}"
  | .isStatus n => s!"unexpected status {n}"
  | .otherStatus n wanted => s!"status is {n}, want {wanted}"
  | .golden file e => s!"cannot update script file {Quoted.text file}: {e.message}"
  | .scriptFile e => s!"cannot update script: {e.message}"
  | .host text => text

/-- Golden files and the archive do not go together. -/
inductive Integrity where
  | notInArchive (name file : String)
  | noArchive (file : String)
  | host (text : String)
  deriving DecidableEq, Repr, Inhabited

/-- The wording. -/
def Integrity.message : Integrity → String
  | .notInArchive name file => s!"script update file {Quoted.text name} not found in {file}"
  | .noArchive file => s!"{file}: script updates recorded without an archive"
  | .host text => text

/-- What ends a command early. -/
inductive Fault where
  | misuse (m : Misuse)
  /-- A line cannot be cut into arguments. -/
  | words (e : Words.Error)
  | unknownCommand (verb : String)
  | unknownCondition (name : String)
  | unknownFunction (name : String)
  | request (e : Http.ArgumentError)
  | mismatch (m : Mismatch)
  /-- The script is out of time. -/
  | timeout
  | skip (reason : String)
  | integrity (i : Integrity)
  | accident (a : Accident)
  deriving Inhabited

namespace Fault

/-- The wording of a fault. -/
def message : Fault → String
  | .misuse m => m.message
  | .words e => e.message
  | .unknownCommand verb => s!"unknown command {Quoted.text verb}"
  | .unknownCondition name => s!"unknown condition {Quoted.text name}"
  | .unknownFunction name => s!"unknown function {Quoted.text name}"
  | .request e => e.message
  | .mismatch m => m.message
  | .timeout => "test timed out while running command"
  | .skip reason => reason
  | .integrity i => i.message
  | .accident a => a.message

/-- Whether a fault fails the script it happens in and reaches no further. -/
def isFailure : Fault → Bool
  | .skip _ | .integrity _ | .accident _ => false
  | _ => true

end Fault

end Rehearsal
