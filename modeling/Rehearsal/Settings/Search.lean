import Rehearsal.Files.Access
import Rehearsal.Settings.Basic
import Rehearsal.Settings.Toml
import Rehearsal.Text.Line
import Rehearsal.Text.Nesting

/-!
# The settings file of a project

The settings that apply in a directory stand in the file `config.toml` of a directory `.hlscript`, which is looked
for there and in each directory above. The search ends behind the first directory that holds `.git`, which is the
root of the project. Only the table `hlscript` of the file is read.

`load` reads that file; a missing one makes no settings, a broken one is an error. `start` writes a file in which
every setting is commented out.
-/

namespace Rehearsal.Settings

open Files

/-- The name of the directory that holds the settings file. -/
def directoryName : String := ".hlscript"

/-- The name of the settings file. -/
def fileName : String := "config.toml"

/-- The name of the table that is read. -/
def tableName : String := "hlscript"

/-- The name of what marks the root of a project. -/
def rootMark : String := ".git"

/-- The names that lead to a directory, whose path may be relative. -/
def namesOf (base : List String) (directory : String) : List String :=
  Path.names (Path.normalize (Path.join (Path.ofNames base) directory))

/-- A directory and those above it, each as its names, the last name first. -/
def upward : List String → List (List String)
  | [] => [[]]
  | name :: above => (name :: above) :: upward above

/-- The items of a list up to the first that satisfies a test, that one included. -/
def through {α : Type} (p : α → Bool) : List α → List α
  | [] => []
  | a :: rest => if p a then [a] else a :: through p rest

/-- The path of a name in a directory. -/
def inside (directory : List String) (name : String) : String := Path.ofNames (directory ++ [name])

/-- Whether a directory is the root of a project. -/
def isProjectRoot (d : Disk) (directory : List String) : Bool := d.exists? (inside directory rootMark)

/-- The directories that are searched from a directory on. -/
def searched (d : Disk) (start : List String) : List (List String) :=
  through (isProjectRoot d) ((upward start.reverse).map List.reverse)

/-- The root of the project a directory belongs to: the nearest one that holds the mark, or else itself. -/
def projectRoot (d : Disk) (start : List String) : List String :=
  ((searched d start).find? (isProjectRoot d)).getD start

/-- The directory with settings that applies in a directory. -/
def directory? (d : Disk) (start : List String) : Option (List String) :=
  ((searched d start).find? fun dir => d.isDirectory (inside dir directoryName)).map (· ++ [directoryName])

/-- The settings file that applies in a directory. -/
def file? (d : Disk) (start : List String) : Option String :=
  match directory? d start with
  | none => none
  | some dir => if d.isFile (inside dir fileName) then some (inside dir fileName) else none

/-- The directory with settings that applies in a directory; it is made at the root of the project when there is
none. -/
def makeDirectory (start : List String) : Access (List String) := do
  let d ← get
  match directory? d start with
  | some dir => return dir
  | none =>
    let dir := projectRoot d start ++ [directoryName]
    Access.makePath dir.reverse
    return dir

/-- Why settings are not loaded. -/
inductive LoadError where
  | malformed (file : String)
  | refused (file : String) (e : Files.Error)
  | notText (file : String) (e : Utf8.DecodeError)
  | noTable (file : String)
  | badValue (file : String) (key : Key) (problem : Problem)
  /-- A number in the file is too long to be read. -/
  | number (e : Integer.Error)
  /-- Too many lists and tables are open within each other. -/
  | tooDeep

/-- The wording of the error. -/
def LoadError.message : LoadError → String
  | .malformed file => s!"Failed to parse {file}: Invalid TOML syntax - the document is not well formed"
  | .refused file e => s!"Failed to read {file}: {e.message}"
  | .notText file e => s!"Failed to read {file}: {e.message}"
  | .noTable file => s!"Invalid [{tableName}] section in {file}: expected a table"
  | .badValue file key problem => Settings.badValue file key problem
  | .number e => e.message
  | .tooDeep => Nesting.message

/-- The entries of a table under texts. -/
def textKeys (items : List (Value × Value)) : Table Value :=
  items.filterMap fun
    | (.text k, v) => some (k, v)
    | _ => none

/-- The settings in the text of a file. -/
def ofText (file text : String) : Except LoadError (List Setting) :=
  match Toml.ofText text with
  | .error .malformed => .error (.malformed file)
  | .error (.number e) => .error (.number e)
  | .error .tooDeep => .error .tooDeep
  | .ok items =>
    match (Value.get? tableName items).getD (.table []) with
    | .table entries =>
      match check (textKeys entries) with
      | .ok settings => .ok settings
      | .error (key, problem) => .error (.badValue file key problem)
    | _ => .error (.noTable file)

/-- The settings that apply in a directory. -/
def load (d : Disk) (start : List String) : Except LoadError (List Setting) :=
  match file? d start with
  | none => .ok []
  | some file =>
    match d.read file with
    | .error e => .error (.refused file e)
    | .ok data =>
      match Utf8.decodeChars data with
      | .error e => .error (.notText file e)
      | .ok cs => ofText file (String.ofList (Line.unifyNewlines cs))

/-- The file that is written for a new project: every setting is there, commented out. -/
def template : String :=
  "\n".intercalate [
    "# hlscript settings for this project.",
    "# Values given on the command line take precedence over this file.",
    "",
    "[hlscript]",
    "# Pattern selecting script files inside the scripts directory",
    "# glob = \"*.hls\"",
    "",
    "# Line prefix that starts a new phase",
    "# phase_prefix = \"#\"",
    "",
    "# Line prefix that marks a comment line",
    "# comment_prefix = \"~\"",
    "",
    "# Rewrite golden files when 'cmp stdout|stderr FILE' fails",
    "# update_scripts = false",
    "",
    "# Keep work directories after the run",
    "# test_work = false",
    "",
    "# Create work directories here instead of a temporary directory (implies test_work)",
    "# workdir_root = \"/tmp/hlscript-work\"",
    "",
    "# Keep transcripts of successful phases",
    "# verbose = false",
    "",
    "# Value of the [short] condition; [net] is its inverse",
    "# short = false",
    "",
    "# Seconds before a script is cancelled; 0 means no limit",
    "# timeout = 60.0",
    ""]

/-- What became of a settings file to be written. -/
inductive Started where
  | created (file : String)
  | existed (file : String)
  | notWritten (e : Files.Error)

/-- Whether a settings file was written. -/
def Started.succeeded : Started → Bool
  | .created _ => true
  | _ => false

/-- What is said about it: on the output when it was written, else as an error. -/
def Started.message : Started → String
  | .created file => s!"Created configuration file at {file}\n"
  | .existed file =>
    s!"Error: Configuration file already exists at {file}\nRemove it first if you want a fresh one.\n"
  | .notWritten e => s!"Error: Failed to write configuration file: {e.message}\n"

/-- Writes a settings file for the project of a directory. -/
def start (from' : List String) : Access Started := do
  match file? (← get) from' with
  | some file => return .existed file
  | none =>
    let file := inside (← makeDirectory from') fileName
    try
      Access.write file (Utf8.encode template)
      return .created file
    catch e => return .notWritten e

end Rehearsal.Settings
