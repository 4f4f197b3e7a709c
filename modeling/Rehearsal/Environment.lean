import Rehearsal.Files.Path
import Rehearsal.Platform
import Rehearsal.Table
import Rehearsal.Text.Quoted

/-!
# The environment of a script

A script's variables are a list of `KEY=VALUE` entries in the order they were made; the last entry of a name
gives its value, and an entry without an equals sign counts for nothing. Names are compared after
normalisation, which folds case on Windows.

Three views of the list exist: `get` searches it from the end, `table` replays it into a look-up table, and
`forProcess` keeps the spelling of the last entry of each name, as a program that is started sees it.
-/

namespace Rehearsal

namespace Environment

/-- The key of an entry, and its value if it has an equals sign. -/
def splitEntry (entry : String) : String × Option String :=
  match entry.toList.span (· != '=') with
  | (key, _ :: value) => (String.ofList key, some (String.ofList value))
  | (key, []) => (String.ofList key, none)

/-- An entry as text. -/
def entry (key value : String) : String := key ++ "=" ++ value

/-- The form of a variable name that is compared. -/
def normalName (p : Platform) (key : String) : String := if p.isWindows then lowerCase key else key

/-- The variable that holds the home directory. -/
def homeName (p : Platform) : String :=
  if p.isWindows then "USERPROFILE" else if p.system.startsWith "plan9" then "home" else "HOME"

/-- The variable that holds the directory for temporary files. -/
def tempName (p : Platform) : String := if p.isWindows then "TMP" else "TMPDIR"

/-- Replays entries into a look-up table from normal names to values. -/
def table (p : Platform) (entries : List String) : Table String :=
  entries.foldl (fun t e =>
    match splitEntry e with
    | (key, some value) => t.insert (normalName p key) value
    | (_, none) => t) []

/-- The variables a started program sees: one for each normal name, spelled as in its last entry. -/
def forProcess (p : Platform) (entries : List String) : Table String :=
  Table.ofPairs <| (entries.foldl (fun (t : Table (String × String)) e =>
    match splitEntry e with
    | (key, some value) => t.insert (normalName p key) (key, value)
    | (_, none) => t) []).map (·.2)

/-- Whether an entry gives a value to a normal name. -/
def sets? (p : Platform) (key entry : String) : Option String :=
  match splitEntry entry with
  | (k, some value) => if normalName p k == key then some value else none
  | (_, none) => none

/-- The value of a variable, empty when it is not set: the last entry that sets it wins. -/
def get (p : Platform) (entries : List String) (key : String) : String :=
  (entries.reverse.findSome? (sets? p (normalName p key))).getD ""

/-- Whether a text may name a variable. -/
def isName (key : String) : Bool := !key.isEmpty && !key.toList.contains '='

/-- What is said of a text that may not. -/
def badName (key : String) : String := s!"invalid environment variable key {Quoted.text key}"

/-- The variables every script starts with, given those of the surroundings. The work directory comes first:
where transcripts are shortened, it is looked for on their first line. -/
def standard (p : Platform) (outside : Table String) (workDir : String) : List String :=
  [entry "WORK" workDir, entry "PATH" ((outside.get? "PATH").getD ""), entry (homeName p) "/no-home",
    entry (tempName p) (Path.join workDir "tmp"), entry "devnull" "/dev/null", entry "/" "/", entry ":" ":"] ++
  if p.isWindows then [entry "SYSTEMROOT" ((outside.get? "SYSTEMROOT").getD ""), entry "exe" ".exe"]
  else [entry "exe" ""]

end Environment

end Rehearsal
