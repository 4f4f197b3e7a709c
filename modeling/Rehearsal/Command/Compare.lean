import Rehearsal.Command.Basic
import Rehearsal.Diff
import Rehearsal.Pattern.Matcher
import Rehearsal.Pattern.Reader

/-!
# Comparing and searching texts

What commands find out about texts: whether two of them are the same, and whether a pattern fits one.
-/

/-!
## Comparing texts

Two files are compared as texts; a difference is shown in the transcript. Where golden files are to be updated, what a
program wrote is never found to differ from a file of the archive: it is recorded as the new contents of that file.
-/

namespace Rehearsal.Command

/-- The name in the archive of the golden file that is to be updated, if a comparison asks for that. -/
def golden? (s : Script) (first path : String) : Option String :=
  if s.plan.updateScripts && (first == "stdout" || first == "stderr") then Table.get? path s.extracted else none

/-- Compares two files. With `expanding`, variables in the second are replaced first, and nothing is recorded. -/
def compare (verb : String) (expanding : Bool) : Command := fun m args => do
  if m == .negated then Action.misuse (.unsupported m verb)
  match args with
  | [first, second] =>
    let old ← Action.text first
    let path ← absolute second
    let text ← Action.text path
    let s ← get
    let new := if expanding then s.expand text else text
    if old == new then return
    match if expanding then none else golden? s first path with
    | some name => set { s with updates := Table.insert name old s.updates }
    | none =>
      log s!"[diff -{first} +{second}]\n{Diff.unified first second old new}"
      Action.mismatch (.differ first second)
  | _ => usage s!"{verb} file1 file2"

/-- Compares two files. -/
def cmp : Command := compare "cmp" false

/-- Compares two files, variables in the second replaced. -/
def cmpenv : Command := compare "cmpenv" true

/-!
## Searching texts

A pattern is searched for in a file or in what the last command wrote. It has to be found, or not to be found where a
line asks for that, or to be found a number of times. The work directory stands in the text as a variable, since no
script can know where it is.
-/

/-- How a count is asked for. -/
def countMark : String := "-count="

/-- The number of matches asked for, if one is, and the arguments behind it. -/
def countOf : List String → Except Misuse (Option Int × List String)
  | arg :: rest =>
    if arg.startsWith countMark then
      match Integer.ofText (arg.drop countMark.length).toString with
      | .error e => .error (.badCount e)
      | .ok n => if n < 1 then .error .countTooSmall else .ok (some n, rest)
    else .ok (none, arg :: rest)
  | [] => .ok (none, [])

/-- Searches a text that goes by a name. Where it is a file, it is shown when the search does not come out as asked. -/
def searchIn (m : Modifier) (count : Option Int) (shown : Bool) (source : String) (pattern : Pattern)
    (name text : String) : Action Unit := do
  let text := text.replace (← get).workDir "$WORK"
  match m, pattern.search text with
  | .negated, none => pure ()
  | .negated, some span =>
    if shown then log s!"[{name}]\n{text}"
    Action.mismatch (.matched source name (Pattern.slice text span))
  | _, none =>
    if shown then log s!"[{name}]\n{text}"
    Action.mismatch (.noMatch source name)
  | _, some _ =>
    if let some wanted := count then
      let found := pattern.count text
      if (found : Int) != wanted then Action.mismatch (.matchCount found source wanted)

/-- The pattern that a text describes, whose anchors hold at every line. -/
def patternOf (text : String) : Action Pattern :=
  match Pattern.ofText text [.multiline] with
  | .ok p => pure p
  | .error e => throw (.accident (.pattern e))

/-- The number of matches asked for, if one is, and the arguments behind it. No number goes with a search that has to
fail. -/
def searchArguments (form : String) (size : Nat) (m : Modifier) (args : List String) :
    Action (Option Int × List String) := do
  match countOf args with
  | .error e => Action.misuse e
  | .ok (count, rest) =>
    if rest.length != size then usage form
    if count.isSome && m == .negated then Action.misuse .negatedCount
    return (count, rest)

/-- Searches a file. -/
def grep : Command := fun m args => do
  let (count, rest) ← searchArguments "grep [-count=N] 'pattern' file" 2 m args
  match rest with
  | [source, file] =>
    let pattern ← patternOf source
    let text ← Action.text file
    searchIn m count true source pattern file text
  | _ => pure ()

/-- Searches what the last command wrote to a stream of a name. -/
def searchStream (name : String) (stream : Script → String) : Command := fun m args => do
  let (count, rest) ← searchArguments s!"{name} [-count=N] 'pattern'" 1 m args
  match rest with
  | [source] =>
    let pattern ← patternOf source
    searchIn m count false source pattern name (stream (← get))
  | _ => pure ()

/-- Searches the output of the last command. -/
def stdout : Command := searchStream "stdout" (·.stdout)

/-- Searches the error output of the last command. -/
def stderr : Command := searchStream "stderr" (·.stderr)

end Rehearsal.Command
