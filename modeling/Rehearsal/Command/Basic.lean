import Rehearsal.Script.Host

/-!
# What commands have in common

Most commands cannot be asked to fail, and say so before they look at their arguments.
-/

namespace Rehearsal.Command

/-- Refuses a modifier for a command that has only one way to come out. -/
def refuseModifier (verb : String) (m : Modifier) : Action Unit :=
  if m == .plain then pure () else Action.misuse (.unsupported m verb)

/-- Ends a command whose arguments are not what it takes. -/
def usage {α : Type} (form : String) : Action α := Action.misuse (.usage form)

/-- Writes a line to the transcript. -/
def log (line : String) : Action Unit := modify (·.logLine line)

/-- A path seen from the directory of the script. -/
def absolute (path : String) : Action String := do return (← get).absolute path

/-!
## Variables, and ending a script

Showing and setting variables, and ending a script early without failing it.
-/

/-- The keys of entries, each at its first place. -/
def keysOf (entries : List String) : List String :=
  (entries.map fun e => (Environment.splitEntry e).1).foldl (fun got key =>
    if got.contains key then got else got ++ [key]) []

/-- Shows a variable. -/
def showVariable (key : String) : Action Unit := do log (Environment.entry key ((← get).valueOf key))

/-- Shows the variable that an argument names, or gives it the value behind an equals sign. -/
def showOrAssign (arg : String) : Action Unit :=
  match Environment.splitEntry arg with
  | (key, none) => showVariable key
  | (key, some value) => Action.assign key value

/-- Shows or sets variables. -/
def env : Command := fun m args => do
  refuseModifier "env" m
  if args.isEmpty then
    for key in keysOf (← get).entries do showVariable key
  else
    for arg in args do showOrAssign arg

/-- Skips what is left of a script. -/
def skip : Command := fun m args => do
  refuseModifier "skip" m
  match args with
  | [] => throw (.skip "")
  | [reason] => throw (.skip reason)
  | _ => usage "skip [msg]"

/-- Ends a script early, as passed. -/
def stop : Command := fun m args => do
  refuseModifier "stop" m
  match args with
  | [] => log "stop"
  | [reason] => log s!"stop: {reason}"
  | _ => usage "stop [msg]"
  modify fun s => { s with stopped := true }

end Rehearsal.Command
