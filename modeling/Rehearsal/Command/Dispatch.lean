import Rehearsal.Command.Compare
import Rehearsal.Command.Files
import Rehearsal.Command.Basic
import Rehearsal.Command.Programs
import Rehearsal.Command.Request

/-!
# Finding and judging commands

The first word of a command names it; what is built in comes before what the host brings. How a command ends is judged
here, once for all of them: behind a question mark a mismatch is no more than a line in the transcript, and an accident
that nothing made a misuse becomes one. Failures go through as they are.
-/

namespace Rehearsal.Command

/-- The built-in commands. -/
def builtin (host : Host) : Registry Command :=
  [("call", call host), ("cd", cd), ("chmod", chmod), ("cmp", cmp), ("cmpenv", cmpenv), ("cp", cp), ("env", env),
    ("exec", exec), ("exists", existence), ("grep", grep), ("http", http), ("mkdir", mkdir), ("rm", rm),
    ("skip", skip), ("status", status), ("stderr", stderr), ("stdin", stdin), ("stdout", stdout), ("stop", stop),
    ("symlink", symlink), ("unquote", unquote), ("wait", wait)]

/-- The verbs of the built-in commands are the ones that no host can replace. -/
theorem keys_builtin (host : Host) : (builtin host).keys = Registry.builtins := rfl

/-- An accident as a misuse of the command that met it. -/
def ofAccident (verb : String) (a : Accident) : Misuse := if a.isMild then .accident a else .uncaught verb a

/-- Judges how a command ended. -/
def judge (m : Modifier) (verb : String) : Fault → Action Unit
  | .mismatch e =>
    if m == .neutral then log s!"[ignored failure: {e.message}]" else throw (.mismatch e)
  | .accident a => Action.misuse (ofAccident verb a)
  | f => throw f

/-- Carries out the command that words describe. -/
def dispatch (host : Host) (m : Modifier) : List String → Action Unit
  | [] => pure ()
  | verb :: args =>
    match Registry.layered (builtin host) host.commands verb with
    | none => throw (.unknownCommand verb)
    | some command => do
      match ← attempt (command m args) with
      | .ok () => pure ()
      | .error f => judge m verb f

end Rehearsal.Command
