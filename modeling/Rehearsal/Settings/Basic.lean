import Rehearsal.Table
import Rehearsal.Value

/-!
# Settings

The settings a project can make for its runs: switches, texts, and the number of seconds a script may take. A
settings file gives them as a table; `check` reads the table in its order, drops keys it does not know, so that an
older program accepts a newer file, and stops at the first value of the wrong kind or range.
-/

namespace Rehearsal

/-- A number of seconds as it was given: whole or in binary floating point. -/
inductive Seconds where
  | whole (n : Int)
  | float (x : Float)
  deriving Repr, Inhabited

namespace Seconds

/-- Whether a number of seconds is below zero. Something that is not a number is not. -/
def isNegative : Seconds → Bool
  | .whole n => n < 0
  | .float x => x < Float.ofBits 0

/-- Whether a number of seconds is zero. -/
def isZero : Seconds → Bool
  | .whole n => n == 0
  | .float x => x == Float.ofBits 0

/-- A number of seconds as text. -/
def text : Seconds → String
  | .whole n => (Integer.text? n).getD ""
  | .float x => Binary.shortest x

end Seconds

namespace Settings

/-- The switches. -/
inductive Switch where
  | updateScripts | testWork | verbose | short
  deriving DecidableEq, Repr, Inhabited

/-- The settings that are texts. -/
inductive TextKey where
  | glob | phasePrefix | commentPrefix | workdirRoot
  deriving DecidableEq, Repr, Inhabited

/-- What a setting is about. -/
inductive Key where
  | switch (which : Switch)
  | text (which : TextKey)
  | timeout
  deriving DecidableEq, Repr, Inhabited

/-- The name of a setting in a file. -/
def Key.name : Key → String
  | .switch .updateScripts => "update_scripts"
  | .switch .testWork => "test_work"
  | .switch .verbose => "verbose"
  | .switch .short => "short"
  | .text .glob => "glob"
  | .text .phasePrefix => "phase_prefix"
  | .text .commentPrefix => "comment_prefix"
  | .text .workdirRoot => "workdir_root"
  | .timeout => "timeout"

/-- Every setting there is. -/
def Key.all : List Key :=
  [.switch .updateScripts, .switch .testWork, .switch .verbose, .switch .short, .text .glob, .text .phasePrefix,
    .text .commentPrefix, .text .workdirRoot, .timeout]

/-- The setting of a name. -/
def Key.ofName? (name : String) : Option Key := Key.all.find? fun k => k.name == name

/-- Whether a text may not be empty. -/
def TextKey.needsText : TextKey → Bool
  | .phasePrefix | .commentPrefix => true
  | .glob | .workdirRoot => false

/-- One setting with its value. -/
inductive Setting where
  | switch (which : Switch) (on : Bool)
  | text (which : TextKey) (value : String)
  | timeout (seconds : Seconds)
  deriving Repr, Inhabited

/-- What a setting is about. -/
def Setting.key : Setting → Key
  | .switch which _ => .switch which
  | .text which _ => .text which
  | .timeout _ => .timeout

/-- What is wrong with a value. -/
inductive Problem where
  | expected (kind : String) (found : Value)
  | empty
  | negative (seconds : Seconds)
  deriving Repr, Inhabited

/-- The wording of a problem. -/
def Problem.message : Problem → String
  | .expected kind found => s!"expected {kind}, got {found.kind}"
  | .empty => "must not be empty"
  | .negative seconds => s!"must be non-negative, got {seconds.text}"

/-- A setting from a value of the right kind, whatever its range. -/
def Setting.ofValue : Key → Value → Except Problem Setting
  | .switch which, .bool on => .ok (.switch which on)
  | .switch _, v => .error (.expected "boolean" v)
  | .text which, .text s => .ok (.text which s)
  | .text _, v => .error (.expected "string" v)
  | .timeout, .int n => .ok (.timeout (.whole n))
  | .timeout, .float x => .ok (.timeout (.float x))
  | .timeout, v => .error (.expected "number" v)

/-- A setting whose value is in range. -/
def Setting.inRange : Setting → Except Problem Setting
  | .text which s => if which.needsText && s.isEmpty then .error .empty else .ok (.text which s)
  | .timeout seconds => if seconds.isNegative then .error (.negative seconds) else .ok (.timeout seconds)
  | s => .ok s

/-- Reads a table. The first bad value is told with its key. -/
def check : Table Value → Except (Key × Problem) (List Setting)
  | [] => .ok []
  | (name, value) :: rest =>
    match Key.ofName? name with
    | none => check rest
    | some key =>
      match Setting.ofValue key value >>= Setting.inRange with
      | .error problem => .error (key, problem)
      | .ok setting =>
        match check rest with
        | .ok settings => .ok (setting :: settings)
        | .error e => .error e

/-- What is said of a bad value in a file. -/
def badValue (file : String) (key : Key) (problem : Problem) : String :=
  s!"Invalid value for '{key.name}' in {file}: {problem.message}"

/-- The value of a switch, if it is set. -/
def switch? (which : Switch) (settings : List Setting) : Option Bool :=
  settings.findSome? fun
    | .switch w on => if w == which then some on else none
    | _ => none

/-- A text, if it is set. -/
def text? (which : TextKey) (settings : List Setting) : Option String :=
  settings.findSome? fun
    | .text w s => if w == which then some s else none
    | _ => none

/-- The number of seconds a script may take, if it is set. -/
def timeout? (settings : List Setting) : Option Seconds :=
  settings.findSome? fun
    | .timeout seconds => some seconds
    | _ => none

end Settings

end Rehearsal
