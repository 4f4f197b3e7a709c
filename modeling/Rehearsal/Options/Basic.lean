import Rehearsal.Settings.Basic

/-!
# Options

What a run is asked to do on the command line, and how the settings of the project complete it: a setting can
switch something on but never off, and gives a value only to an option that was not given.
-/

namespace Rehearsal

/-- The value of an option: the option was not given, or given with a value, or given with a lone `--` for a value,
which counts as none but keeps the setting of the project away. -/
inductive Given (α : Type) where
  | absent
  | value (a : α)
  | nothing
  deriving DecidableEq, Repr, Inhabited

namespace Given

/-- The value, if there is one. -/
def value? {α : Type} : Given α → Option α
  | .value a => some a
  | _ => none

/-- Puts a value in the place of one that was not given. -/
def orValue {α : Type} (g : Given α) (setting : Option α) : Given α :=
  match g, setting with
  | .absent, some a => .value a
  | g, _ => g

end Given

/-- What a run is asked to do. -/
structure Options where
  dir : String
  glob : Given String
  run : Given String
  updateScripts : Bool
  testWork : Bool
  workdirRoot : Given String
  short : Bool
  timeout : Given Seconds
  phasePrefix : Given String
  commentPrefix : Given String
  verbose : Bool
  initConfig : Bool
  deriving Repr, Inhabited

namespace Options

/-- What a run does that is asked for nothing. -/
def default : Options :=
  { dir := ".", glob := .absent, run := .absent, updateScripts := false, testWork := false, workdirRoot := .absent,
    short := false, timeout := .absent, phasePrefix := .absent, commentPrefix := .absent, verbose := false,
    initConfig := false }

/-- Options completed by the settings of the project. -/
def withSettings (o : Options) (settings : List Settings.Setting) : Options :=
  let switch (which : Settings.Switch) (on : Bool) : Bool := on || (Settings.switch? which settings).getD false
  let text (which : Settings.TextKey) (g : Given String) : Given String := g.orValue (Settings.text? which settings)
  { o with
    updateScripts := switch .updateScripts o.updateScripts
    testWork := switch .testWork o.testWork
    verbose := switch .verbose o.verbose
    short := switch .short o.short
    glob := text .glob o.glob
    phasePrefix := text .phasePrefix o.phasePrefix
    commentPrefix := text .commentPrefix o.commentPrefix
    workdirRoot := text .workdirRoot o.workdirRoot
    timeout := o.timeout.orValue (Settings.timeout? settings) }

end Options

end Rehearsal
