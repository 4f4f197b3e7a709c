import Rehearsal.Files.Glob
import Rehearsal.Options.Basic

/-!
# The plan of a run

What a run is told: which scripts to take, how their lines are marked, and what to do about work directories,
golden files and time. A plan is fixed before the first script begins. A text that is left empty means the usual
one, and naming a directory for work directories means that they are kept.
-/

namespace Rehearsal

/-- The plan of a run. -/
structure Plan where
  dir : String
  glob : String
  testWork : Bool
  workdirRoot : Option String
  ignoreMissedCoverage : Bool
  updateScripts : Bool
  phasePrefix : String
  commentPrefix : String
  verbose : Bool
  short : Bool
  timeout : Option Seconds
  /-- How many seconds a program that is told to stop may take before it is killed. -/
  grace : Float
  deriving Repr, Inhabited

namespace Plan

/-- The pattern of script files that is taken when none is given. -/
def usualGlob : String := "*.hls"

/-- The text that begins a phase when none is given. -/
def usualPhasePrefix : String := "#"

/-- The text that begins a comment when none is given. -/
def usualCommentPrefix : String := "~"

/-- How many seconds programs usually get to stop. -/
def usualGrace : Float := Binary.ofDecimal false 5 0

/-- The plan that nothing has been said about. -/
def usual : Plan :=
  { dir := ".", glob := usualGlob, testWork := false, workdirRoot := none, ignoreMissedCoverage := false,
    updateScripts := false, phasePrefix := usualPhasePrefix, commentPrefix := usualCommentPrefix, verbose := false,
    short := false, timeout := none, grace := usualGrace }

/-- A text, or the usual one in place of the empty text. -/
def orUsual (s usual : String) : String := if s.isEmpty then usual else s

/-- A plan in which nothing is left empty. -/
def completed (p : Plan) : Plan :=
  let root := p.workdirRoot.filter fun r => !r.isEmpty
  { p with
    glob := orUsual p.glob usualGlob
    phasePrefix := orUsual p.phasePrefix usualPhasePrefix
    commentPrefix := orUsual p.commentPrefix usualCommentPrefix
    workdirRoot := root
    testWork := p.testWork || root.isSome }

/-- The plan that options ask for. A time limit of zero is none. -/
def ofOptions (o : Options) : Plan :=
  completed
    { usual with
      dir := o.dir
      glob := o.glob.value?.getD ""
      testWork := o.testWork
      workdirRoot := o.workdirRoot.value?
      updateScripts := o.updateScripts
      phasePrefix := o.phasePrefix.value?.getD ""
      commentPrefix := o.commentPrefix.value?.getD ""
      verbose := o.verbose
      short := o.short
      timeout := o.timeout.value?.filter fun s => !s.isZero }

/-- The pattern of paths that the scripts of a plan fit. -/
def pattern (p : Plan) : String := Path.join p.dir p.glob

/-- The script files of a plan, in order. -/
def scripts (p : Plan) (d : Files.Disk) : List String := (Files.Glob.paths d p.pattern).mergeSort

end Plan

/-- The name of the script in a file: its last name without its extension. -/
def scriptName (file : String) : String := String.ofList (Path.stem (Path.baseChars file.toList))

end Rehearsal
