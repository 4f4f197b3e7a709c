import Rehearsal.Program.Tools.Files
import Rehearsal.Program.Tools.Sort
import Rehearsal.Program.Tools.Test

/-!
# Tools

The small programs of the stage. Each takes its arguments and its variables, works on its input and the files, and
ends with an exit code.
-/

namespace Rehearsal.Program.Tools

/-- The span a text asks to sleep for: a number of seconds, with a unit or without. -/
def sleepSpan? (s : String) : Option Time :=
  let cs := s.toList
  let (number, scale) := match cs.getLast? with
    | some 's' => (cs.dropLast, 1)
    | some 'm' => (cs.dropLast, 60)
    | some 'h' => (cs.dropLast, 3600)
    | _ => (cs, 1)
  let (whole, rest) := number.span Char.isDigit
  let places := rest.drop 1
  if (whole.isEmpty && places.isEmpty) || !(rest.isEmpty || rest.head? == some '.') || !places.all Char.isDigit then
    none
  else
    let six := (places ++ List.replicate 6 '0').take 6
    some (scale * (Integer.ofDigits 10 ((whole ++ six).map fun c => c.toNat - 48)))

/-- Says what is wrong with the arguments, and where help is. -/
def misused (faults : List String) : Run Int := do
  for fault in faults do Run.blame fault
  let name := (← get).name
  Run.complain s!"Try '{name} --help' for more information."
  return 1

/-- Does nothing for a while. -/
def sleep (args : List String) : Run Int := do
  match args.mapM sleepSpan? with
  | some (span :: more) =>
    Run.pass (more.foldl (· + ·) span)
    return 0
  | some [] => misused ["missing operand"]
  | none => misused ((args.filter fun a => (sleepSpan? a).isNone).map fun a => s!"invalid time interval '{a}'")

/-- The variables in lines. -/
def writeVariables (vars : Table String) : Run Int := do
  Run.write (Utf8.encode (String.join (vars.map fun (k, v) => k ++ "=" ++ v ++ "\n")))
  return 0

/-- Writes the values of variables, or all variables. -/
def printenv (vars : Table String) (args : List String) : Run Int := do
  if args.isEmpty then writeVariables vars
  else
    for name in args do
      if let some value := vars.get? name then Run.writeLine value
    return if args.all vars.contains then 0 else 1

/-- The tool of a name. -/
def find? (name : String) (vars : Table String) : Option (List String → Run Int) :=
  let blame (fault : TestFault) : Run Unit := Run.blame fault.message
  match name with
  | "[" => some (bracket blame)
  | "basename" => some basename
  | "cat" => some cat
  | "chmod" => some chmod
  | "cp" => some cp
  | "dirname" => some dirname
  | "echo" => some echo
  | "env" => some fun _ => writeVariables vars
  | "false" => some fun _ => return 1
  | "head" => some head
  | "ln" => some ln
  | "ls" => some ls
  | "mkdir" => some mkdir
  | "mv" => some mv
  | "od" => some od
  | "printenv" => some (printenv vars)
  | "printf" => some (printf Run.blame "missing operand")
  | "pwd" => some fun _ => pwd
  | "rm" => some rm
  | "rmdir" => some rmdir
  | "seq" => some seq
  | "sleep" => some sleep
  | "sort" => some sort
  | "tail" => some tail
  | "tee" => some tee
  | "test" => some (test blame)
  | "touch" => some touch
  | "tr" => some tr
  | "true" => some fun _ => return 0
  | "uniq" => some uniq
  | "wc" => some wc
  | _ => none

/-- The names of the tools. -/
def names : List String :=
  ["[", "basename", "cat", "chmod", "cp", "dirname", "echo", "env", "false", "head", "ln", "ls", "mkdir", "mv", "od",
    "printenv", "printf", "pwd", "rm", "rmdir", "seq", "sleep", "sort", "tail", "tee", "test", "touch", "tr", "true",
    "uniq", "wc"]

end Rehearsal.Program.Tools
