import Rehearsal.Script.Phase
import Rehearsal.Text.Kind

/-!
# The body of a script

The lines of a script are performed one after the other until one fails, or stops the script. What a line is shows at its
front: it may be the header of a phase, a comment, or a command with its guards and its modifier. How commands are carried
out and conditions judged is left to the caller.
-/

namespace Rehearsal

/-! ## Guards

A line may begin with conditions in brackets, each with an exclamation mark in front where it must not hold:

    [linux] [!short] exec sleep 1

The command behind them is carried out where all of them come out as wanted. They are asked from the left, and none after
the first that does not.
-/

/-- A condition, and whether it has to hold. -/
structure Guard where
  condition : String
  wanted : Bool
  deriving DecidableEq, Repr, Inhabited

namespace Guard

/-- The guard that the text between brackets is. -/
def ofInside (cs : List Char) : Guard :=
  match trimChars cs with
  | '!' :: rest => ⟨String.ofList (trimChars rest), false⟩
  | cs => ⟨String.ofList cs, true⟩

/-- The guard that a word is, if it is one. -/
def ofWord? (word : String) : Option Guard :=
  match word.toList with
  | '[' :: rest => if rest.getLast? == some ']' then some (ofInside rest.dropLast) else none
  | _ => none

/-- Whether a guard comes out as wanted. A condition that cannot be judged is a misuse. -/
def holds (ask : String → Action Bool) (g : Guard) : Action Bool := do
  match ← attempt (ask g.condition) with
  | .ok answer => return answer == g.wanted
  | .error f => if f.isFailure then throw f else Action.misuse (.badCondition g.condition f.message)

/-- The words behind the guards of a line, if all of them come out as wanted. -/
def select (ask : String → Action Bool) : List String → Action (Option (List String))
  | [] => Action.misuse .guardAlone
  | word :: rest =>
    match ofWord? word with
    | none => return some (word :: rest)
    | some g => do
      if rest.isEmpty then Action.misuse .guardAlone
      if ← g.holds ask then select ask rest else return none

end Guard

namespace Script

/-! ## Lines -/

/-- What the lines of a script are performed with: how a condition is judged, and how a command is carried out. -/
structure Performer where
  ask : String → Action Bool
  carryOut : Modifier → List String → Action Unit

/-- Cuts a line into arguments, variables replaced. -/
def parse (line : String) : Action (List String) := do
  modify fun s => { s with line }
  match Words.split (← get).expand line with
  | .ok args => return args
  | .error e => throw (.words e)

/-- Carries out what stands behind the guards of a line. -/
def command (p : Performer) : List String → Action Unit
  | [] => pure ()
  | word :: rest =>
    match Modifier.ofWord? word with
    | none => p.carryOut .plain (word :: rest)
    | some m => if rest.isEmpty then Action.misuse (.modifierAlone m) else p.carryOut m rest

/-- Performs a line that is neither a header nor a comment. -/
def performCommand (p : Performer) (line : String) : Action Unit := do
  let args ← parse line
  unless args.isEmpty do
    modify (·.write s!"> {line}\n")
    match ← Guard.select p.ask args with
    | some words => command p words
    | none => pure ()

/-- Performs a line. -/
def performLine (p : Performer) (line : String) : Action Unit := do
  modify fun s => { s with lineNumber := s.lineNumber + 1 }
  let plan := (← get).plan
  if line.startsWith plan.phasePrefix then modify (·.openPhase line)
  else if line.startsWith plan.commentPrefix then pure ()
  else performCommand p line

/-- Performs lines until one stops the script. -/
def performLines (p : Performer) : List String → Action Unit
  | [] => pure ()
  | line :: rest => do
    performLine p line
    unless (← get).stopped do performLines p rest

end Script

end Rehearsal
