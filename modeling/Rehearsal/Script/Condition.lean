import Rehearsal.Program.Search
import Rehearsal.Script.Host

/-!
# Conditions

What a guard may ask about the machine a script runs on: the name of its system and of its processor, whether links can
be made, whether the network may be used, and whether a program is on the path. Names of other systems and processors
are known and do not hold. What is not known is asked of the host.

Programs are looked for on the path of the machine, not on that of the script, and each answer is kept for the whole run.
-/

namespace Rehearsal.Script

/-- What asks whether a program is on the path. -/
def programMark : String := "exec:"

/-- Whether a condition holds that is settled by a plan and a platform alone. -/
def settled? (plan : Plan) (p : Platform) (name : String) : Option Bool :=
  if name == "short" then some plan.short
  else if name == "net" then some !plan.short
  else if name == "link" then some p.hasHardLinks
  else if name == "symlink" then some p.hasSymbolicLinks
  else if name == p.osName || name == p.archName then some true
  else if Platform.knownSystems.contains name || Platform.knownArchs.contains name then some false
  else none

/-- Whether a program is on the path of the machine. -/
def hasProgram (name : String) : Action Bool := do
  let s ← get
  let scene := s.scene
  let pathList := (scene.outside.get? "PATH").getD ""
  let (found, programs) := scene.programs.lookup name fun name => (Program.locate? scene.disk pathList name).isSome
  set { s with scene := { scene with programs } }
  return found

/-- Whether a condition holds. -/
def condition (host : Host) (name : String) : Action Bool := do
  let s ← get
  match settled? s.plan s.platform name with
  | some holds => return holds
  | none =>
    if name.startsWith programMark then hasProgram (name.drop programMark.length).toString
    else match host.condition? with
      | some ask =>
        match ask name with
        | .ok holds => return holds
        | .error f => throw f
      | none => throw (.unknownCondition name)

end Rehearsal.Script
