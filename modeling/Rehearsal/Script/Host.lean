import Rehearsal.Registry
import Rehearsal.Script.Basic

/-!
# Hosts

A host is what a run of scripts is part of. It may answer conditions that no rule decides, bring commands and functions
of its own, and dress each script before its first line: give it variables, values, a directory, a server, and things to
be done when it is over.
-/

namespace Rehearsal

/-- A command: what it does under a modifier with arguments. -/
abbrev Command := Modifier → List String → Action Unit

/-- How a function of the host ends. -/
inductive Ending where
  | normal
  | fault (f : Fault)
  | exit (code : Option ExitCode)
  deriving Inhabited

/-- What a function of the host leaves. -/
structure Returned where
  stdout : String
  stderr : String
  ending : Ending
  deriving Inhabited

/-- A function of the host. -/
abbrev HostFunction := List String → StateM Script Returned

/-- What a host may dress a script in. -/
structure Dressing where
  platform : Platform
  workDir : String
  entries : List String
  directory : String
  values : Table String
  server : Http.Server
  deferred : List Deferred
  notes : List String
  deriving Inhabited

/-- How a host dresses a script. -/
abbrev Dresser := ExceptT Fault (StateM Dressing) Unit

/-- A host. -/
structure Host where
  condition? : Option (String → Except Fault Bool)
  dresser? : Option Dresser
  commands : Registry Command
  functions : Table HostFunction
  /-- Whether something is being measured that a function loses when it leaves for good. -/
  measuring : Bool
  deriving Inhabited

/-- The host that brings nothing. -/
def Host.none : Host :=
  { condition? := .none, dresser? := .none, commands := [], functions := [], measuring := false }

namespace Dressing

/-- The value of a variable. -/
def valueOf (d : Dressing) (key : String) : String := Environment.get d.platform d.entries key

/-- Gives a variable a value, if its name may be one. -/
def assign (key value : String) : Dresser := do
  if Environment.isName key then
    modify fun d => { d with entries := d.entries ++ [Environment.entry key value] }
  else throw (.accident (.host .value (Environment.badName key)))

/-- Arranges for something to be done when the script is over. -/
def arrange (later : Deferred) : Dresser := modify fun d => { d with deferred := later :: d.deferred }

end Dressing

end Rehearsal
