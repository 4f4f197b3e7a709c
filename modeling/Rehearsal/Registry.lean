import Rehearsal.Table

/-!
# Registries of commands

A registry maps verbs to handlers, of whatever kind the host has. Registering a verb again replaces its
handler; the empty text is no verb. A look-up in a script asks the built-in verbs first, so a host cannot
replace one of them.
-/

namespace Rehearsal

/-- A map from verbs to handlers, in the order the verbs were first registered. -/
abbrev Registry (Handler : Type) := Table Handler

/-- Where the meaning of a verb comes from. -/
inductive Verb (Handler : Type) where
  | builtin
  | host (handler : Handler)
  deriving Repr, Inhabited

namespace Registry

/-- The built-in verbs. -/
def builtins : List String :=
  ["call", "cd", "chmod", "cmp", "cmpenv", "cp", "env", "exec", "exists", "grep", "http", "mkdir", "rm", "skip",
    "status", "stderr", "stdin", "stdout", "stop", "symlink", "unquote", "wait"]

/-- What is said when the empty text is registered. -/
def noName : String := "command name must not be empty"

/-- Registers a handler, unless the verb is empty. -/
def register {Handler : Type} (r : Registry Handler) (name : String) (h : Handler) : Option (Registry Handler) :=
  if name.isEmpty then none else some (Table.insert name h r)

/-- The verbs in order of their text. -/
def names {Handler : Type} (r : Registry Handler) : List String := (Table.keys r).mergeSort fun a b => a ≤ b

/-- A registry of pairs, unless one of the verbs is empty. -/
def ofPairs? {Handler : Type} (pairs : List (String × Handler)) : Option (Registry Handler) :=
  let t := Table.ofPairs pairs
  if Table.contains "" t then none else some t

/-- The handler of a verb where one registry stands before another. -/
def layered {Handler : Type} (first second : Registry Handler) (name : String) : Option Handler :=
  match Table.get? name first with
  | some h => some h
  | none => Table.get? name second

/-- What a verb means: a built-in command, or else a command of the host. -/
def meaning? {Handler : Type} (r : Registry Handler) (name : String) : Option (Verb Handler) :=
  layered (builtins.map fun verb => (verb, .builtin)) (r.map fun (verb, h) => (verb, .host h)) name

end Registry

end Rehearsal
