import Rehearsal.Program.Shell.Fields

/-!
# Built-in commands

The commands that a shell carries out itself, because they work on what the shell knows: its variables, its directory, its
traps, the loop it is in, and what it has started.
-/

namespace Rehearsal.Program.Shell

open Files

/-- Whether a command is special: where it cannot be carried out, the shell ends. -/
def isSpecialCommand (name : String) : Bool :=
  [":", ".", "break", "continue", "eval", "exec", "exit", "export", "readonly", "return", "set", "shift", "times", "trap",
    "unset"].contains name

/-- The exit code a text means. -/
def exitCode? (text : String) : Option Nat := (text.toNat?).map (· % 256)

/-- Ends the shell. -/
def exit (args : List String) : Step Unit := do
  match args with
  | [] => endWith (← get).status
  | text :: _ =>
    match exitCode? text with
    | some n => endWith n
    | none => fail s!"exit: Illegal number: {text}"

/-- Leaves loops. -/
def leaveLoops (make : Nat → Leaving) (args : List String) : Step Unit := do
  let n := ((args.head?.bind String.toNat?).getD 1)
  let s ← get
  leave 0
  if 0 < s.loops then modify fun s => { s with leaving := some (make (min n s.loops)) }

/-- Leaves a function; outside of one, the shell. -/
def back (args : List String) : Step Unit := do
  let s ← get
  let code := ((args.head?.bind exitCode?).getD s.status)
  if s.hidden.isSome then
    leave code
    modify fun s => { s with leaving := some .function }
  else endWith code

/-- Goes to another directory. -/
def cd (args : List String) : Step Unit := do
  let s ← get
  let target := match args with
    | "-" :: _ => (s.vars.get? "OLDPWD").getD ""
    | target :: _ => target
    | [] => (s.vars.get? "HOME").getD ""
  let path := Path.normalize (Path.join s.directory target)
  match (← running).disk.find true path with
  | .ok (names, .directory mode) =>
    if (Entry.directory mode).allows searchBit then
      change fun r => { r with disk := { r.disk with base := names } }
      set { (s.assign "OLDPWD" s.directory).assign directoryName path with
        directory := path, exported := s.exported ++ ["OLDPWD"], status := 0 }
      if args.head? == some "-" then lift (Run.writeLine path)
    else refused target
  | _ => refused target
where
  /-- Says that there is no way to a directory. -/
  refused (target : String) : Step Unit := do
    complain s!"cd: can't cd to {target}"
    leave misuseCode

/-- Marks variables as ones that programs see. -/
def export' (name : String) (args : List String) : Step Unit := do
  for a in args do
    let (key, value) := a.toList.span (· != '=')
    let variableName := String.ofList key
    if !isName key then fail s!"{name}: {variableName}: bad variable name"
    unless value.isEmpty do modify (State.assign variableName (String.ofList (value.drop 1)))
    if name == "export" then modify fun s => { s with exported := variableName :: s.exported }
  leave 0

/-- Hides variables as long as a function runs. -/
def local' (args : List String) : Step Unit := do
  match (← get).hidden with
  | none => fail "local: not in a function"
  | some _ =>
    for a in args do
      let (key, value) := a.toList.span (· != '=')
      let name := String.ofList key
      modify fun s => { s with hidden := s.hidden.map fun h => (name, s.vars.get? name) :: h }
      unless value.isEmpty do modify (State.assign name (String.ofList (value.drop 1)))
    leave 0

/-- Forgets variables or functions. -/
def unset (args : List String) : Step Unit := do
  for a in args do
    unless a.startsWith "-" do
      if !isName a.toList then fail s!"unset: {a}: bad variable name"
      modify fun s => { s with
        vars := s.vars.erase a
        functions := if args.head? == some "-f" then s.functions.erase a else s.functions }
  leave 0

/-- Sets options and arguments. -/
def options (args : List String) : Step Unit := do
  leave 0
  match args with
  | "--" :: rest => modify fun s => { s with args := rest }
  | a :: rest =>
    match a.toList with
    | '-' :: letters =>
      if letters.contains 'e' then modify fun s => { s with strict := true }
    | '+' :: letters =>
      if letters.contains 'e' then modify fun s => { s with strict := false }
    | _ => modify fun s => { s with args := a :: rest }
  | [] => pure ()

/-- Drops arguments. -/
def shift (args : List String) : Step Unit := do
  let n := ((args.head?.bind String.toNat?).getD 1)
  let s ← get
  if s.args.length < n then fail "shift: can't shift that many"
  set { s with args := s.args.drop n, status := 0 }

/-- A line without backslashes; a character behind one stays. -/
def dropBackslashes : List Char → List Char
  | '\\' :: c :: rest => c :: dropBackslashes rest
  | c :: rest => c :: dropBackslashes rest
  | [] => []

/-- Gives variables the fields of a line; the last one gets all that is left. -/
def shareOut (gaps : List Char) : List String → List Char → List (String × String)
  | [], _ => []
  | [name], cs =>
    let isBlank (c : Char) : Bool := gaps.contains c && (c == ' ' || c == '\t' || c == '\n')
    [(name, String.ofList ((cs.dropWhile isBlank).reverse.dropWhile isBlank).reverse)]
  | name :: more, cs =>
    let isBlank (c : Char) : Bool := gaps.contains c && (c == ' ' || c == '\t' || c == '\n')
    let cs := cs.dropWhile isBlank
    let field := cs.takeWhile fun c => !gaps.contains c
    let rest := (cs.drop field.length).dropWhile isBlank
    let rest := if rest.length + field.length == cs.length && (rest.head?.any gaps.contains) then rest.drop 1 else rest
    (name, String.ofList field) :: shareOut gaps more rest

/-- Reads a line of input into variables. -/
def read (args : List String) : Step Unit := do
  let raw := args.head? == some "-r"
  let names := args.filter fun a => !a.startsWith "-"
  if names.isEmpty then
    complain "read: arg count"
    leave misuseCode
  else
    let d := (← running).stdin
    let line := d.takeWhile (· != Bytes.newline)
    change fun r => { r with stdin := d.drop (line.length + 1) }
    let cs := Utf8.lossyChars line
    let s ← get
    for (name, value) in shareOut s.gaps names (if raw then cs else dropBackslashes cs) do
      modify (State.assign name value)
    leave (if line.length < d.length then 0 else 1)

/-- Says what signals do. -/
def trap (args : List String) : Step Unit := do
  leave 0
  match args with
  | [] => pure ()
  | [name] => set' none [name]
  | action :: names => set' (if action == "-" then none else some action) names
where
  /-- Has some signals do something. -/
  set' (action : Option String) (names : List String) : Step Unit := do
    for name in names do
      match signalOf? name with
      | none =>
        lift (Run.complain s!"trap: {name}: bad trap")
        leave 1
      | some n =>
        modify fun s => { s with traps := (action.map (n, ·)).toList ++ s.traps.filter (·.1 != n) }
        if n == interruptSignal then change fun r => { r with ignoring := action == some "" }

/-- Sends a signal to the shell, or to what it has started. -/
def signal (n : Nat) (target : String) : Step Unit := do
  let r ← running
  let found := target.toNat?.bind fun id => r.jobs.find? fun job => job.id == id && r.clock < job.ends
  if target == toString processId then
    unless n == 0 do feel n
  else match found with
    | some job =>
      unless n == 0 do
        let ended : Job := ⟨job.id, r.clock, signalled n⟩
        change fun r => { r with jobs := r.jobs.map fun j => if j.id == job.id then ended else j }
    | none =>
      complain "kill: No such process\n"
      leave 1

/-- Sends signals. -/
def kill (args : List String) : Step Unit := do
  leave 0
  match args with
  | "-s" :: name :: targets => send name targets
  | option :: targets =>
    if option.startsWith "-" then send (String.ofList (option.toList.drop 1)) targets else send "TERM" args
  | [] =>
    complain "kill: Usage: kill [-s sigspec | -signum | -sigspec] [pid | job]... or\nkill -l [exitstatus]"
    leave misuseCode
where
  /-- Sends a signal to targets. -/
  send (name : String) (targets : List String) : Step Unit := do
    match signalOf? name with
    | some n => for t in targets do signal n t
    | none =>
      complain s!"kill: invalid signal number or name: {name}"
      leave misuseCode

/-- Waits for what was started beside the shell. -/
def waitFor (args : List String) : Step Unit := do
  leave 0
  let s ← get
  let wanted := if args.isEmpty then s.started else args.filterMap String.toNat?
  for id in wanted do
    match (← running).jobs.find? (·.id == id) with
    | none => leave notFoundCode
    | some job =>
      if (← get).pending.isEmpty then
        wait (job.ends - (← running).clock)
        if (← get).pending.isEmpty then
          if !args.isEmpty then leave (if job.code < 0 then signalStatus job.code.natAbs else job.code.toNat)
          modify fun s => { s with started := s.started.filter (· != id) }

/-- Carries out one of the tools inside the shell. -/
def within (run : Run Int) : Step Unit := do leave (← lift run).toNat

/-- The built-in command of a name, if it is one that runs no others. -/
def builtin? (s : State) (name : String) : Option (List String → Step Unit) :=
  let blame (what : String) : Run Unit := Run.complain s!"{s.name}: {s.line}: {what}"
  let test (fault : Tools.TestFault) : Run Unit := blame s!"{name}: {fault.message}"
  match name with
  | ":" | "true" => some fun _ => leave 0
  | "false" => some fun _ => leave 1
  | "echo" => some fun args => within (match args with
    | "-n" :: rest => Tools.writeWords true false rest
    | _ => Tools.writeWords true true args)
  | "printf" => some fun args =>
    within (Tools.printf (fun m => blame s!"printf: {m}") "usage: printf format [arg ...]" args)
  | "test" => some fun args => within (Tools.test test args)
  | "[" => some fun args => within (Tools.bracket test args)
  | "pwd" => some fun _ => do
    lift (Run.writeLine s.directory)
    leave 0
  | "cd" => some cd
  | "exit" => some exit
  | "export" | "readonly" => some (export' name)
  | "local" => some local'
  | "unset" => some unset
  | "set" => some options
  | "shift" => some shift
  | "read" => some read
  | "trap" => some trap
  | "kill" => some kill
  | "wait" => some waitFor
  | "break" => some (leaveLoops .loop)
  | "continue" => some (leaveLoops .turn)
  | "return" => some back
  | "umask" => some fun _ => do
    lift (Run.writeLine "0022")
    leave 0
  | _ => none

end Rehearsal.Program.Shell
