import Rehearsal.Program.Shell.Builtin

/-!
# Running a list

A shell runs the items of a list one after another. The words of a simple command become fields first; then it is a function,
a built-in command, or a program, and its status decides what is run of what is connected to it. What has to run by itself
(the stages of a pipeline, a list in brackets, commands whose output is wanted) changes files, but nothing that the shell
knows.
-/

namespace Rehearsal.Program.Shell

open Files

/-- How a program is run: with variables, its name and its arguments. -/
abbrev Launcher := Table String → String → List String → Run (Except Refusal Int)

/-- How a list in a text is run. -/
abbrev Runner := String → Step Unit

/-- What goes where for a command. -/
structure Wiring where
  stdin : Bytes
  out : Sink
  err : Sink
  deriving Repr, Inhabited

/-- The absolute path of a file. -/
def absolute (p : String) : Step String := do return Path.join (Path.ofNames (← running).disk.base) p

/-- How a shell says that a file cannot be used. -/
def reasonFor (missing : String) : Files.Error → String
  | .refused .notFound _ _ | .refused .notDirectory _ _ | .nullCharacter => missing
  | .refused why _ _ => why.reason

/-- Follows a redirection. The result says whether that was possible. -/
def redirect (w : Wiring) (run : String → Step String) : Redirection → Step (Option Wiring)
  | .copy fd source => do
    let sink := if source == 2 then w.err else w.out
    return some (if fd == 2 then { w with err := sink } else if fd == 1 then { w with out := sink } else w)
  | .write fd path append => do
    let p ← text run path
    if p == "/dev/null" then return some (directed fd (.file p))
    let full ← absolute p
    let found := (← running).disk.read full
    let old := if append then found.toOption.getD [] else []
    match ← lift (Run.files (Access.write full old)) with
    | .ok () => return some (directed fd (.file full))
    | .error e =>
      let why := reasonFor "Directory nonexistent" e
      complain s!"cannot create {p}: {why}"
      return none
  | .read path => do
    let p ← text run path
    match (← running).disk.read p with
    | .ok stdin => return some { w with stdin }
    | .error e =>
      let why := reasonFor "No such file" e
      complain s!"cannot open {p}: {why}"
      return none
where
  /-- The wiring with an output that goes to a sink. -/
  directed (fd : Nat) (sink : Sink) : Wiring := if fd == 2 then { w with err := sink } else { w with out := sink }

/-- Follows redirections from the left. -/
def redirectAll (run : String → Step String) : Wiring → List Redirection → Step (Option Wiring)
  | w, [] => return some w
  | w, r :: rest => do
    match ← redirect w run r with
    | some w => redirectAll run w rest
    | none => return none

/-- What is wired now. -/
def wiring : Step Wiring := do
  let r ← running
  return ⟨r.stdin, r.out, r.err⟩

/-- Whether a redirection is one of the input. -/
def Redirection.isInput : Redirection → Bool
  | .read _ => true
  | _ => false

/-- Runs a step with redirections. Where one cannot be followed the step is not taken. -/
def redirected (run : String → Step String) (stays : Bool) (rs : List Redirection) (step : Step Unit) : Step Unit := do
  let old ← wiring
  match ← redirectAll run old rs with
  | none => leave misuseCode
  | some w =>
    let isInput := rs.any Redirection.isInput
    change fun r => { r with stdin := w.stdin, out := w.out, err := w.err }
    step
    unless stays do
      change fun r => { r with stdin := if isInput then old.stdin else r.stdin, out := old.out, err := old.err }

/-- The traps that a shell of its own begins with: what is ignored stays ignored. -/
def inherited (s : State) : State :=
  { s with traps := s.traps.filter (·.2.isEmpty), pending := [], started := [], leaving := none }

/-- Undoes what a shell of its own has done to the place it ran at. -/
def restored (before after : Running) : Running :=
  { after with
    name := before.name
    disk := { after.disk with base := before.disk.base }
    out := before.out
    err := before.err
    ignoring := before.ignoring
    piped := if after.out == before.out then after.piped else before.piped }

/-- Runs a step by itself. The shell learns its status, and no more. -/
def apart (step : Step Unit) : Step Unit := do
  let s ← get
  let before ← running
  match ← cutShort ((step.run).run (inherited s)) with
  | .ok (_, after) =>
    change (restored before)
    leave after.status
  | .error code =>
    change (restored before)
    afterCut code

/-- Runs a step with its output into a pipe. The result is what it has written. -/
def capture (step : Step Unit) : Step Bytes := do
  let before ← running
  change fun r => { r with out := .pipe, piped := [] }
  step
  let d := (← running).piped.bytes
  change fun r => { r with out := before.out, piped := before.piped }
  return d

/-- What commands write, without null characters and without newlines at its end. -/
def outputOf (run : Runner) (commands : String) : Step String := do
  let d ← capture (apart (run commands))
  return String.ofList (Utf8.lossyChars (Bytes.trimRight Bytes.newline (d.filter (· != 0))))

/-- Runs a step beside the shell. It does not feel interrupts and has no input. -/
def beside (step : Step Unit) : Step Unit := do
  let before ← running
  change fun r => { r with ignoring := true, stop := { r.stop with interrupt := none }, stdin := [] }
  apart step
  let after ← running
  let id := processId + after.jobs.length + 1
  let job : Job := ⟨id, after.clock, (← get).status⟩
  change fun r => { r with
    clock := before.clock, stop := before.stop, ignoring := before.ignoring, stdin := before.stdin
    jobs := r.jobs ++ [job] }
  modify fun s => { s with started := s.started ++ [id], lastJob := some id, status := 0 }

/-- Runs a program. A file that the system does not know how to run is a list for a shell. -/
def program (launch : Launcher) (run : Runner) (vars : Table String) (name : String) (args : List String) :
    Step Unit := do
  let before ← running
  match ← cutShort (launch vars name args) with
  | .error code =>
    change (restored before)
    afterCut code
  | .ok (.ok code) =>
    change (restored before)
    leave (code % 256).toNat
  | .ok (.error .execFormat) =>
    match (← running).disk.read name with
    | .ok d =>
      apart do
        modify fun s => { s with name, args, functions := [] }
        run (Utf8.decodeLossy d)
    | .error _ => leave noAccessCode
  | .ok (.error why) =>
    if why == .notFound || why == .notDirectory then
      complain s!"{name}: not found"
      leave notFoundCode
    else
      complain s!"{name}: {why.reason}"
      leave noAccessCode

/-- Carries out a command that is given by its fields, with variables that are set for it alone. The flag says whether
functions count. -/
def invoke (launch : Launcher) (run : Runner) (call : Command → Step Unit) (functions : Bool) (pairs : Table String)
    (name : String) (args : List String) : Step Unit := do
  let s ← get
  let assigned : State := pairs.foldl (fun s (k, v) => s.assign k v) s
  let vars := ({ assigned with exported := s.exported ++ pairs.keys } : State).variables
  match if functions then s.functions.get? name else none with
  | some body => do
    modify fun s => { s with args, hidden := some [], loops := 0 }
    call body
    modify fun after =>
      let old := (after.hidden.getD []).foldl (fun vars (k, v) => match v with
        | some v => vars.insert k v
        | none => vars.erase k) after.vars
      { after with
        args := s.args, hidden := s.hidden, loops := s.loops, vars := old
        leaving := if after.leaving == some .function then none else after.leaving }
  | none =>
    match builtin? s name with
    | some builtin => do
      if isSpecialCommand name || name == "read" || name == "cd" then
        modify fun s => if isSpecialCommand name then pairs.foldl (fun s (k, v) => s.assign k v) s else s
      builtin args
    | none => program launch run vars name args

/-- Whether what is being left ends the loop at hand. One that goes on has been reached. -/
def endsLoop : Step Bool := do
  match (← get).leaving with
  | none => return false
  | some .function => return true
  | some (.turn k) => reached k (.turn (k - 1)) false
  | some (.loop k) => reached k (.loop (k - 1)) true
where
  /-- The loop is the last to be left, or there are more around it. -/
  reached (k : Nat) (next : Leaving) (ends : Bool) : Step Bool := do
    if k ≤ 1 then
      modify fun s => { s with leaving := none }
      return ends
    modify fun s => { s with leaving := some next }
    return true

mutual

/-- Runs items one after another. Where failures are looked at, as in the test of a loop, they do not end the shell. The bound
is on all that is run. -/
def items (launch : Launcher) (tested : Bool) : Nat → List Item → Step Unit
  | 0, _ | _, [] => return
  | n + 1, .mk connective negated stages besides :: rest => do
    let s ← get
    if s.leaving.isSome then return
    if (connective == .whenTrue && s.status != 0) || (connective == .whenFalse && s.status == 0) then
      items launch tested n rest
    else
      let decides := match rest with
        | .mk next _ _ _ :: _ => next == .always
        | [] => true
      let isTested := tested || negated || !decides
      match stages with
      | [c] => if besides then beside (command launch isTested n c) else command launch isTested n c
      | _ => pipeline launch isTested n stages
      if negated then modify fun s => { s with status := if s.status == 0 then 1 else 0 }
      let after ← get
      if after.strict && after.status != 0 && !isTested && !besides && after.leaving.isNone then throw ()
      items launch tested n rest

/-- Runs the stages of a pipeline, each with what the one before has written. -/
def pipeline (launch : Launcher) (tested : Bool) : Nat → List Command → Step Unit
  | 0, _ | _, [] => return
  | n + 1, [c] => apart (command launch tested n c)
  | n + 1, c :: rest => do
    let d ← capture (apart (command launch tested n c))
    let left := (← running).stdin
    change fun r => { r with stdin := d }
    pipeline launch tested n rest
    change fun r => { r with stdin := left }

/-- Runs a command. -/
def command (launch : Launcher) (tested : Bool) : Nat → Command → Step Unit
  | 0, _ => return
  | n + 1, c => do
    let output := outputOf (list launch n)
    match c with
    | .simple line words => do
      modify fun s => { s with line }
      wait commandTime
      simple launch n words
      settle launch n
    | .group body => items launch tested n body
    | .fork body => apart (items launch tested n body)
    | .branch test yes no => do
      items launch true n test
      if (← get).leaving.isNone then
        if (← get).status == 0 then items launch tested n yes
        else
          leave 0
          items launch tested n no
    | .loop wanted test body => do
      modify fun s => { s with loops := s.loops + 1 }
      turns launch tested wanted test body 0 n
      modify fun s => { s with loops := s.loops - 1 }
    | .each name words body => do
      let values ← match words with
        | some ws => fieldsOf output ws
        | none => pure (← get).args
      leave 0
      modify fun s => { s with loops := s.loops + 1 }
      forEach launch tested name body n values
      modify fun s => { s with loops := s.loops - 1 }
    | .choice subject arms => do
      let cs := (← text output subject).toList
      leave 0
      choose launch tested cs n arms
    | .define name body => do
      modify fun s => { s with functions := s.functions.insert name body }
      leave 0
    | .redirected c rs => do
      let stays := match c with
        | .simple _ [w] => w.literal? == some "exec"
        | _ => false
      if let .simple line _ := c then modify fun s => { s with line }
      redirected output stays rs (command launch tested n c)

/-- Runs a simple command. -/
def simple (launch : Launcher) : Nat → List Word → Step Unit
  | 0, _ => return
  | n + 1, words => do
    let output := outputOf (list launch n)
    let assigned := (words.map assignment?).takeWhile Option.isSome
    let before := (← get).status
    let args ← fieldsOf output (words.drop assigned.length)
    if args.isEmpty then leave 0
    let mut pairs : Table String := []
    for (key, w) in assigned.filterMap id do
      let value ← text output w
      pairs := pairs.insert key value
      if args.isEmpty then modify (State.assign key value)
    match args with
    | [] => pure ()
    | "eval" :: args => list launch n (" ".intercalate args)
    | "exec" :: args => do
      match args with
      | [] => leave 0
      | name :: args => do
        invoke launch (list launch n) (command launch false n) false pairs name args
        throw ()
    | "command" :: args => do
      match args with
      | "-v" :: name :: _ => locate name
      | name :: args => invoke launch (list launch n) (command launch false n) false pairs name args
      | [] => leave 0
    | "." :: file :: _ => do
      match (← running).disk.read file with
      | .ok d => list launch n (Utf8.decodeLossy d)
      | .error _ => fail s!".: cannot open {file}: No such file"
    | name :: args => do
      if name == "return" || name == "exit" then leave before
      invoke launch (list launch n) (command launch false n) true pairs name args
where
  /-- Says what a name means. -/
  locate (name : String) : Step Unit := do
    let s ← get
    if (s.functions.contains name) || (builtin? s name).isSome then
      lift (Run.writeLine name)
      leave 0
    else if Tools.names.contains name then
      lift (Run.writeLine s!"/usr/bin/{name}")
      leave 0
    else leave notFoundCode

/-- Runs a loop. The status is that of the last turn. -/
def turns (launch : Launcher) (tested wanted : Bool) (test body : List Item) (status : Nat) : Nat → Step Unit
  | 0 => return
  | n + 1 => do
    items launch true n test
    if ← endsLoop then return
    if ((← get).status == 0) == wanted then
      items launch tested n body
      if ← endsLoop then return
      turns launch tested wanted test body (← get).status n
    else leave status

/-- Runs a list for each of some values. -/
def forEach (launch : Launcher) (tested : Bool) (name : String) (body : List Item) : Nat → List String → Step Unit
  | 0, _ | _, [] => return
  | n + 1, value :: rest => do
    modify (State.assign name value)
    items launch tested n body
    unless ← endsLoop do forEach launch tested name body n rest

/-- Runs the first arm whose pattern fits. -/
def choose (launch : Launcher) (tested : Bool) (cs : List Char) : Nat → List Arm → Step Unit
  | 0, _ | _, [] => return
  | n + 1, .mk patterns body :: rest => do
    let mut isFound := false
    for p in patterns do
      let ms := patternOf (← chunksOf (outputOf (list launch n)) p)
      if Glob.fits ms cs then isFound := true
    if isFound then items launch tested n body else choose launch tested cs n rest

/-- Runs the lists that signals wait for. They leave the status as it was. -/
def settle (launch : Launcher) : Nat → Step Unit
  | 0 => return
  | n + 1 => do
    match (← get).pending with
    | [] => return
    | commands :: rest => do
      let status := (← get).status
      modify fun s => { s with pending := rest }
      list launch n commands
      leave status
      settle launch n

/-- Runs a list in a text, line by line. -/
def list (launch : Launcher) : Nat → String → Step Unit
  | 0, _ => return
  | n + 1, commands => do
    let (ls, fault) := parse commands
    everyLine launch n ls
    if let some (line, f) := fault then
      if (← get).leaving.isNone then
        modify fun s => { s with line }
        fail f.message

/-- Runs lines. -/
def everyLine (launch : Launcher) : Nat → List (List Item) → Step Unit
  | 0, _ | _, [] => return
  | n + 1, line :: rest => do
    items launch false n line
    everyLine launch n rest

end

/-- The bound on what a shell runs. -/
def patience : Nat := 1000000

/-- Runs the text of a list in a shell. What the shell was told to do at its end is done last. -/
def perform (launch : Launcher) (s : State) (commands : String) : Run Int := do
  let (_, s) ← ((list launch patience commands).run).run s
  match s.traps.lookup 0 with
  | none => return s.status
  | some last => do
    let (_, after) ← ((list launch patience last).run).run { s with traps := s.traps.filter (·.1 != 0), leaving := none }
    return after.status

/-- Reads the options in front of what a shell is given: whether a list follows, whether failures end it, and the rest. -/
def startOptions (isList strict : Bool) : List String → Bool × Bool × List String
  | [] => (isList, strict, [])
  | a :: rest =>
    match a.toList with
    | '-' :: c :: more =>
      if a == "--" then (isList, strict, rest)
      else startOptions (isList || (c :: more).contains 'c') (strict || (c :: more).contains 'e') rest
    | _ => (isList, strict, a :: rest)

/-- A shell with its arguments: a list, or the name of a file that holds one, or nothing, and then the list is its input. -/
def start (launch : Launcher) (vars : Table String) (args : List String) : Run Int := do
  let (isList, strict, args) := startOptions false false args
  let own := (← get).name
  let disk := (← get).disk
  let fresh (name : String) (args : List String) : State := { State.fresh name args vars disk with strict }
  match isList, args with
  | true, commands :: rest => perform launch (fresh (rest.headD own) (rest.drop 1)) commands
  | true, [] =>
    Run.blame "0: -c requires an argument"
    return misuseCode
  | false, file :: rest =>
    match disk.read file with
    | .error _ =>
      Run.blame s!"0: cannot open {file}: No such file"
      return misuseCode
    | .ok d => perform launch (fresh file rest) (Utf8.decodeLossy d)
  | false, [] => perform launch (fresh own []) (Utf8.decodeLossy (← Run.takeInput))

end Rehearsal.Program.Shell
