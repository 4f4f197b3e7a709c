import Rehearsal.Program.Shell.Word

/-!
# Commands

A list is read into items. An item is a pipeline with what connects it to the one before it, and a pipeline is commands
that hand on what they write. A command is a simple one, or it holds lists of its own: a group, a branch, a loop, a choice.
-/

namespace Rehearsal.Program.Shell

/-- Where a command reads from or writes to. -/
inductive Redirection where
  | copy (fd source : Nat)
  | write (fd : Nat) (path : Word) (append : Bool)
  | read (path : Word)
  deriving Repr, Inhabited

/-- When an item is run: always, or as the one before it came out. -/
inductive Connective where
  | always | whenTrue | whenFalse
  deriving DecidableEq, Repr, Inhabited

mutual

/-- A command. -/
inductive Command where
  /-- Words, with the number of their line. -/
  | simple (line : Nat) (words : List Word)
  | group (body : List Item)
  /-- A list for a shell of its own. -/
  | fork (body : List Item)
  | branch (test yes no : List Item)
  /-- A list that is run as long as another comes out as wanted. -/
  | loop (wanted : Bool) (test body : List Item)
  /-- A list that is run for each of some words, or for each argument. -/
  | each (name : String) (words : Option (List Word)) (body : List Item)
  | choice (subject : Word) (arms : List Arm)
  | define (name : String) (body : Command)
  | redirected (command : Command) (redirections : List Redirection)

/-- A pipeline: whether its outcome is turned round, its commands, and whether it is run beside the shell. -/
inductive Item where
  | mk (connective : Connective) (negated : Bool) (stages : List Command) (beside : Bool)

/-- A list with the patterns it is chosen by. -/
inductive Arm where
  | mk (patterns : List Word) (body : List Item)

end

instance : Inhabited Command := ⟨.simple 0 []⟩

instance : Inhabited Item := ⟨.mk .always false [] false⟩

/-- A step in reading: it takes tokens, and may find that they are no list. -/
abbrev Reader := StateT (List Placed) (Except Fault)

namespace Reader

/-- The next token. -/
def peek : Reader (Option Token) := return (← get).head?.map (·.2)

/-- The line of the next token. -/
def line : Reader Nat := return ((← get).head?.map (·.1)).getD 0

/-- Takes a token. -/
def take : Reader Unit := modify List.tail

/-- How a token is called where it does not belong. -/
def called : Option Token → String
  | none | some (.fault _) => endOfText
  | some (.redirect ..) => "redirection"
  | some (.mark s) => if s == "\n" then "newline" else s!"\"{s}\""
  | some (.word w) =>
    match w.literal? with
    | some s => if reserved.contains s then s!"\"{s}\"" else "word"
    | none => "word"
where
  /-- The words that mean something where a command may stand. -/
  reserved : List String :=
    ["!", "case", "do", "done", "elif", "else", "esac", "fi", "for", "if", "in", "then", "until", "while", "\x7b", "\x7d"]

/-- Refuses the next token. -/
def refuse {α : Type} (expected : Option String) : Reader α := do
  match ← peek with
  | some (.fault f) => throw f
  | t => throw (.unexpected (called t) expected)

/-- Whether the next token is a mark. -/
def isMark (s : String) : Reader Bool := do
  match ← peek with
  | some (.mark m) => return m == s
  | _ => return false

/-- Whether the next token is a word without quotes. -/
def isWord (s : String) : Reader Bool := do
  match ← peek with
  | some (.word w) => return w.literal? == some s
  | _ => return false

/-- Takes a word that has to stand here. -/
def expectWord (s : String) : Reader Unit := do
  if ← isWord s then take else refuse (some s!"\"{s}\"")

/-- Takes a mark that has to stand here. -/
def expectMark (s : String) : Reader Unit := do
  if ← isMark s then take else refuse (some s!"\"{s}\"")

/-- Passes over newlines. -/
def skipLines : Reader Unit := modify fun ts =>
  ts.dropWhile fun
    | (_, .mark s) => s == "\n"
    | _ => false

/-- The words that end a list. -/
def closers : List String := ["do", "done", "elif", "else", "esac", "fi", "then", "\x7d"]

/-- Whether a list ends here. -/
def atEnd : Reader Bool := do
  match ← peek with
  | none => return true
  | some (.mark s) => return s == ")" || s == ";;"
  | some (.word w) => return (w.literal?.any closers.contains)
  | _ => return false

/-- The number a word is, if it is a digit. -/
def digit? : Word → Option Nat
  | [.text [c] false] => if c.isDigit then some (c.toNat - 48) else none
  | _ => none

/-- The redirections that stand here. -/
def redirections : Nat → Reader (List Redirection)
  | 0 => return []
  | n + 1 => do
    match ← peek with
    | some (.redirect fd mark) => do
      take
      match ← peek with
      | some (.word w) => do
        take
        let r ← match mark with
          | "<" => pure (Redirection.read w)
          | ">&" | "<&" =>
            match digit? w with
            | some source => pure (.copy (fd.getD (if mark == ">&" then 1 else 0)) source)
            | none => if w.literal? == some "-" then pure (.copy 9 9) else throw .badUse
          | _ => pure (.write (fd.getD 1) w (mark == ">>"))
        return r :: (← redirections n)
      | _ => refuse none
    | _ => return []

/-- A command with its redirections, if there are any. -/
def withRedirections (c : Command) (rs : List Redirection) : Command := if rs.isEmpty then c else .redirected c rs

/-- The words and the redirections of a simple command. -/
def parts : Nat → Reader (List Word × List Redirection)
  | 0 => return ([], [])
  | n + 1 => do
    match ← peek with
    | some (.word w) => do
      take
      let (ws, rs) ← parts n
      return (w :: ws, rs)
    | some (.redirect ..) => do
      let r ← redirections 1
      let (ws, rs) ← parts n
      return (ws, r ++ rs)
    | _ => return ([], [])

/-- Words up to the end of a line. -/
def wordsToEnd : Nat → Reader (List Word)
  | 0 => return []
  | n + 1 => do
    match ← peek with
    | some (.word w) => do
      take
      return w :: (← wordsToEnd n)
    | _ => return []

/-- The patterns of an arm, up to the bracket behind them. -/
def patterns : Nat → Reader (List Word)
  | 0 => return []
  | n + 1 => do
    match ← peek with
    | some (.word w) => do
      take
      if ← isMark "|" then
        take
        return w :: (← patterns n)
      expectMark ")"
      return [w]
    | _ => refuse none

/-- A chain as one command. -/
def alone (chain : List Item) : Command :=
  match chain with
  | [.mk _ false [c] false] => c
  | _ => .group chain

mutual

/-- The items of a list up to where it ends. The bound is on the tokens that are left. -/
def items : Nat → Reader (List Item)
  | 0 => return []
  | n + 1 => do
    skipLines
    if ← atEnd then return []
    let chain ← chain .always n
    let next ← peek
    let rest (chain : List Item) : Reader (List Item) := do
      take
      return chain ++ (← items n)
    match next with
    | some (.mark "&") => rest [.mk .always false [alone chain] true]
    | some (.mark ";") | some (.mark "\n") => rest chain
    | _ => if ← atEnd then return chain else refuse none

/-- Pipelines that are connected. -/
def chain (connective : Connective) : Nat → Reader (List Item)
  | 0 => return []
  | n + 1 => do
    let item ← pipeline connective n
    let go (c : Connective) : Reader (List Item) := do
      take
      skipLines
      return item :: (← chain c n)
    if ← isMark "&&" then go .whenTrue
    else if ← isMark "||" then go .whenFalse
    else return [item]

/-- Commands that hand on what they write. -/
def pipeline (connective : Connective) : Nat → Reader Item
  | 0 => refuse none
  | n + 1 => do
    if ← isWord "!" then
      take
      return .mk connective true (← stages n) false
    return .mk connective false (← stages n) false

/-- The commands of a pipeline. -/
def stages : Nat → Reader (List Command)
  | 0 => refuse none
  | n + 1 => do
    let c ← command n
    if ← isMark "|" then
      take
      skipLines
      return c :: (← stages n)
    return [c]

/-- A list that has to hold something. -/
def body : Nat → Reader (List Item)
  | 0 => refuse none
  | n + 1 => do
    let found ← items n
    if found.isEmpty then refuse none else return found

/-- A command. -/
def command : Nat → Reader Command
  | 0 => refuse none
  | n + 1 => do
    let compound (c : Command) : Reader Command := do return withRedirections c (← redirections n)
    if ← isMark "(" then
      take
      let b ← body n
      expectMark ")"
      compound (.fork b)
    else if ← isWord "\x7b" then
      take
      let b ← body n
      expectWord "\x7d"
      compound (.group b)
    else if ← isWord "if" then
      take
      compound (← branches n)
    else if ← isWord "while" then
      take
      compound (← loop true n)
    else if ← isWord "until" then
      take
      compound (← loop false n)
    else if ← isWord "for" then
      take
      compound (← each n)
    else if ← isWord "case" then
      take
      compound (← choice n)
    else if ← atEnd then refuse none
    else
      let start ← line
      let (ws, rs) ← parts (← get).length
      if ws.isEmpty && rs.isEmpty then refuse none
      if ← isMark "(" then
        match ws, rs with
        | [w], [] => definition w n
        | _, _ => refuse none
      else return withRedirections (.simple start ws) rs

/-- A function of a name, behind it. -/
def definition (w : Word) : Nat → Reader Command
  | 0 => refuse none
  | n + 1 => do
    take
    expectMark ")"
    skipLines
    match w.literal? with
    | some name => if isName name.toList then return .define name (← command n) else throw .functionName
    | none => throw .functionName

/-- A branch, behind its first word. -/
def branches : Nat → Reader Command
  | 0 => refuse none
  | n + 1 => do
    let test ← body n
    expectWord "then"
    let yes ← body n
    if ← isWord "elif" then
      take
      return .branch test yes [.mk .always false [← branches n] false]
    if ← isWord "else" then
      take
      let no ← body n
      expectWord "fi"
      return .branch test yes no
    expectWord "fi"
    return .branch test yes []

/-- A loop, behind its first word. -/
def loop (wanted : Bool) : Nat → Reader Command
  | 0 => refuse none
  | n + 1 => do
    let test ← body n
    expectWord "do"
    let b ← body n
    expectWord "done"
    return .loop wanted test b

/-- A loop over words, behind its first word. -/
def each : Nat → Reader Command
  | 0 => refuse none
  | n + 1 => do
    let name ← match ← peek with
      | some (.word w) =>
        match w.literal? with
        | some name => if isName name.toList then pure name else throw .loopName
        | none => throw .loopName
      | _ => throw .loopName
    take
    skipLines
    let words ← if ← isWord "in" then do
        take
        let ws ← wordsToEnd (← get).length
        unless (← isMark ";") || (← isMark "\n") do refuse none
        take
        pure (some ws)
      else do
        if ← isMark ";" then take
        pure none
    skipLines
    expectWord "do"
    let b ← body n
    expectWord "done"
    return .each name words b

/-- A choice, behind its first word. -/
def choice : Nat → Reader Command
  | 0 => refuse none
  | n + 1 => do
    match ← peek with
    | some (.word subject) => do
      take
      skipLines
      expectWord "in"
      return .choice subject (← arms n)
    | _ => refuse (some "word")

/-- The arms of a choice, with the word that ends it. -/
def arms : Nat → Reader (List Arm)
  | 0 => refuse none
  | n + 1 => do
    skipLines
    if ← isWord "esac" then
      take
      return []
    if ← isMark "(" then take
    let ps ← patterns (← get).length
    let b ← items n
    skipLines
    if ← isMark ";;" then take
    else unless ← isWord "esac" do refuse (some "\";;\"")
    return .mk ps b :: (← arms n)

end

/-- The items on a line. A list that is inside a command may take more lines. The bound is on the tokens that are
left. -/
def itemsOfLine : Nat → Reader (List Item)
  | 0 => return []
  | n + 1 => do
    if (← get).isEmpty then return []
    if ← isMark "\n" then
      take
      return []
    let chain ← chain .always n
    match ← peek with
    | none => return chain
    | some (.mark "&") => do
      take
      return .mk .always false [alone chain] true :: (← itemsOfLine n)
    | some (.mark ";") => do
      take
      return chain ++ (← itemsOfLine n)
    | some (.mark "\n") => do
      take
      return chain
    | _ => refuse none

/-- The lines of a list, up to one that cannot be read: the number of the line, and the reason. The bound is the number of
tokens. -/
def lines : Nat → List Placed → List (List Item) × Option (Nat × Fault)
  | 0, _ | _, [] => ([], none)
  | n + 1, t :: rest =>
    match (itemsOfLine (16 * rest.length + 32)).run (t :: rest) with
    | .error f => ([], some (((t :: rest).getLast?.map (·.1)).getD 1, f))
    | .ok (found, left) =>
      let (more, fault) := lines n left
      (found :: more, fault)

end Reader

/-- Reads a list, line by line. -/
def parse (text : String) : List (List Item) × Option (Nat × Fault) :=
  let cs := text.toList
  let ts := tokens 1 cs.length cs
  Reader.lines ts.length ts

end Rehearsal.Program.Shell
