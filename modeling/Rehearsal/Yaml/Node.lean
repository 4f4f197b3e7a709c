import Rehearsal.Yaml.Plain
import Rehearsal.Yaml.Reader

/-!
# The nodes of a document

Tokens make scalars, sequences and mappings, each with its tag. A node that has a name may be repeated by it further
on, and also within itself: so nodes are kept in a row, and what a node contains is told by places in that row. A
document is such a row with a root, or nothing.

Of a fault in the order of the tokens and a fault in reading them the one is told that is come to first.
-/

namespace Rehearsal.Yaml

/-- The place of a node in the row of nodes. -/
abbrev Place := Nat

/-- What a node contains. -/
inductive Content where
  | scalar (codes : Codes)
  | sequence (items : List Place)
  | mapping (pairs : List (Place × Place))
  deriving Repr, Inhabited

/-- A node of a document. -/
structure Node where
  tag : Tag
  content : Content
  deriving Repr, Inhabited

/-- The nodes of a document, and the place of its root. -/
structure Tree where
  nodes : Array Node
  root : Place
  deriving Repr, Inhabited

namespace Node

/-- What is known while nodes are made: the tokens that are left and the fault behind them, what the handles of tags
stand for, the nodes, the places that names stand for, and how many more sequences and mappings may be opened within
those that are open. -/
structure Composing where
  tokens : List Token
  fault : Option ReadError
  handles : List (String × String)
  nodes : Array Node
  names : List (String × Place)
  levels : Nat
  deriving Repr, Inhabited

/-- A step in making nodes. -/
abbrev Composer := StateT Composing (Except ReadError)

/-- Fails. -/
def bad {α : Type} : Composer α := throw .malformed

/-- The next token. Behind the last one that could be read is the fault. -/
def peek : Composer Token := do
  let s ← get
  match s.tokens with
  | t :: _ => return t
  | [] =>
    match s.fault with
    | some e => throw e
    | none => return .streamEnd

/-- Takes a token. -/
def take : Composer Unit := modify fun s => { s with tokens := s.tokens.tail }

/-- Takes a token if it is next. -/
def accept (t : Token) : Composer Bool := do
  if (← peek) == t then
    take
    return true
  return false

/-- Puts a node behind the others. -/
def add (node : Node) : Composer Place := do
  let s ← get
  set { s with nodes := s.nodes.push node }
  return s.nodes.size

/-- The scalar that stands where nothing is written. -/
def addEmpty : Composer Place := add ⟨.null, .scalar []⟩

/-- Puts a node behind the others, and lets a name stand for it if it has one. -/
def addNamed (name : Option String) (node : Node) : Composer Place := do
  let place ← add node
  if let some a := name then modify fun s => { s with names := (a, place) :: s.names }
  return place

/-- Sets what a node contains. -/
def fill (place : Place) (content : Content) : Composer Unit :=
  modify fun s => { s with nodes := s.nodes.modify place fun node => { node with content } }

/-- The most sequences and mappings that may be open within each other. -/
def maxLevels : Nat := 489

/-- Makes a node that contains others, which are made one level further in. The place of the node is given to it. -/
def within (place : Composer Place) (content : Composer Content) : Composer Place := do
  let levels := (← get).levels
  if levels == 0 then throw .tooDeep
  let place ← place
  modify fun s => { s with levels := levels - 1 }
  let content ← content
  fill place content
  modify fun s => { s with levels }
  return place

/-- The full name of a tag. -/
def fullTag : Option String → String → Composer String
  | none, suffix => return suffix
  | some handle, suffix => do
    match (← get).handles.lookup handle with
    | some start => return start ++ suffix
    | none => bad

/-- The name in front of a node, if there is one. -/
def anchor? : Composer (Option String) := do
  match ← peek with
  | .anchor name =>
    take
    return some name
  | _ => return none

/-- The tag in front of a node, if there is one. -/
def tag? : Composer (Option String) := do
  match ← peek with
  | .tag handle suffix =>
    take
    return some (← fullTag handle suffix)
  | _ => return none

/-- The name and the tag in front of a node, in either order. -/
def properties : Composer (Option String × Option String) := do
  match ← anchor? with
  | some name => return (some name, ← tag?)
  | none =>
    let t ← tag?
    return (← anchor?, t)

/-- The tag of a scalar. An exclamation mark alone makes it count as plain. -/
def scalarTag (given : Option String) (plain : Bool) (codes : Codes) : Tag :=
  match given with
  | none => if plain then Plain.tagOfCodes codes else .str
  | some t => if t == "!" then Plain.tagOfCodes codes else Tag.ofText t

/-- The tag of a sequence or a mapping, if it has none of its own. -/
def collectionTag (given : Option String) (usual : Tag) : Tag :=
  match given with
  | none => usual
  | some t => if t == "!" then usual else Tag.ofText t

/-- Whether a token ends a key or a value of a block. -/
def endsPair (t : Token) : Bool := t == .key || t == .value || t == .blockEnd

/-- Whether a token ends a value in brackets. -/
def endsFlow (close t : Token) : Bool := t == .flowEntry || t == close

mutual

/-- A node. In a block it may be a block itself, and after a key also a sequence without a block of its own. The bound
is on the tokens that are left. -/
def node (inBlock afterKey : Bool) : Nat → Composer Place
  | 0 => bad
  | n + 1 => do
    if let .alias name ← peek then
      take
      match (← get).names.lookup name with
      | some found => return found
      | none => bad
    else
      let (name, given) ← properties
      let next ← peek
      if let some a := name then
        if ((← get).names.lookup a).isSome then bad
      nodeBody inBlock afterKey name given next n

/-- A node behind its name and its tag, given the token it begins with. -/
def nodeBody (inBlock afterKey : Bool) (name given : Option String) (next : Token) : Nat → Composer Place
  | 0 => bad
  | n + 1 => do
    let sequence : Composer Place := addNamed name ⟨collectionTag given .seq, .sequence []⟩
    let mapping : Composer Place := addNamed name ⟨collectionTag given .map, .mapping []⟩
    match next with
    | .scalar codes plain =>
      take
      addNamed name ⟨scalarTag given plain codes, .scalar codes⟩
    | .sequenceStart =>
      take
      within sequence (.sequence <$> flowItems true n)
    | .mappingStart =>
      take
      within mapping (.mapping <$> flowPairs true n)
    | t =>
      if afterKey && t == .blockEntry then
        within sequence (.sequence <$> looseItems n)
      else if inBlock && t == .blockSequence then
        take
        within sequence (.sequence <$> blockItems n)
      else if inBlock && t == .blockMapping then
        take
        within mapping (.mapping <$> blockPairs n)
      else if name.isSome || given.isSome then
        addNamed name ⟨match given with | none => .null | some _ => scalarTag given false [], .scalar []⟩
      else bad

/-- The items of a sequence in a block of its own. -/
def blockItems : Nat → Composer (List Place)
  | 0 => bad
  | n + 1 => do
    if ← accept .blockEnd then return []
    unless ← accept .blockEntry do bad
    let next ← peek
    let item ← if next == .blockEntry || next == .blockEnd then addEmpty else node true false n
    return item :: (← blockItems n)

/-- The items of a sequence that stands in the block of its key. -/
def looseItems : Nat → Composer (List Place)
  | 0 => bad
  | n + 1 => do
    unless ← accept .blockEntry do return []
    let next ← peek
    let item ← if next == .blockEntry || endsPair next then addEmpty else node true false n
    return item :: (← looseItems n)

/-- The pairs of a mapping in a block. -/
def blockPairs : Nat → Composer (List (Place × Place))
  | 0 => bad
  | n + 1 => do
    if ← accept .blockEnd then return []
    unless ← accept .key do bad
    let key ← if endsPair (← peek) then addEmpty else node true true n
    let value ← blockValue n
    return (key, value) :: (← blockPairs n)

/-- The value of a key in a block. -/
def blockValue : Nat → Composer Place
  | 0 => bad
  | n + 1 => do
    if ← accept .value then
      if endsPair (← peek) then addEmpty else node true true n
    else addEmpty

/-- A key in brackets, behind its mark, and its value. -/
def flowPair (close : Token) : Nat → Composer (Place × Place)
  | 0 => bad
  | n + 1 => do
    let next ← peek
    let key ← if next == .value || endsFlow close next then addEmpty else node false false n
    if ← accept .value then
      let value ← if endsFlow close (← peek) then addEmpty else node false false n
      return (key, value)
    return (key, ← addEmpty)

/-- The items of a sequence in brackets. An item with a key is a mapping of one pair. -/
def flowItems (first : Bool) : Nat → Composer (List Place)
  | 0 => bad
  | n + 1 => do
    if ← accept .sequenceEnd then return []
    unless first do
      unless ← accept .flowEntry do bad
      if ← accept .sequenceEnd then return []
    let item ←
      if ← accept .key then
        within (add ⟨.map, .mapping []⟩) ((fun pair => .mapping [pair]) <$> flowPair .sequenceEnd n)
      else node false false n
    return item :: (← flowItems false n)

/-- The pairs of a mapping in brackets. A node without the mark of a key is a key without a value. -/
def flowPairs (first : Bool) : Nat → Composer (List (Place × Place))
  | 0 => bad
  | n + 1 => do
    if ← accept .mappingEnd then return []
    unless first do
      unless ← accept .flowEntry do bad
      if ← accept .mappingEnd then return []
    let pair ←
      if ← accept .key then flowPair .mappingEnd n
      else
        let key ← node false false n
        pure (key, ← addEmpty)
    return pair :: (← flowPairs false n)

end

/-- What the handles stand for that need no directive. -/
def usualHandles : List (String × String) := [("!", "!"), ("!!", Tag.start)]

/-- The directives in front of a document: whether the version was given, and the handles. The bound is the number of
tokens. -/
def directives (versionGiven : Bool) (handles : List (String × String)) : Nat → Composer (List (String × String))
  | 0 => bad
  | n + 1 => do
    match ← peek with
    | .directive d =>
      take
      match d with
      | .version major => if versionGiven || major != 1 then bad else directives true handles n
      | .tag handle start =>
        if (handles.lookup handle).isSome then bad else directives versionGiven ((handle, start) :: handles) n
      | .unknown => directives versionGiven handles n
    | _ => return handles

/-- The root of a document, if there is one. -/
def document : Composer (Option Place) := do
  let n := 4 * (← get).tokens.length + 4
  match ← peek with
  | .streamEnd => return none
  | .directive _ | .documentStart => do
    let handles ← directives false [] n
    modify fun s => { s with handles := handles ++ usualHandles }
    unless ← accept .documentStart do bad
    match ← peek with
    | .directive _ | .documentStart | .documentEnd | .streamEnd => return some (← addEmpty)
    | _ => return some (← node true false n)
  | _ => return some (← node true false n)

/-- Takes the marks of the end of a document. The bound is the number of tokens. -/
def documentEnds : Nat → Composer Unit
  | 0 => return ()
  | n + 1 => do
    if ← accept .documentEnd then documentEnds n

/-- The root of the only document, if there is one. -/
def onlyDocument : Composer (Option Place) := do
  let root ← document
  documentEnds ((← get).tokens.length + 1)
  unless (← peek) == .streamEnd do bad
  return root

end Node

/-- The nodes of a text, if it is one document or nothing. -/
def Tree.ofText? (s : String) : Except ReadError (Option Tree) :=
  let (ts, fault) := tokens s
  match Node.onlyDocument.run ⟨ts, fault, Node.usualHandles, #[], [], Node.maxLevels⟩ with
  | .ok (root, s) => .ok (root.map fun root => ⟨s.nodes, root⟩)
  | .error e => .error e

end Rehearsal.Yaml
