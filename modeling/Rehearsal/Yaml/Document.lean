import Rehearsal.Text.Nesting
import Rehearsal.Value
import Rehearsal.Yaml.Node

/-!
# The value of a document

Every node has a value that its tag decides. Scalars have theirs at once; a sequence or a mapping is first a container
without content, which is filled later, after those that were met before it. So a container may contain itself, and
faults are found level by level: of two faults the one nearer to the root is told.

A mapping takes in the pairs of mappings that are merged into it in front of its own, which win. Keys have to be
values that contain no others.

A document's value is a row of containers and a root. `Document.value` writes it out as a tree, from any part that is
asked for; where a container is met within itself the tree ends.
-/

namespace Rehearsal.Yaml

/-- Why a document has no value. -/
inductive Error where
  | malformed
  | noCharacter
  | tooLarge
  | tooDeep
  | number (e : Integer.Error)
  | float (text : Codes)
  /-- A number to the base of sixty has a digit whose weight is greater than every float. -/
  | floatTooLarge
  | calendar (e : Calendar.Error)
  | truth (text : Codes)
  | noDigits
  | noMoment
  /-- A moment is taken from a mapping. -/
  | momentOfMapping
  /-- The text of a mapping is taken from itself. -/
  | endless
  deriving DecidableEq, Repr, Inhabited

/-- What is said of a document that is not well formed. -/
def malformedMessage : String := "Invalid YAML frontmatter: the document is not well formed"

/-- The wording of the error. -/
def Error.message : Error → String
  | .malformed => malformedMessage
  | .noCharacter => "chr() arg not in range(0x110000)"
  | .tooLarge => "Python int too large to convert to C int"
  | .number e => e.message
  | .float text => s!"could not convert string to float: {Quoted.codes text}"
  | .floatTooLarge => "int too large to convert to float"
  | .calendar e => e.message
  | .truth text => Quoted.codes text
  | .noDigits => "string index out of range"
  | .noMoment => "'NoneType' object has no attribute 'groupdict'"
  | .tooDeep | .endless => Nesting.message
  | .momentOfMapping => "expected string or bytes-like object, got 'list'"

namespace Node

/-- Codes without underscores. -/
def dropUnderscores (cs : Codes) : Codes := cs.filter (· != '_'.toNat)

/-- The sign in front of a number, which has to have something to stand in front of, and the number. -/
def signOf : Codes → Except Error (Bool × Codes)
  | [] => .error .noDigits
  | c :: rest =>
    if c == '-'.toNat || c == '+'.toNat then .ok (c == '-'.toNat, rest) else .ok (false, c :: rest)

/-- A whole number, or the reason why codes are none. -/
def number (base : Nat) (cs : Codes) : Except Error Int := (Integer.ofCodes base cs).mapError .number

/-- The parts of codes between colons. -/
def partsOf (cs : Codes) : List Codes := Line.splitOn ':'.toNat cs

/-- The value of a whole number: to base two or sixteen behind a mark, to base eight behind a zero, to base sixty with
colons, else to base ten. -/
def intValue (text : Codes) : Except Error Int := do
  let (negative, body) ← signOf (dropUnderscores text)
  let signed (n : Int) : Int := if negative then -n else n
  if body == Codes.ofText "0" then return 0
  else if (Codes.ofText "0b").isPrefixOf body then return signed (← number 2 (body.drop 2))
  else if (Codes.ofText "0x").isPrefixOf body then return signed (← number 16 (body.drop 2))
  else if body.isEmpty then throw .noDigits
  else if (Codes.ofText "0").isPrefixOf body then return signed (← number 8 body)
  else if body.contains ':'.toNat then
    let groups ← (partsOf body).mapM (number 10)
    return signed (groups.foldl (fun sum group => 60 * sum + group) 0)
  else return signed (← number 10 body)

/-- A number with a point, or the reason why codes are none. -/
def binary (cs : Codes) : Except Error Float :=
  match cs.text?.bind Binary.ofText? with
  | some x => .ok x
  | none => .error (.float cs)

/-- The sum of digits to the base of sixty, the last of which has the given weight. -/
def sumOfDigits (sum : Float) (weight : Nat) : List Float → Except Error Float
  | [] => .ok sum
  | x :: rest =>
    match Binary.ofInt? weight with
    | none => .error .floatTooLarge
    | some w => sumOfDigits (sum + x * w) (60 * weight) rest

/-- The value of a number with a point. -/
def floatValue (text : Codes) : Except Error Float := do
  let (negative, body) ← signOf (dropUnderscores text).lower
  let signed (x : Float) : Float := if negative then -x else x
  if body == Codes.ofText ".inf" then return signed (Binary.ofDecimal false 1 400)
  else if body == Codes.ofText ".nan" then return Float.ofBits 0x7FF8000000000000
  else if body.contains ':'.toNat then
    let groups ← (partsOf body).mapM binary
    return signed (← sumOfDigits (Binary.ofDecimal false 0 0) 1 groups.reverse)
  else return signed (← binary body)

/-- The value of a character in the base of 64. -/
def sextet? (c : Char) : Option Nat :=
  let n := c.toNat
  if 'A' ≤ c && c ≤ 'Z' then some (n - 65)
  else if 'a' ≤ c && c ≤ 'z' then some (n - 71)
  else if '0' ≤ c && c ≤ '9' then some (n + 4)
  else if c == '+' then some 62
  else if c == '/' then some 63
  else none

/-- The bytes of a text in the base of 64, given the sextets that are not yet used and the number of padding signs
behind them. Other characters are passed over. -/
def bytesFrom (got : List Nat) (pads : Nat) : List Char → Option Bytes
  | [] => if got.isEmpty then some [] else none
  | c :: rest =>
    if c == '=' then
      if 2 ≤ got.length then
        if 4 ≤ got.length + pads + 1 then some (flush got) else bytesFrom got (pads + 1) rest
      else bytesFrom got pads rest
    else match sextet? c with
      | none => bytesFrom got pads rest
      | some v =>
        if got.length == 3 then (bytesFrom [] 0 rest).map (flush (got ++ [v]) ++ ·)
        else bytesFrom (got ++ [v]) 0 rest
where
  /-- The whole bytes in some sextets. -/
  flush : List Nat → Bytes
    | [a, b] => [(4 * a + b / 16).toUInt8]
    | [a, b, c] => [(4 * a + b / 16).toUInt8, (16 * (b % 16) + c / 4).toUInt8]
    | [a, b, c, d] => [(4 * a + b / 16).toUInt8, (16 * (b % 16) + c / 4).toUInt8, (64 * (c % 4) + d).toUInt8]
    | _ => []

/-- The bytes a text stands for. -/
def bytesValue (text : Codes) : Except Error Bytes :=
  if text.any (128 ≤ ·) then .error .malformed
  else match bytesFrom [] 0 text.chars with
    | some d => .ok d
    | none => .error .malformed

/-- The microseconds that digits behind a point stand for; from the seventh on they do not count. -/
def micros (places : List Char) : Nat :=
  let six := places.take 6
  Plain.number (six ++ List.replicate (6 - six.length) '0')

/-- The day or the moment that numbers stand for. -/
def momentValue (t : Timestamp) : Except Calendar.Error Value := do
  match t.time with
  | none => return .day (← Calendar.day? t.year t.month t.day)
  | some (hour, minute, second, places) =>
    if let some minutes := t.offset then
      if 1440 ≤ minutes.natAbs then throw (.offset minutes)
    let day ← Calendar.day? t.year t.month t.day
    let clock ← Calendar.clock? hour minute second (if places.isEmpty then 0 else micros places)
    return .moment ⟨day, clock, t.offset⟩

/-- The value of a scalar that is a moment. -/
def timestampValue (text : Codes) : Except Error Value :=
  match Plain.timestamp? text.chars with
  | none => .error .noMoment
  | some t => (momentValue t).mapError .calendar

/-- The value of a scalar whose tag is not one of something that contains values. -/
def scalarValue (tag : Tag) (text : Codes) : Except Error Value :=
  match tag with
  | .null => .ok .null
  | .bool =>
    let word := text.lower
    match word.text?.bind fun s => Plain.truths.lookup s with
    | some b => .ok (.bool b)
    | none => .error (.truth word)
  | .int => (intValue text).map .int
  | .float => (floatValue text).map .float
  | .binary => (bytesValue text).map .bytes
  | .timestamp => timestampValue text
  | .str => .ok (.ofCodes text)
  | .omap | .pairs | .set | .seq | .map | .merge | .value | .other => .error .malformed

/-- Whether a tag is one of something that contains values. -/
def contains (t : Tag) : Bool := t == .omap || t == .pairs || t == .set || t == .seq || t == .map

end Node

/-! ## Containers -/

/-- A value, or the place of a container in the row of containers. -/
inductive Cell where
  | value (v : Value)
  | container (i : Nat)
  deriving Repr, Inhabited

/-- What a container holds. -/
inductive Container where
  | list (items : List Cell)
  | pairs (items : List (Cell × Cell))
  | set (items : List Value)
  | table (items : List (Value × Cell))
  deriving Repr, Inhabited

/-- The value of a document: its containers, and what it is as a whole. -/
structure Document where
  containers : Array Container
  root : Cell
  deriving Repr, Inhabited

namespace Document

/-- Puts a cell under a key. A key that is there keeps its place and its spelling. -/
def put (key : Value) (cell : Cell) : List (Value × Cell) → List (Value × Cell)
  | [] => [(key, cell)]
  | (k, c) :: rest => if k.sameKey key then (k, cell) :: rest else (k, c) :: put key cell rest

/-- The tree of a cell within the containers around it. The bound is the number of containers that are not around
it. -/
def tree (d : Document) (around : List Nat) : Nat → Cell → Value
  | _, .value v => v
  | 0, .container _ => .null
  | n + 1, .container i =>
    let container := d.containers[i]?.getD (.list [])
    if around.contains i then
      .around (match container with | .table _ => true | _ => false)
    else
      let inner := d.tree (i :: around) n
      match container with
      | .list items => .list (items.map inner)
      | .pairs items => .list (items.map fun (k, v) => .tuple [inner k, inner v])
      | .set items => .set items
      | .table items => .table (items.map fun (k, c) => (k, inner c))

/-- The value of a cell. -/
def value (d : Document) (cell : Cell) : Value := d.tree [] (d.containers.size + 1) cell

/-- The pairs of a cell that is a table. -/
def table? (d : Document) : Cell → Option (List (Value × Cell))
  | .container i =>
    match d.containers[i]? with
    | some (.table items) => some items
    | _ => none
  | .value _ => none

end Document

/-! ## Making values -/

/-- What is known while values are made: the nodes, the cells of those that were met, the containers, and those of them
that are not yet filled, with the nodes they are for. -/
structure Making where
  nodes : Array Node
  cells : Array (Option Cell)
  containers : Array Container
  waiting : List (Place × Nat)
  deriving Repr, Inhabited

/-- A step in making values. -/
abbrev Maker := StateT Making (Except Error)

namespace Maker

/-- Fails. -/
def bad {α : Type} : Maker α := throw .malformed

/-- The node at a place. -/
def nodeAt (place : Place) : Maker Node := do
  match (← get).nodes[place]? with
  | some node => return node
  | none => bad

/-- The tag at a place. -/
def tagAt (place : Place) : Maker Tag := Node.tag <$> nodeAt place

/-- Changes the node at a place. -/
def change (place : Place) (f : Node → Node) : Maker Unit :=
  modify fun s => { s with nodes := s.nodes.modify place f }

/-- The first pair whose key has a tag of some kind: its index, counted from a number on, the tag, and the pair. -/
def markFrom (p : Tag → Bool) (index : Nat) : List (Place × Place) → Maker (Option (Nat × Tag × Place × Place))
  | [] => return none
  | (k, v) :: rest => do
    let t ← tagAt k
    if p t then return some (index, t, k, v) else markFrom p (index + 1) rest

/-- The text at a place: that of a scalar, and of a mapping what it has under the mark of a value. The bound is the
number of nodes; a mapping that leads to itself has no text and no end. -/
def textAt : Nat → Place → Maker Codes
  | 0, _ => throw .endless
  | n + 1, place => do
    match (← nodeAt place).content with
    | .scalar codes => return codes
    | .sequence _ => bad
    | .mapping pairs =>
      match ← markFrom (· == .value) 0 pairs with
      | some (_, _, _, v) => textAt n v
      | none => bad

/-- The cell of a node that has none yet. What contains values waits to be filled. -/
def newCell (place : Place) : Maker Cell := do
  let node ← nodeAt place
  if Node.contains node.tag then
    let s ← get
    let empty : Container := match node.tag with
      | .set => .set []
      | .map => .table []
      | .seq => .list []
      | _ => .pairs []
    set { s with
      containers := s.containers.push empty
      waiting := s.waiting ++ [(place, s.containers.size)] }
    return .container s.containers.size
  match node.tag with
  | .merge | .value | .other => bad
  | tag =>
    let text ← textAt ((← get).nodes.size + 1) place
    match tag, node.content with
    | .timestamp, .mapping _ => throw .momentOfMapping
    | _, _ =>
      match Node.scalarValue tag text with
      | .ok v => return .value v
      | .error e => throw e

/-- The cell of a node. -/
def cellAt (place : Place) : Maker Cell := do
  match ((← get).cells[place]?).join with
  | some cell => return cell
  | none =>
    let cell ← newCell place
    modify fun s => { s with cells := s.cells.setIfInBounds place (some cell) }
    return cell

/-- The value of a node that is a key. -/
def keyAt (place : Place) : Maker Value := do
  match ← cellAt place with
  | .value v => return v
  | .container _ => bad

/-- The pairs at a place, which has to be a mapping. -/
def pairsAt (place : Place) : Maker (List (Place × Place)) := do
  match (← nodeAt place).content with
  | .mapping pairs => return pairs
  | _ => bad

mutual

/-- Takes the pairs of merged mappings into the mapping at a place, in front of its own, and lets the mark of a value
be a key like others. The bound is on the merges that are left. -/
def flatten (place : Place) : Nat → Maker Unit
  | 0 => bad
  | n + 1 => do
    let taken ← mergesFrom place 0 n
    if !taken.isEmpty then
      let own ← pairsAt place
      change place fun node => { node with content := .mapping (taken ++ own) }

/-- The pairs of the mappings merged into the one at a place, from the pair with an index on. Each merge is dropped
before what it names is looked at, so that a mapping may be merged into itself. -/
def mergesFrom (place : Place) (index : Nat) : Nat → Maker (List (Place × Place))
  | 0 => bad
  | n + 1 => do
    let pairs ← pairsAt place
    match ← markFrom (fun t => t == .merge || t == .value) index (pairs.drop index) with
    | none => return []
    | some (i, .merge, _, v) =>
      change place fun node => { node with content := .mapping (pairs.eraseIdx i) }
      let here ← match (← nodeAt v).content with
        | .mapping _ => do
          flatten v n
          pairsAt v
        | .sequence items => do
          let parts ← mergedParts items n
          pure parts.reverse.flatten
        | .scalar _ => bad
      return here ++ (← mergesFrom place i n)
    | some (i, _, k, _) =>
      change k fun node => { node with tag := .str }
      mergesFrom place (i + 1) n

/-- The pairs of several merged mappings, each for itself. -/
def mergedParts : List Place → Nat → Maker (List (List (Place × Place)))
  | _, 0 => bad
  | [], _ => return []
  | place :: rest, n + 1 => do
    match (← nodeAt place).content with
    | .mapping _ => do
      flatten place n
      let part ← pairsAt place
      return part :: (← mergedParts rest n)
    | _ => bad

end

/-- The pair of a mapping of one pair. -/
def singlePairAt (place : Place) : Maker (Place × Place) := do
  match ← pairsAt place with
  | [pair] => return pair
  | _ => bad

/-- A number that bounds how many steps merging takes: every pair is a merge at most once, and what is merged is a
mapping or a sequence that is gone through once. -/
def mergeBound (nodes : Array Node) : Nat :=
  let size := nodes.foldl (fun n node => match node.content with
    | .mapping pairs => n + pairs.length + 1
    | .sequence items => n + items.length + 1
    | .scalar _ => n + 1) 4
  4 * size * size

/-- What the container for a node holds. -/
def contentAt (place : Place) : Maker Container := do
  let node ← nodeAt place
  match node.tag, node.content with
  | .seq, .sequence items => return .list (← items.mapM cellAt)
  | .omap, .sequence items | .pairs, .sequence items =>
    return .pairs (← items.mapM fun item => do
      let (k, v) ← singlePairAt item
      let key ← cellAt k
      return (key, ← cellAt v))
  | .map, .mapping _ | .set, .mapping _ => do
    flatten place (mergeBound (← get).nodes)
    let items ← (← pairsAt place).foldlM (fun items (k, v) => do
      let key ← keyAt k
      let cell ← cellAt v
      return Document.put key cell items) []
    return if node.tag == .set then .set (items.map (·.1)) else .table items
  | _, _ => bad

/-- Fills the containers that wait, the first ones first. Every node waits at most once; the bound is their number. -/
def fillAll : Nat → Maker Unit
  | 0 => return ()
  | n + 1 => do
    let s ← get
    match s.waiting with
    | [] => return ()
    | (place, i) :: rest =>
      set { s with waiting := rest }
      let container ← contentAt place
      modify fun s => { s with containers := s.containers.setIfInBounds i container }
      fillAll n

end Maker

/-- Why a text with a fault in its tokens has no value. -/
def Error.ofRead : ReadError → Error
  | .malformed => .malformed
  | .noCharacter => .noCharacter
  | .tooLarge => .tooLarge
  | .tooDeep => .tooDeep

/-- The document of a text; one without a document is nothing. -/
def Document.ofText (s : String) : Except Error Document := do
  match (Tree.ofText? s).mapError Error.ofRead with
  | .error e => throw e
  | .ok none => return ⟨#[], .value .null⟩
  | .ok (some tree) =>
    let start : Making := ⟨tree.nodes, Array.replicate tree.nodes.size none, #[], []⟩
    let make : Maker Cell := do
      let root ← Maker.cellAt tree.root
      Maker.fillAll (tree.nodes.size + 1)
      return root
    let (root, made) ← make.run start
    return ⟨made.containers, root⟩

end Rehearsal.Yaml
