import Rehearsal.Deflate.Basic

/-!
# Codes and blocks

How compressed data is told in bits: rows of bits for symbols, and blocks of them.
-/

/-!
## Codes of symbols

In a code every symbol is a row of bits, and no row begins another. Rows are given by their lengths alone: the shorter
ones come first, rows of one length follow the order of their symbols, and each row is the number behind the row before.

A code may leave rows without a symbol only if it has one row of one bit, or none at all.
-/

namespace Rehearsal.Deflate

/-- A code. -/
structure Code where
  /-- How many rows there are of one bit, of two bits and so on. -/
  counts : List Nat
  /-- The symbols in the order of their rows. -/
  symbols : Array Nat
  deriving Inhabited

namespace Code

/-- The longest row. -/
def maxLength : Nat := 15

/-- The number of rows of each length up to the longest one. There is at least one length. -/
def countsOf (lengths : List Nat) : List Nat :=
  let longest := max 1 (lengths.foldl max 0)
  (List.range longest).map fun i => lengths.count (i + 1)

/-- The number of rows of a length that are left when each count is taken out, if there are enough. -/
def left? (free : Nat) : List Nat → Option Nat
  | [] => some free
  | n :: more => if 2 * free < n then none else left? (2 * free - n) more

/-- The code of symbols with rows of these lengths; a length of zero is no row. `full` says that no row may be left. -/
def ofLengths? (full : Bool) (lengths : List Nat) : Option Code :=
  let counts := countsOf lengths
  let symbols := (List.range maxLength).flatMap fun i =>
    lengths.zipIdx.filterMap fun (l, symbol) => if l == i + 1 then some symbol else none
  let code := ⟨counts, symbols.toArray⟩
  if symbols.isEmpty then some code
  else match left? 1 counts with
    | none => none
    | some 0 => some code
    | some _ => if full || counts.length != 1 then none else some code

/-- Reads on in a row: its number so far, the first number and the first place of the rows of its length, and the counts
from this length on. -/
def walk (symbols : Array Nat) (row first place : Nat) : List Nat → Reading (Option Nat)
  | [] => return none
  | n :: more => do
    let row := row + (← bit).toNat
    if row < first + n then return symbols[place + (row - first)]?
    else walk symbols (2 * row) (2 * (first + n)) (place + n) more

/-- The next symbol, if the bits are the row of one. -/
def next (c : Code) : Reading (Option Nat) := walk c.symbols 0 0 0 c.counts

end Code

/-!
## Blocks of compressed data

Compressed data is a row of blocks, of which the last one says so. A block is stored as it is, or it is in codes, which
are the usual ones or stand in front of it. What is in codes is bytes and repeats of bytes that have come out before: a
length and how far back the bytes are.

Every block and every symbol takes a bit at least, so that the number of bits bounds the work.
-/

/-- The codes of a block. -/
structure Codes where
  literals : Code
  distances : Code
  deriving Inhabited

/-- The codes of a block that brings none. -/
def usualCodes : Codes :=
  let literals := List.replicate 144 8 ++ List.replicate 112 9 ++ List.replicate 24 7 ++ List.replicate 8 8
  ⟨(Code.ofLengths? false literals).getD default, (Code.ofLengths? false (List.replicate 32 5)).getD default⟩

/-- The least length and the number of bits to be added for each symbol of a length. -/
def lengthSteps : List (Nat × Nat) :=
  [(3, 0), (4, 0), (5, 0), (6, 0), (7, 0), (8, 0), (9, 0), (10, 0), (11, 1), (13, 1), (15, 1), (17, 1), (19, 2), (23, 2),
    (27, 2), (31, 2), (35, 3), (43, 3), (51, 3), (59, 3), (67, 4), (83, 4), (99, 4), (115, 4), (131, 5), (163, 5),
    (195, 5), (227, 5), (258, 0)]

/-- The least distance and the number of bits to be added for each symbol of a distance. -/
def distanceSteps : List (Nat × Nat) :=
  (1, 0) :: (2, 0) :: (List.range 28).map fun i => ((2 + i % 2) * Nat.pow 2 (i / 2) + 1, i / 2)

/-- Lets bytes come out again that are a distance back. -/
def repeatBytes (distance : Nat) : Nat → Reading Unit
  | 0 => return ()
  | n + 1 => do
    let p ← get
    emit (p.out[p.out.size - distance]?.getD 0)
    repeatBytes distance n

/-- A value of a row of steps. -/
def stepped (steps : List (Nat × Nat)) (symbol : Nat) (e : Error) : Reading Nat :=
  match steps[symbol]? with
  | some (base, extra) => do return base + (← number extra)
  | none => refuse e

/-- The symbol that ends a block. -/
def endOfBlock : Nat := 256

/-- What is in codes, up to the end of the block. -/
def coded (c : Codes) : Nat → Reading Unit
  | 0 => throw .ended
  | bound + 1 => do
    match ← c.literals.next with
    | none => refuse .literal
    | some symbol =>
      if symbol < endOfBlock then
        emit symbol.toUInt8
        coded c bound
      else if symbol = endOfBlock then return ()
      else
        let length ← stepped lengthSteps (symbol - endOfBlock - 1) .literal
        match ← c.distances.next with
        | none => refuse .distance
        | some symbol =>
          let distance ← stepped distanceSteps symbol .distance
          if (← get).out.size < distance then refuse .tooFarBack
          repeatBytes distance length
          coded c bound

/-- A number of bytes that are stored as they are. -/
def stored : Nat → Reading Unit
  | 0 => return ()
  | n + 1 => do
    emit (← number 8).toUInt8
    stored n

/-- The order in which the lengths of the code for lengths are told. -/
def lengthOrder : List Nat := [16, 17, 18, 0, 8, 7, 9, 6, 10, 5, 11, 4, 12, 3, 13, 2, 14, 1, 15]

/-- Lengths of rows, as many as are wanted, behind the ones that there are, last one first. -/
def lengths (c : Code) (wanted : Nat) (found : List Nat) : Nat → Reading (List Nat)
  | 0 => return found.reverse
  | bound + 1 => do
    if wanted ≤ found.length then return found.reverse
    match (← c.next).getD 0 with
    | 16 =>
      let count := 3 + (← number 2)
      match found with
      | [] => refuse .lengthRepeat
      | last :: _ => repeated count last bound
    | 17 => repeated (3 + (← number 3)) 0 bound
    | 18 => repeated (11 + (← number 7)) 0 bound
    | n => lengths c wanted (n :: found) bound
where
  /-- The same with one length repeated, if there is room for it. -/
  repeated (count length bound : Nat) : Reading (List Nat) :=
    if wanted < found.length + count then refuse .lengthRepeat
    else lengths c wanted (List.replicate count length ++ found) bound

/-- The codes that stand in front of a block. -/
def ownCodes : Reading Codes := do
  let literalCount := 257 + (← number 5)
  let distanceCount := 1 + (← number 5)
  let lengthCount := 4 + (← number 4)
  if 286 < literalCount || 30 < distanceCount then refuse .tooManySymbols
  let told ← (lengthOrder.take lengthCount).mapM fun symbol => return (symbol, ← number 3)
  match Code.ofLengths? true ((List.range 19).map fun symbol => (told.lookup symbol).getD 0) with
  | none => refuse .lengthCodes
  | some c =>
    let all ← lengths c (literalCount + distanceCount) [] (literalCount + distanceCount)
    if all[endOfBlock]?.getD 0 = 0 then refuse .noEndOfBlock
    match Code.ofLengths? false (all.take literalCount), Code.ofLengths? false (all.drop literalCount) with
    | none, _ => refuse .literalCodes
    | _, none => refuse .distanceCodes
    | some literals, some distances => return ⟨literals, distances⟩

/-- Blocks up to the last one. -/
def blocks : Nat → Reading Unit
  | 0 => throw .ended
  | bound + 1 => do
    let isLast ← bit
    match ← number 2 with
    | 0 =>
      toNextByte
      let length ← number 16
      let complement ← number 16
      if length + complement ≠ 65535 then refuse .storedLength
      stored length
    | 1 => coded usualCodes (← get).bits.length
    | 2 => coded (← ownCodes) (← get).bits.length
    | _ => refuse .blockType
    if isLast then return () else blocks bound

/-- All blocks of the data. -/
def body : Reading Unit := do blocks (← get).bits.length

end Rehearsal.Deflate
