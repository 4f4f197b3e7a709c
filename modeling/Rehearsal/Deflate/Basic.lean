import Rehearsal.Text.Bytes

/-!
# Compressed data

Compressed data is read bit by bit, the lowest bit of a byte first, and what has been read decides what the next bits
mean. Data that breaks off is no error: what it stands for up to there is kept.

`Reading` is such a reading. It keeps the bits that are left and the bytes that have come out, and it stops at an error
or at the end of the data.
-/

namespace Rehearsal.Deflate

/-- Why data is not compressed data. -/
inductive Error where
  | header
  | method
  | window
  | flags
  | headerSum
  /-- Text that does not stand in the data is needed to read it. -/
  | dictionary
  | blockType
  | storedLength
  | tooManySymbols
  | lengthCodes
  | lengthRepeat
  | noEndOfBlock
  | literalCodes
  | distanceCodes
  | literal
  | distance
  | tooFarBack
  | dataSum
  | dataLength
  deriving DecidableEq, Repr, Inhabited

/-- What is wrong with the data. -/
def Error.reason : Error → String
  | .header => "incorrect header check"
  | .method => "unknown compression method"
  | .window => "invalid window size"
  | .flags => "unknown header flags set"
  | .headerSum => "header crc mismatch"
  | .dictionary => "dictionary"
  | .blockType => "invalid block type"
  | .storedLength => "invalid stored block lengths"
  | .tooManySymbols => "too many length or distance symbols"
  | .lengthCodes => "invalid code lengths set"
  | .lengthRepeat => "invalid bit length repeat"
  | .noEndOfBlock => "invalid code -- missing end-of-block"
  | .literalCodes => "invalid literal/lengths set"
  | .distanceCodes => "invalid distances set"
  | .literal => "invalid literal/length code"
  | .distance => "invalid distance code"
  | .tooFarBack => "invalid distance too far back"
  | .dataSum => "incorrect data check"
  | .dataLength => "incorrect length check"

/-- The wording of an error. -/
def Error.message : Error → String
  | .dictionary => "Error 2 while decompressing data"
  | e => s!"Error -3 while decompressing data: {e.reason}"

/-- What ends a reading early. -/
inductive Stop where
  /-- The data is at its end. -/
  | ended
  | error (e : Error)
  deriving DecidableEq, Repr, Inhabited

/-- How far a reading is: the bits that are left and the bytes that have come out. -/
structure Progress where
  bits : List Bool
  out : Array UInt8
  deriving Inhabited

/-- A reading of compressed data. -/
abbrev Reading := ExceptT Stop (StateM Progress)

/-- The bits of a byte, the lowest first. -/
def bitsOf (b : UInt8) : List Bool := (List.range 8).map fun i => b.toNat.testBit i

/-- Refuses the data. -/
def refuse {α : Type} (e : Error) : Reading α := throw (.error e)

/-- The next bit. -/
def bit : Reading Bool := do
  let p ← get
  match p.bits with
  | [] => throw .ended
  | b :: rest => set { p with bits := rest }; return b

/-- The number that the next bits are, the lowest first. -/
def number : Nat → Reading Nat
  | 0 => return 0
  | n + 1 => do
    let b ← bit
    return b.toNat + 2 * (← number n)

/-- The number that a row of bytes is, the highest first. -/
def bytesDown : Nat → Reading Nat
  | 0 => return 0
  | n + 1 => do
    let b ← number 8
    return b * Nat.pow 256 n + (← bytesDown n)

/-- Passes over the bits that are left of a byte. -/
def toNextByte : Reading Unit := modify fun p => { p with bits := p.bits.drop (p.bits.length % 8) }

/-- Lets a byte come out. -/
def emit (b : UInt8) : Reading Unit := modify fun p => { p with out := p.out.push b }

end Rehearsal.Deflate
