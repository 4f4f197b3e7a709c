import Rehearsal.Deflate.Block

/-!
# Containers of compressed data

Compressed data stands alone or between a header and a checksum, in one of two forms: the short form has a header of two
bytes, the long one has room for a name and other remarks, which are passed over. What stands behind the checksum is not
looked at.

`decompress` gives what has come out when the data ends, early or not.
-/

namespace Rehearsal.Deflate

/-! ## Checksums

Two numbers of 32 bits that compressed data carries behind it, to be compared with what has come out of it. One is the
remainder of a polynomial over bits, the other two sums of bytes modulo a prime. -/

/-- The polynomial of the remainder, the lowest power in the highest bit. -/
def polynomial : Nat := 0xEDB88320

/-- A remainder after a number of further zero bits. -/
def remainder (r : Nat) : Nat → Nat
  | 0 => r
  | n + 1 => remainder (if r % 2 = 1 then (r / 2).xor polynomial else r / 2) n

/-- The remainder of bytes, complemented at both ends. -/
def crc32 (d : Array UInt8) : Nat :=
  (d.foldl (fun r b => remainder (r.xor b.toNat) 8) 0xFFFFFFFF).xor 0xFFFFFFFF

/-- The modulus of the sums. -/
def adlerModulus : Nat := 65521

/-- The sum of bytes from one on, with the sum of all its intermediate values above it. -/
def adler32 (d : Array UInt8) : Nat :=
  let (a, b) := d.foldl (fun (a, b) x =>
    let a := (a + x.toNat) % adlerModulus
    (a, (b + a) % adlerModulus)) (1, 0)
  b * 65536 + a

/-! ## Headers and containers -/

/-- What stands around compressed data. -/
inductive Container where
  | bare
  | short
  | long
  deriving DecidableEq, Repr, Inhabited

/-- The only method of compression. -/
def method : Nat := 8

/-- The short header. -/
def shortHeader : Reading Unit := do
  let head ← bytesDown 2
  if head % 31 ≠ 0 then refuse .header
  if head / 256 % 16 ≠ method then refuse .method
  if 7 < head / 4096 then refuse .window
  if head.testBit 5 then
    let _ ← number 32
    refuse .dictionary

/-- Passes over bytes. -/
def skip : Nat → Reading Unit
  | 0 => return ()
  | n + 1 => do
    let _ ← number 8
    skip n

/-- Passes over bytes up to and including a zero. -/
def skipText : Nat → Reading Unit
  | 0 => throw .ended
  | bound + 1 => do
    if (← number 8) ≠ 0 then skipText bound

/-- The long header of data. -/
def longHeader (d : Bytes) : Reading Unit := do
  if (← number 16) ≠ 0x8B1F then refuse .header
  let kind ← number 16
  if kind % 256 ≠ method then refuse .method
  if 8192 ≤ kind then refuse .flags
  skip 6
  if kind.testBit 10 then skip (← number 16)
  if kind.testBit 11 then skipText d.length
  if kind.testBit 12 then skipText d.length
  if kind.testBit 9 then
    let behind := (← get).bits.length / 8
    if (← number 16) ≠ crc32 (d.take (d.length - behind)).toArray % 65536 then refuse .headerSum

/-- Data in a container. -/
def contained (d : Bytes) : Container → Reading Unit
  | .bare => body
  | .short => do
    shortHeader
    body
    toNextByte
    if (← bytesDown 4) ≠ adler32 (← get).out then refuse .dataSum
  | .long => do
    longHeader d
    body
    toNextByte
    if (← number 32) ≠ crc32 (← get).out then refuse .dataSum
    if (← number 32) ≠ (← get).out.size % Nat.pow 2 32 then refuse .dataLength

/-- What compressed data stands for. -/
def decompress (c : Container) (d : Bytes) : Except Error Bytes :=
  match (contained d c).run ⟨d.flatMap bitsOf, #[]⟩ with
  | (.error (.error e), _) => .error e
  | (_, p) => .ok p.out.toList

end Rehearsal.Deflate
