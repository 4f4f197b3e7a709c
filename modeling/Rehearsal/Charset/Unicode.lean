import Rehearsal.Charset.Basic
import Rehearsal.Text.Bytes

/-!
# Forms of Unicode

The forms with units of two and four bytes, in either order, and the form of seven bits. The order may be told by a
mark in front; where it has to be and is not, nothing is decoded.
-/

namespace Rehearsal.Charset

/-- The order of bytes in a unit. -/
inductive ByteOrder where
  | little | big
  deriving DecidableEq, Repr, Inhabited

namespace ByteOrder

/-- The number that bytes make. -/
def number (o : ByteOrder) (d : Bytes) : Nat :=
  let bytes : Bytes := match o with
    | .big => d
    | .little => d.reverse
  bytes.foldl (fun n b => 256 * n + b.toNat) 0

end ByteOrder

/-- Whether a unit of two bytes is the first half of a surrogate pair. -/
def isFirstHalf (n : Nat) : Bool := 0xD800 ≤ n && n < 0xDC00

/-- Whether a unit of two bytes is the second half of a surrogate pair. -/
def isSecondHalf (n : Nat) : Bool := 0xDC00 ≤ n && n < 0xE000

/-- The character of a surrogate pair. -/
def joined (first second : Nat) : Char := Char.ofNat (0x10000 + (first - 0xD800) * 1024 + (second - 0xDC00))

/-- What stands at the front of units of two bytes. -/
def unit16 (o : ByteOrder) (a : UInt8) : Bytes → Front
  | [] => .cut
  | b :: rest =>
    let first := o.number [a, b]
    if isSecondHalf first then .fault 1
    else if isFirstHalf first then
      match rest with
      | c :: d :: _ =>
        let second := o.number [c, d]
        if isSecondHalf second then .chars [joined first second] 3 else .fault 1
      | _ => .cut
    else .chars [Char.ofNat first] 1

/-- What stands at the front of units of four bytes. -/
def unit32 (o : ByteOrder) (a : UInt8) : Bytes → Front
  | b :: c :: d :: _ =>
    let n := o.number [a, b, c, d]
    if n < 0x110000 && !isFirstHalf n && !isSecondHalf n then .chars [Char.ofNat n] 3 else .fault 3
  | _ => .cut

/-- The mark of the order of bytes. -/
def orderMark : Nat := 0xFEFF

/-- The order that a mark of a width in front of bytes tells. -/
def ByteOrder.ofMark? (width : Nat) (d : Bytes) : Option ByteOrder :=
  if d.length < width then none
  else if ByteOrder.little.number (d.take width) == orderMark then some .little
  else if ByteOrder.big.number (d.take width) == orderMark then some .big
  else none

/-- The characters of bytes in units of a width whose order is told by a mark, unless there is none. Bytes that are not
even one unit are cut off. -/
def decodeMarked (width : Nat) (unit : ByteOrder → UInt8 → Bytes → Front) (d : Bytes) : Option (List Char) :=
  if d.length < width then some (decodeBy (unit .little) d)
  else (ByteOrder.ofMark? width d).map fun o => decodeBy (unit o) (d.drop width)

/-- The characters of bytes in UTF-8 with or without a mark in front. The beginning of a mark alone is nothing. -/
def decodeUtf8Marked (d : Bytes) : List Char :=
  let mark : Bytes := [0xEF, 0xBB, 0xBF]
  if d.isPrefixOf mark then []
  else (Utf8.decodeLossy (if mark.isPrefixOf d then d.drop 3 else d)).toList

/-! ## Seven bits -/

/-- What the form of seven bits knows within a shifted section: the bits that are left over, their number, and the first
half of a pair that waits for its second. -/
structure Shift where
  bits : Nat
  count : Nat
  half : Option Nat
  deriving DecidableEq, Repr, Inhabited

/-- The six bits of a byte of a shifted section. -/
def sixBits? (b : UInt8) : Option Nat :=
  let n := b.toNat
  if 65 ≤ n && n ≤ 90 then some (n - 65)
  else if 97 ≤ n && n ≤ 122 then some (n - 71)
  else if 48 ≤ n && n ≤ 57 then some (n + 4)
  else if n == 43 then some 62
  else if n == 47 then some 63
  else none

/-- The character of a unit of two bytes, a replacement character for half of a pair. -/
def unitChar (n : Nat) : Char := if isFirstHalf n || isSecondHalf n then replacement else Char.ofNat n

/-- Six more bits in a shifted section, and the characters they complete. -/
def Shift.push (s : Shift) (six : Nat) : List Char × Shift :=
  let bits := s.bits * 64 + six
  let count := s.count + 6
  if count < 16 then ([], ⟨bits, count, s.half⟩)
  else
    let excess := Nat.pow 2 (count - 16)
    let unit := bits / excess
    let next (half : Option Nat) : Shift := ⟨bits % excess, count - 16, half⟩
    let alone : List Char × Shift := if isFirstHalf unit then ([], next (some unit)) else ([unitChar unit], next none)
    match s.half with
    | none => alone
    | some first =>
      if isSecondHalf unit then ([joined first unit], next none) else (unitChar first :: alone.1, alone.2)

/-- Whether the bits left excess in a shifted section are not mere padding. -/
def Shift.isUneven (s : Shift) : Bool := 6 ≤ s.count || (0 < s.count && s.bits != 0)

/-- Whether a byte stands for itself outside shifted sections. -/
def isDirect (b : UInt8) : Bool := b < 128 && b != 43

/-- What stands at the front of the form of seven bits. -/
def unit7 : Step (Option Shift)
  | none, b, rest =>
    if b == 43 then
      match rest with
      | [] => (.chars [] 0, some ⟨0, 0, none⟩)
      | c :: _ =>
        if c == 45 then (.chars ['+'] 1, none)
        else if (sixBits? c).isNone then (.fault 1, none)
        else (.chars [] 0, some ⟨0, 0, none⟩)
    else if isDirect b then (.chars [Char.ofNat b.toNat] 0, none)
    else (.fault 0, none)
  | some s, b, _ =>
    match sixBits? b with
    | some six =>
      let (cs, s) := s.push six
      (.chars cs 0, some s)
    | none =>
      if s.isUneven then (.fault 0, none)
      else
        let before := if s.half.isSome && isDirect b then [replacement] else []
        if b == 45 then (.chars before 0, none)
        else if isDirect b then (.chars (before ++ [Char.ofNat b.toNat]) 0, none)
        else (.fault 0, none)

/-- The state behind bytes of the form of seven bits. -/
def stateBehind (s : Option Shift) : Bytes → Option Shift
  | [] => s
  | b :: rest =>
    match unit7 s b rest with
    | (.chars _ extra, s) | (.fault extra, s) => stateBehind s (rest.drop extra)
    | (.cut, s) => s
termination_by d => d.length
decreasing_by all_goals (simp only [List.length_drop, List.length_cons]; omega)

/-- The characters of bytes in the form of seven bits. A shifted section that ends unevenly ends in a replacement
character. -/
def decodeUtf7 (d : Bytes) : List Char :=
  (decodeFrom unit7 none d).1 ++
    match stateBehind none d with
    | some s => if s.isUneven || s.half.isSome then [replacement] else []
    | none => []

end Rehearsal.Charset
