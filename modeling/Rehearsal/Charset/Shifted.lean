import Rehearsal.Charset.CodePage
import Rehearsal.Charset.Japanese
import Rehearsal.Charset.Korean

/-!
# Character sets with shifts

Sets of seven bits in which marks between the characters say what the bytes behind them mean. In the escaped sets an
escape sequence puts one of several grids into one of three slots: the first slot is in use, the second one between two
shift marks, and the third one for one character behind its own mark.
-/

namespace Rehearsal.Charset

/-- A set that an escape sequence may put into a slot. -/
inductive Slot where
  | ascii
  | roman
  | katakana
  | jis208
  | jis212
  | jis213 (second edition2004 : Bool)
  | gb2312
  | ksx1001
  | latin1
  | greek
  deriving DecidableEq, Repr, Inhabited

namespace Slot

/-- The number of bytes of a character. -/
def width : Slot → Nat
  | .ascii | .roman | .katakana | .latin1 | .greek => 1
  | _ => 2

/-- The characters that bytes stand for. -/
def chars? (s : Slot) (b c : UInt8) : Option (List Char) :=
  let cell (find : Nat → Nat → Option (List Char)) : Option (List Char) :=
    if b < 33 || c < 33 then none else find (b.toNat - 32) (c.toNat - 32)
  match s with
  | .ascii => some [plainLow b]
  | .roman => if b < 128 then some [romanLow b] else none
  | .katakana => if 33 ≤ b && b ≤ 95 then some [halfWidth (b + 128)] else none
  | .jis208 => cell jisChars?
  | .jis212 => cell fun row column => single? (Charset.jis212.char? row column)
  | .jis213 false edition2004 => cell (firstPlane? edition2004)
  | .jis213 true edition2004 => cell (secondPlane? edition2004)
  | .gb2312 => cell fun row column => single? (Charset.gb2312.char? row column)
  | .ksx1001 => cell fun row column => single? (Charset.ksx1001.char? row column)
  | .latin1 | .greek => none

end Slot

/-- The ways of a family of escaped sets: the slots by the letter of their sequence, apart for those of two bytes, and
whether there are shift marks, a third slot, and sequences with a mark of revision. -/
structure Escaping where
  narrow : List (Char × Slot)
  wide : List (Char × Slot)
  shifts : Bool
  third : Bool
  revised : Bool
  deriving DecidableEq, Repr, Inhabited

namespace Escaping

/-- The sets for Japanese, from the plainest one on. -/
def japanese : Escaping := ⟨[('J', .roman)], [('B', .jis208), ('@', .jis208)], false, false, true⟩

/-- With the supplement. -/
def japanese1 : Escaping := { japanese with wide := ('D', .jis212) :: japanese.wide }

/-- With Chinese, Korean, Latin and Greek. -/
def japanese2 : Escaping :=
  { japanese1 with
    narrow := japanese1.narrow ++ [('A', .latin1), ('F', .greek)]
    wide := japanese1.wide ++ [('C', .ksx1001), ('A', .gb2312)]
    third := true }

/-- With half-width syllables. -/
def japaneseExtended : Escaping := { japanese1 with narrow := ('I', .katakana) :: japanese1.narrow }

/-- With the later standard. -/
def japanese3 : Escaping :=
  ⟨[], [('B', .jis208), ('O', .jis213 false false), ('P', .jis213 true false)], false, false, true⟩

/-- With the later standard in the edition of 2004. -/
def japanese2004 : Escaping :=
  ⟨[], [('B', .jis208), ('Q', .jis213 false true), ('P', .jis213 true true)], false, false, true⟩

/-- The set for Korean. -/
def korean : Escaping := ⟨[], [('C', .ksx1001)], true, false, false⟩

end Escaping

/-- What the slots hold, whether the second one is in use, and whether an unknown sequence is going on. -/
structure Slots where
  first : Slot
  second : Slot
  third : Slot
  shifted : Bool
  passing : Bool
  deriving DecidableEq, Repr, Inhabited

/-- The slots in the beginning. -/
def Slots.start : Slots := ⟨.ascii, .ascii, .ascii, false, false⟩

/-- Puts a set into a slot. -/
def Slots.put (s : Slots) (place : Nat) (slot : Slot) : Slots :=
  match place with
  | 0 => { s with first := slot }
  | 1 => { s with second := slot }
  | _ => { s with third := slot }

/-- Whether a byte ends an escape sequence. -/
def endsSequence (b : UInt8) : Bool := 64 ≤ b && b ≤ 90

/-- The most bytes of an escape sequence. -/
def maxSequence : Nat := 16

/-- The length of the escape sequence at the front of bytes; zero if it does not end in time, nothing if the bytes end
first. The mark of a revision is passed over. The last number bounds the search. -/
def sequenceLength? (revised : Bool) (d : Bytes) (i : Nat) : Nat → Option Nat
  | 0 => some 0
  | n + 1 =>
    if maxSequence ≤ i then some 0
    else match d[i]? with
      | none => none
      | some b =>
        if endsSequence b then some (i + 1)
        else if revised && b == 38 && d[i + 1]? == some 64 then sequenceLength? revised d (i + 3) n
        else sequenceLength? revised d (i + 1) n

/-- The slot and the set that the bytes of a whole escape sequence name. -/
def designation? (e : Escaping) (d : Bytes) : Option (Nat × Slot) :=
  let chars := d.map fun b => Char.ofNat b.toNat
  let narrow (c : Char) : Option Slot := if c == 'B' then some .ascii else e.narrow.lookup c
  match chars with
  | [_, '$', c] => (e.wide.lookup c).map fun s => (0, s)
  | [_, '(', c] => (narrow c).map fun s => (0, s)
  | [_, ')', c] => (narrow c).map fun s => (1, s)
  | [_, '.', c] => if e.third then (narrow c).map fun s => (2, s) else none
  | [_, '$', '(', c] => (e.wide.lookup c).map fun s => (0, s)
  | [_, '$', ')', c] => (e.wide.lookup c).map fun s => (1, s)
  | [_, '&', '@', '\x1b', '$', 'B'] => if e.revised then some (0, .jis208) else none
  | _ => none

/-- The character of the third slot. -/
def thirdChar? (greek : CodePage) (s : Slot) (b : UInt8) : Option Char :=
  match s with
  | .latin1 => if b < 128 then some (Char.ofNat (b.toNat + 128)) else none
  | .greek =>
    let c := greek.char (b ^^^ 128)
    if c == replacement then none else some c
  | .ascii => if b < 128 then some (plainLow b) else none
  | _ => none

/-- A step of a family of escaped sets. -/
def escapedStep (e : Escaping) (greek : CodePage) : Step Slots := fun s b rest =>
  if s.passing then (.chars [plainLow b] 0, { s with passing := !endsSequence b })
  else if b == 27 then
    match rest with
    | [] => (.cut, s)
    | c :: more =>
      if "()$.&".toList.contains (Char.ofNat c.toNat) then
        match sequenceLength? e.revised (b :: rest) 1 (maxSequence + 1) with
        | none => (.cut, s)
        | some 0 => (.fault 0, s)
        | some n =>
          match designation? e ((b :: rest).take n) with
          | some (place, slot) => (.chars [] (n - 1), s.put place slot)
          | none => (.fault (n - 1), s)
      else if e.third && c == 78 then
        match more with
        | [] => (.cut, s)
        | d :: _ =>
          match thirdChar? greek s.third d with
          | some char => (.chars [char] 2, s)
          | none => (.fault 2, s)
      else (.chars ['\x1b'] 0, { s with passing := true })
  else if e.shifts && b == 15 then (.chars [] 0, { s with shifted := false })
  else if e.shifts && b == 14 then (.chars [] 0, { s with shifted := true })
  else if b == 10 then (.chars ['\n'] 0, { s with shifted := false })
  else if b < 32 then (.chars [plainLow b] 0, s)
  else if 128 ≤ b then (.fault 0, s)
  else
    let slot := if s.shifted then s.second else s.first
    if slot.width == 1 then
      match slot.chars? b 0 with
      | some cs => (.chars cs 0, s)
      | none => (.fault 0, s)
    else match rest with
      | [] => (.cut, s)
      | c :: _ =>
        match slot.chars? b c with
        | some cs => (.chars cs 1, s)
        | none => (.fault 1, s)

/-- A step of the set in which braces behind tildes surround pairs of GB 2312; the state tells whether the bytes are
within such braces. -/
def bracedStep : Step Bool := fun inside b rest =>
  if b == 126 then
    match rest with
    | [] => (.cut, inside)
    | c :: _ =>
      if c == 126 && !inside then (.chars ['~'] 1, inside)
      else if c == 123 && !inside then (.chars [] 1, true)
      else if c == 10 && !inside then (.chars [] 1, inside)
      else if c == 125 && inside then (.chars [] 1, false)
      else (.fault 0, inside)
  else if 128 ≤ b then (.fault 0, inside)
  else if !inside then (.chars [plainLow b] 0, inside)
  else match rest with
    | [] => (.cut, inside)
    | c :: _ =>
      if b < 33 || c < 33 then (.fault 0, inside)
      else match gb2312.char? (b.toNat - 32) (c.toNat - 32) with
        | some char => (.chars [char] 1, inside)
        | none => (.fault 0, inside)

end Rehearsal.Charset
