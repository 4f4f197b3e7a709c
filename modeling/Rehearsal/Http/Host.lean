import Rehearsal.Charset.Punycode
import Rehearsal.Http.Label.Character
import Rehearsal.Http.Percent
import Rehearsal.Text.Case
import Rehearsal.Text.Line
import Rehearsal.Text.Quoted

/-!
# Hosts

The host of an address and how it is written, above all the parts of a name with letters beyond ASCII.
-/

/-!
## Parts of names

A part of a host's name is a text in composed form of characters that are permitted, some of them only among certain
neighbours. It has no hyphen at either end and none in the third and the fourth place, begins with no mark, and is written
in one direction.

Servers know such a part by its ASCII letters and figures that say where the others are, behind a lead of its own. A part
that already has this lead has to stand for a part itself.
-/

namespace Rehearsal.Http.Label

/-- Whether a code point may stand between others, the ones in front of it last one first, in a part of a name. -/
def mayStand (all front : List Nat) (code : Nat) (behind : List Nat) : Bool :=
  if permitted.holds code then true
  else match code with
    | 0x200C => mayKeepApart front behind
    | 0x200D => mayJoin front
    -- The dot that separates two letters l.
    | 0xB7 => front.head? == some 0x6C && behind.head? == some 0x6C
    -- The sign in front of Greek figures, and those behind Hebrew ones.
    | 0x375 => behind.head?.any greek.holds
    | 0x5F3 | 0x5F4 => front.head?.any hebrew.holds
    -- The dot between Japanese words.
    | 0x30FB => all.any fun c => c != 0x30FB && eastern.holds c
    | _ =>
      -- Two kinds of figures that are easily taken for each other.
      if 0x660 ≤ code && code ≤ 0x669 then !all.any fun c => 0x6F0 ≤ c && c ≤ 0x6F9
      else if 0x6F0 ≤ code && code ≤ 0x6F9 then !all.any fun c => 0x660 ≤ c && c ≤ 0x669
      else false

/-- Whether all code points behind some others may stand where they are. -/
def allMayStand (all front : List Nat) : List Nat → Bool
  | [] => true
  | c :: behind => mayStand all front c behind && allMayStand all (c :: front) behind

/-- The hyphen. -/
def hyphen : Nat := 45

/-- Whether code points are a part of a name. -/
def isPart (codes : List Nat) : Bool :=
  !codes.isEmpty && codes.head? != some hyphen && codes.getLast? != some hyphen &&
    (codes.drop 2).take 2 != [hyphen, hyphen] && !codes.head?.any isMark && allMayStand codes [] codes &&
    Direction.agree (codes.map Direction.of) && Composition.isComposed codes

/-- What stands in front of a part that is written in ASCII. -/
def lead : List Char := "xn--".toList

/-- What an ASCII part behind the lead stands for. -/
def read? (cs : List Char) : Option (List Nat) :=
  let (base, numbers) := Charset.Punycode.split cs
  if cs.isEmpty || cs.getLast? == some '-' then none
  else match Charset.Punycode.insert (Char.ofNat 0) base 128 0 72 true numbers with
    | (text, true) => some (text.map Char.toNat)
    | (_, false) => none

/-- The most characters of a part that is written in ASCII. -/
def maxLength : Nat := 63

/-- A part of a name in small letters as servers know it. -/
def write? (cs : List Char) : Option (List Char) :=
  let written :=
    if cs.all fun c => c.toNat < 128 then
      match if lead.isPrefixOf cs then read? (cs.drop lead.length) else some (cs.map Char.toNat) with
      | some codes => if isPart codes then some cs else none
      | none => none
    else if isPart (cs.map Char.toNat) then some (lead ++ Charset.Punycode.encode cs)
    else none
  written.filter fun w => w.length ≤ maxLength

end Rehearsal.Http.Label

/-!
## Names of hosts

The host of an address is four numbers, a longer number in brackets, or a name. Numbers are checked and kept; a name
is written in small letters, and each part of one with letters beyond ASCII as servers know it.
-/

namespace Rehearsal.Http.Host

open Rehearsal

/-- Why a text names no host. -/
inductive Error where
  | four (host : String)
  | long (host : String)
  | name (host : String)
  deriving DecidableEq, Repr, Inhabited

/-- The wording of an error. -/
def Error.message : Error → String
  | .four host => s!"Invalid IPv4 address: {Quoted.text host}"
  | .long host => s!"Invalid IPv6 address: {Quoted.text host}"
  | .name host => s!"Invalid IDNA hostname: {Quoted.text host}"

/-- Whether a character is one of the ten figures. -/
def isFigure (c : Char) : Bool := '0' ≤ c && c ≤ '9'

/-- Whether a text is a number of runs of figures, one more than the count, with one character of any kind between
each two. -/
def looksLikeNumbers : Nat → List Char → Bool
  | 0, cs => !cs.isEmpty && cs.all isFigure
  | n + 1, cs =>
    let run := (cs.takeWhile isFigure).length
    (List.range run).any fun i => match cs.drop (i + 1) with
      | _ :: rest => looksLikeNumbers n rest
      | [] => false

/-- Whether a text is a number below 256 without a zero in front. -/
def isOctet (cs : List Char) : Bool :=
  !cs.isEmpty && cs.all isFigure && cs.length ≤ 3 && !(cs.head? == some '0' && cs.length != 1) &&
    cs.foldl (fun n c => 10 * n + (c.toNat - 48)) 0 ≤ 255

/-- Whether a text is four numbers between points. -/
def isFour (cs : List Char) : Bool :=
  let parts := Line.splitOn '.' cs
  parts.length == 4 && parts.all isOctet

/-- Whether a text is a group of up to four hexadecimal digits. -/
def isGroup (cs : List Char) : Bool := !cs.isEmpty && cs.length ≤ 4 && cs.all fun c => (Percent.hexDigit? c).isSome

/-- Whether texts between colons are eight groups, or fewer with a gap of empty ones in one place. -/
def areGroups (parts : List (List Char)) : Bool :=
  let inner := (parts.drop 1).dropLast
  let first := parts.head?.getD []
  let last := parts.getLast?.getD []
  match inner.countP List.isEmpty with
  | 0 => parts.length == 8 && parts.all isGroup
  | 1 =>
    let before := parts.take ((inner.takeWhile fun p => !p.isEmpty).length + 1)
    let after := parts.drop (before.length + 1)
    -- An end that is empty counts only where the gap is.
    let front := if first.isEmpty then before.drop 1 else before
    let back := if last.isEmpty then after.dropLast else after
    (!first.isEmpty || before.length == 1) && (!last.isEmpty || after.length == 1) &&
      front.length + back.length < 8 && (front ++ back).all isGroup
  | _ => false

/-- Whether a text is a long number, perhaps with a zone behind a percent sign. -/
def isLong (cs : List Char) : Bool :=
  let number := cs.takeWhile (· != '%')
  let zoneFits := match cs.drop number.length with
    | [] => true
    | _ :: zone => !zone.isEmpty && !zone.contains '%'
  let parts := Line.splitOn ':' number
  let last := parts.getLast?.getD []
  let parts := if last.contains '.' then parts.dropLast ++ ["0".toList, "0".toList] else parts
  zoneFits && 3 ≤ (Line.splitOn ':' number).length && (!last.contains '.' || isFour last) &&
    parts.length ≤ 9 && areGroups parts

/-- Whether a character stands between the parts of a name. -/
def isPoint (c : Char) : Bool := c == '.' || c == '\u3002' || c == '\uff0e' || c == '\uff61'

/-- The most characters of a name without a point at its end. -/
def maxLength : Nat := 253

/-- A name with letters beyond ASCII as servers understand it. A point at the end is kept. -/
def encodeName? (cs : List Char) : Option (List Char) := do
  let parts := Line.splitOn '.' (cs.map fun c => if isPoint c then '.' else c)
  let ended := parts.length > 1 && parts.getLast? == some []
  let parts := if ended then parts.dropLast else parts
  let name := ['.'].intercalate (← parts.mapM Label.write?)
  if name.length ≤ maxLength then return name ++ (if ended then ['.'] else []) else none

/-- Whether a character of an ASCII name is kept. -/
def keeps (c : Char) : Bool := "!$&()*+,;=\x22\x27\x60\x7b\x7d%|\\".toList.contains c

/-- The host that a text of an address names. Brackets are taken away. -/
def ofText (host : String) : Except Error String :=
  let cs := host.toList
  if cs.isEmpty then .ok ""
  else if looksLikeNumbers 3 cs then if isFour cs then .ok host else .error (.four host)
  else if cs.head? == some '[' && cs.getLast? == some ']' && 2 ≤ cs.length then
    let inner := (cs.drop 1).dropLast
    if isLong inner then .ok (String.ofList inner) else .error (.long host)
  else
    let lower := (lowerCase host).toList
    if cs.all fun c => c.toNat < 128 then .ok (String.ofList (Percent.complete keeps lower))
    else match encodeName? lower with
      | some name => .ok (String.ofList name)
      | none => .error (.name host)

end Rehearsal.Http.Host
