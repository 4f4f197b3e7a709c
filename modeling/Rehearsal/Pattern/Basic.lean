import Rehearsal.Text.Kind
import Rehearsal.Text.Codes

/-!
# Patterns

What a regular expression means, apart from how it is written (`Pattern.Reader`) and how it is searched for
(`Pattern.Matcher`). Flags are kept in the tree where they are switched; the ones a whole pattern is read with
stand beside it. A pattern may ask for half of a surrogate pair, which no text holds, so it asks for codes.

The two laws of the tree are the order of choice, first branch first, and the widths: `widths` bounds the
number of characters a match takes, which a look behind needs to be one number.
-/

namespace Rehearsal

/-- The switches of a pattern. -/
inductive Pattern.Flag where
  | ignoreCase | locale | multiline | dotAll | unicode | verbose | ascii | template
  deriving DecidableEq, Repr, Inhabited

/-- A set of switches. -/
abbrev Pattern.Flags := List Pattern.Flag

/-- A named class of characters, with its complement. -/
inductive Pattern.Category where
  | digit | space | word
  deriving DecidableEq, Repr, Inhabited

/-- A member of a character set. -/
inductive Pattern.Member where
  | one (code : Nat)
  | range (first last : Nat)
  | category (which : Pattern.Category) (negated : Bool)
  deriving DecidableEq, Repr, Inhabited

/-- A place a pattern can ask for without taking a character. -/
inductive Pattern.Anchor where
  | lineStart | lineEnd | textStart | textEnd | boundary | notBoundary
  deriving DecidableEq, Repr, Inhabited

/-- How a repetition chooses its count: as many as possible, as few as possible, or as many as possible without
ever giving one back. -/
inductive Pattern.Mode where
  | greedy | lazy | possessive
  deriving DecidableEq, Repr, Inhabited

/-- The tree of a pattern. -/
inductive Pattern.Tree where
  | empty
  | char (code : Nat)
  | notChar (code : Nat)
  | any
  | oneOf (negated : Bool) (members : List Pattern.Member)
  | anchor (a : Pattern.Anchor)
  | seq (first second : Pattern.Tree)
  | choice (first second : Pattern.Tree)
  | group (number : Nat) (body : Pattern.Tree)
  | switch (on off : Pattern.Flags) (body : Pattern.Tree)
  | loop (mode : Pattern.Mode) (least : Nat) (most : Option Nat) (body : Pattern.Tree)
  | same (number : Nat)
  | whether (number : Nat) (yes no : Pattern.Tree)
  | ahead (negated : Bool) (body : Pattern.Tree)
  | behind (negated : Bool) (least most : Nat) (body : Pattern.Tree)
  | atomic (body : Pattern.Tree)
  deriving Repr, Inhabited

/-- A pattern: its tree and the flags of the whole. -/
structure Pattern where
  tree : Pattern.Tree
  flags : Pattern.Flags
  deriving Repr, Inhabited

namespace Pattern

/-- No width is counted beyond this one. -/
def maxWidth : Nat := 0x10000000000000000

/-- The least and the greatest number of characters a match of a tree takes, given those of the groups. -/
def Tree.widths (groups : Nat → Nat × Nat) : Tree → Nat × Nat
  | .empty | .anchor _ | .ahead .. | .behind .. => (0, 0)
  | .char _ | .notChar _ | .any | .oneOf .. => (1, 1)
  | .seq a b =>
    let (least, most) := a.widths groups
    let (least', most') := b.widths groups
    (min (least + least') maxWidth, min (most + most') maxWidth)
  | .choice a b | .whether _ a b =>
    let (least, most) := a.widths groups
    let (least', most') := b.widths groups
    (min least least', max most most')
  | .group _ body | .switch _ _ body | .atomic body => body.widths groups
  | .loop _ least most body =>
    let (l, m) := body.widths groups
    (min (l * least) maxWidth, match most with
      | some n => min (m * n) maxWidth
      | none => if m = 0 then 0 else maxWidth)
  | .same n => groups n

/-- Whether every look behind in a tree has one width. -/
def Tree.looksFixed : Tree → Bool
  | .seq a b | .choice a b | .whether _ a b => a.looksFixed && b.looksFixed
  | .group _ body | .switch _ _ body | .atomic body | .loop _ _ _ body | .ahead _ body => body.looksFixed
  | .behind _ least most body => least == most && body.looksFixed
  | _ => true

/-- A list of trees one behind the other. -/
def Tree.ofList : List Tree → Tree
  | [] => .empty
  | [t] => t
  | t :: rest => .seq t (ofList rest)

/-- A list of trees to choose from; the first has the first turn. -/
def Tree.choices : List Tree → Tree
  | [] => .empty
  | [t] => t
  | t :: rest => .choice t (choices rest)

/-- Flags with some switched on and some off. Switching one of the two alphabets on switches the other off. -/
def switchFlags (flags on off : Flags) : Flags :=
  let flags := if on.any fun f => f == .ascii || f == .unicode
    then flags.filter fun f => f != .ascii && f != .unicode else flags
  (flags ++ on).filter fun f => !off.contains f

/-- Whether a character belongs to a named class. -/
def Category.holds (flags : Flags) (which : Category) (c : Char) : Bool :=
  if flags.contains .ascii then
    match which with
    | .digit => '0' ≤ c && c ≤ '9'
    | .space => c == ' ' || (9 ≤ c.toNat && c.toNat ≤ 13)
    | .word => c == '_' || c.isAlphanum
  else match which with
    | .digit => isDigit c
    | .space => isBlank c
    | .word => isWordChar c

/-- The lower case of a character where case is ignored. The dotted capital i loses its dot. -/
def foldChar (flags : Flags) (c : Char) : Char :=
  if flags.contains .ascii then c.toLower else if c.toNat == 0x130 then 'i' else lowerChar c

/-- Whether two characters are the same where case is ignored: they have one lower case, or their lower cases
have one upper case. -/
def sameFolded (flags : Flags) (a b : Char) : Bool :=
  let a := foldChar flags a
  let b := foldChar flags b
  a == b || (!flags.contains .ascii && upperChars a == upperChars b)

/-- Whether a character is the one of a code under the flags. -/
def sameChar (flags : Flags) (code : Nat) (c : Char) : Bool :=
  if flags.contains .ignoreCase && !Codes.isHalf code then sameFolded flags (Char.ofNat code) c else code == c.toNat

/-- The code points with a given lower case, the one itself among them. -/
def withLower (code : Nat) : List Nat :=
  code :: (if 97 ≤ code && code ≤ 122 then [code - 32] else []) ++
    (if code == 0x69 then [0x130] else []) ++
    lowerTable.filterMap fun (first, span, step, image) =>
      if image ≤ code && code ≤ image + span && (code - image) % step == 0 then some (first + (code - image))
      else none

/-- The code points that are the same as one where case is ignored. -/
def variants (flags : Flags) (c : Char) : List Nat :=
  let low := foldChar flags c
  if flags.contains .ascii then [low.toNat, low.toUpper.toNat]
  else
    let up := upperChars low
    let lows := (up.flatMap fun u => withLower (lowerChar u).toNat) ++ withLower low.toNat
    (low.toNat :: lows ++ up.map Char.toNat ++
        [0x17F, 0x131, 0xB5, 0x3BC, 0x345, 0x3B9, 0x1FBE, 0x390, 0x1FD3, 0x3B0, 0x1FE3, 0xFB05, 0xFB06]).filter
      fun code => sameFolded flags (Char.ofNat code) c

/-- Whether a character is a member. -/
def Member.holds (flags : Flags) (c : Char) : Member → Bool
  | .one code => sameChar flags code c
  | .range first last =>
    if flags.contains .ignoreCase then (variants flags c).any fun code => first ≤ code && code ≤ last
    else first ≤ c.toNat && c.toNat ≤ last
  | .category which negated =>
    which.holds flags (if flags.contains .ignoreCase then foldChar flags c else c) != negated

/-- The characters a tree matches when it stands for exactly one character and nothing else. -/
def Tree.single? (flags : Flags) : Tree → Option (Char → Bool)
  | .char code => some (sameChar flags code)
  | .notChar code => some fun c => !sameChar flags code c
  | .any => some (if flags.contains .dotAll then fun _ => true else fun c => c != '\n')
  | .oneOf negated members => some fun c => members.any (Member.holds flags c) != negated
  | _ => none

/-! ## Texts as patterns

A text escaped so that a pattern matches exactly it. Every character with a meaning in some place of some pattern gets a
backslash, blanks among them. -/

/-- Whether a character has a meaning in patterns. -/
def isMeta (c : Char) : Bool :=
  "()[]?*+-|^$\\.&~# \t\n\r\x0b\x0c\x7b\x7d".toList.contains c

/-- A text escaped for use in a pattern. -/
def escape (cs : List Char) : List Char := cs.flatMap fun c => if isMeta c then ['\\', c] else [c]

end Pattern

end Rehearsal
