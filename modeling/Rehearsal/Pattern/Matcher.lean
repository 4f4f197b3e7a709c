import Rehearsal.Pattern.Basic

/-!
# Matching

A search tries the places of a text from the left, and at each place the ways a pattern can match in their
order: the first branch of a choice before the second, longer repetitions before shorter ones unless they are
lazy. The first way that works is the match.

A tree is matched with a continuation, which says whether the rest of the pattern matches behind it; a failing
continuation sends the search back into the tree. Repetition stops when a round takes no character, so the
rounds are bounded by the text.
-/

namespace Rehearsal.Pattern

/-- Where a group last began, and where it last ended. -/
structure Mark where
  start : Nat
  stop : Option Nat
  deriving DecidableEq, Repr, Inhabited

/-- A place in a text, and the marks of the groups so far. -/
structure Place where
  pos : Nat
  groups : List (Nat × Mark)
  deriving Repr, Inhabited

/-- What follows a tree: the end of the match if the rest matches from a place. -/
abbrev Rest := Place → Option Place

/-- The span of a group, if it has matched. A group that has begun again behind its last end has not. -/
def Place.group? (s : Place) (n : Nat) : Option (Nat × Nat) :=
  match s.groups.lookup n with
  | some ⟨start, some stop⟩ => if start ≤ stop then some (start, stop) else none
  | _ => none

/-- The place with another mark of a group. -/
def Place.setMark (s : Place) (n : Nat) (m : Mark) : Place := ⟨s.pos, (n, m) :: s.groups.filter fun (k, _) => k != n⟩

/-- The place where a group begins. -/
def Place.enter (s : Place) (n : Nat) : Place := s.setMark n ⟨s.pos, (s.groups.lookup n).bind (·.stop)⟩

/-- The place where a group ends that began at a place. -/
def Place.leave (s : Place) (n start : Nat) : Place := s.setMark n ⟨start, some s.pos⟩

/-- Whether a character of a text belongs to a word. -/
def wordAt (flags : Flags) (t : Array Char) (i : Nat) : Bool :=
  match t[i]? with
  | some c => Category.holds flags .word c
  | none => false

/-- Whether an anchor holds at a place. A text without characters has neither boundaries nor places that are
none. -/
def Anchor.holds (flags : Flags) (t : Array Char) (pos : Nat) (a : Anchor) : Bool :=
  let before := if pos = 0 then false else wordAt flags t (pos - 1)
  match a with
  | .textStart => pos == 0
  | .textEnd => pos == t.size
  | .lineStart => pos == 0 || (flags.contains .multiline && t[pos - 1]? == some '\n')
  | .lineEnd =>
    pos == t.size ||
      if flags.contains .multiline then t[pos]? == some '\n'
      else pos + 1 == t.size && t[pos]? == some '\n'
  | .boundary => !t.isEmpty && before != wordAt flags t pos
  | .notBoundary => !t.isEmpty && before == wordAt flags t pos

/-- The number of characters from a place on that all satisfy a test, but no more than `most`. -/
def runLength (t : Array Char) (p : Char → Bool) (most : Nat) (pos : Nat) : Nat :=
  go t p pos most
where
  /-- Counts on from a place. -/
  go (t : Array Char) (p : Char → Bool) (pos : Nat) : Nat → Nat
    | 0 => 0
    | left + 1 =>
      match t[pos]? with
      | some c => if p c then go t p (pos + 1) left + 1 else 0
      | none => 0

/-- Tries counts from `least + more` down to `least`. -/
def tryDown (k : Rest) (s : Place) (least : Nat) : Nat → Option Place
  | 0 => k { s with pos := s.pos + least }
  | more + 1 =>
    match k { s with pos := s.pos + least + more + 1 } with
    | some r => some r
    | none => tryDown k s least more

/-- Tries counts from `count` up, `left` more of them. -/
def tryUp (k : Rest) (s : Place) (count : Nat) : Nat → Option Place
  | 0 => k { s with pos := s.pos + count }
  | left + 1 =>
    match k { s with pos := s.pos + count } with
    | some r => some r
    | none => tryUp k s (count + 1) left

/-- Repeats a single character. -/
def repeatChar (t : Array Char) (p : Char → Bool) (mode : Mode) (least : Nat) (most : Option Nat) (s : Place)
    (k : Rest) : Option Place :=
  let room := t.size - s.pos
  let n := runLength t p (min room (most.getD room)) s.pos
  if n < least then none
  else match mode with
    | .greedy => tryDown k s least (n - least)
    | .lazy => tryUp k s least (n - least)
    | .possessive => k { s with pos := s.pos + n }

/-- Whether another round is within a bound. -/
def roomFor (count : Nat) (most : Option Nat) : Bool := match most with
  | some n => count < n
  | none => true

/-- Repeats a tree, more rounds first. `last` is where the latest optional round began: one that took nothing is
not followed by another. The number of rounds left is bounded by the text and the least count. -/
def repeatGreedy (step : Place → Rest → Option Place) (least : Nat) (most : Option Nat) (k : Rest) :
    Nat → Nat → Option Nat → Place → Option Place
  | 0, _, _, s => k s
  | left + 1, count, last, s =>
    if count < least then step s fun s' => repeatGreedy step least most k left (count + 1) last s'
    else if roomFor count most && last != some s.pos then
      match step s fun s' => repeatGreedy step least most k left (count + 1) (some s.pos) s' with
      | some r => some r
      | none => k s
    else k s

/-- Repeats a tree, fewer rounds first. -/
def repeatLazy (step : Place → Rest → Option Place) (least : Nat) (most : Option Nat) (k : Rest) :
    Nat → Nat → Option Nat → Place → Option Place
  | 0, _, _, s => k s
  | left + 1, count, last, s =>
    if count < least then step s fun s' => repeatLazy step least most k left (count + 1) last s'
    else
      match k s with
      | some r => some r
      | none =>
        if roomFor count most && last != some s.pos then
          step s fun s' => repeatLazy step least most k left (count + 1) (some s.pos) s'
        else none

/-- Repeats a tree as often as it goes, each round settled once it has matched. -/
def repeatPossessive (step : Place → Rest → Option Place) (least : Nat) (most : Option Nat) :
    Nat → Nat → Place → Option Place
  | 0, _, s => some s
  | left + 1, count, s =>
    if count < least then
      match step s some with
      | some s' => repeatPossessive step least most left (count + 1) s'
      | none => none
    else if roomFor count most then
      match step s some with
      | some s' => if s'.pos == s.pos then some s' else repeatPossessive step least most left (count + 1) s'
      | none => some s
    else some s

/-- Whether the text at a place repeats a span of it. -/
def repeatsSpan (flags : Flags) (t : Array Char) (start pos : Nat) : Nat → Bool
  | 0 => true
  | left + 1 =>
    match t[start]?, t[pos]? with
    | some a, some b =>
      (if flags.contains .ignoreCase then foldChar flags a == foldChar flags b else a == b) &&
        repeatsSpan flags t (start + 1) (pos + 1) left
    | _, _ => false

/-- Matches a tree at a place and the rest behind it. -/
def Tree.run (t : Array Char) : Tree → Flags → Place → Rest → Option Place
  | .empty, _, s, k => k s
  | .char code, flags, s, k => one t (sameChar flags code) s k
  | .notChar code, flags, s, k => one t (fun c => !sameChar flags code c) s k
  | .any, flags, s, k => one t (fun c => flags.contains .dotAll || c != '\n') s k
  | .oneOf negated members, flags, s, k => one t (fun c => members.any (Member.holds flags c) != negated) s k
  | .anchor a, flags, s, k => if a.holds flags t s.pos then k s else none
  | .seq a b, flags, s, k => a.run t flags s fun s' => b.run t flags s' k
  | .choice a b, flags, s, k =>
    match a.run t flags s k with
    | some r => some r
    | none => b.run t flags s k
  | .group n body, flags, s, k => body.run t flags (s.enter n) fun s' => k (s'.leave n s.pos)
  | .switch on off body, flags, s, k => body.run t (switchFlags flags on off) s k
  | .loop mode least most body, flags, s, k =>
    match body.single? flags with
    | some p => repeatChar t p mode least most s k
    | none =>
      let rounds := least + (t.size - s.pos) + 2
      match mode with
      | .greedy => repeatGreedy (body.run t flags) least most k rounds 0 none s
      | .lazy => repeatLazy (body.run t flags) least most k rounds 0 none s
      | .possessive =>
        match repeatPossessive (body.run t flags) least most rounds 0 s with
        | some s' => k s'
        | none => none
  | .same n, flags, s, k =>
    match s.group? n with
    | none => none
    | some (start, stop) =>
      if repeatsSpan flags t start s.pos (stop - start) then k { s with pos := s.pos + (stop - start) } else none
  | .whether n yes no, flags, s, k =>
    if (s.group? n).isSome then yes.run t flags s k else no.run t flags s k
  | .ahead negated body, flags, s, k =>
    match body.run t flags s some, negated with
    | some s', false => k { s' with pos := s.pos }
    | none, true => k s
    | _, _ => none
  | .behind negated width _ body, flags, s, k =>
    if s.pos < width then if negated then k s else none
    else match body.run t flags { s with pos := s.pos - width } some, negated with
      | some s', false => k { s' with pos := s.pos }
      | none, true => k s
      | _, _ => none
  | .atomic body, flags, s, k =>
    match body.run t flags s some with
    | some s' => k s'
    | none => none
where
  /-- Takes one character that satisfies a test. -/
  one (t : Array Char) (p : Char → Bool) (s : Place) (k : Rest) : Option Place :=
    match t[s.pos]? with
    | some c => if p c then k { s with pos := s.pos + 1 } else none
    | none => none

/-- The end of the match that begins at a place, if there is one. Where `nonEmpty` is set it has to take at least
one character. -/
def matchAt (p : Pattern) (t : Array Char) (nonEmpty : Bool) (pos : Nat) : Option Nat :=
  (p.tree.run t p.flags ⟨pos, []⟩ fun s => if nonEmpty && s.pos == pos then none else some s).map (·.pos)

/-- The first match that begins at one of the places from `pos` on, `left` of them behind the first. -/
def searchFrom (p : Pattern) (t : Array Char) (nonEmpty : Bool) (pos : Nat) : Nat → Option (Nat × Nat)
  | 0 => (matchAt p t nonEmpty pos).map (pos, ·)
  | left + 1 =>
    match matchAt p t nonEmpty pos with
    | some stop => some (pos, stop)
    | none => searchFrom p t false (pos + 1) left

/-- The span of the first match in a text. -/
def search (p : Pattern) (text : String) : Option (Nat × Nat) :=
  let t := text.toList.toArray
  searchFrom p t false 0 t.size

/-- Counts the matches from a place on that do not overlap. A match without characters is not followed by another
at its place. -/
def countFrom (p : Pattern) (t : Array Char) (nonEmpty : Bool) (pos : Nat) : Nat → Nat
  | 0 => 0
  | left + 1 =>
    match searchFrom p t nonEmpty pos (t.size - pos) with
    | none => 0
    | some (start, stop) => countFrom p t (start == stop) stop left + 1

/-- The number of matches in a text. -/
def count (p : Pattern) (text : String) : Nat :=
  let t := text.toList.toArray
  -- Two matches in a row cannot both be empty at one place.
  countFrom p t false 0 (2 * t.size + 2)

/-- The characters of a span. -/
def slice (text : String) (span : Nat × Nat) : String :=
  String.ofList ((text.toList.drop span.1).take (span.2 - span.1))

end Rehearsal.Pattern
