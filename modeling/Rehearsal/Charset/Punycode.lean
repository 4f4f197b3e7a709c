/-!
# Codes of letters and figures

The notation in which a host's name keeps its characters beyond ASCII: the ASCII ones stand in front, and behind them
numbers in base 36 say which character to put where. Each number tells how far to go on from the last place, over all
places and all characters in order. How the figures of a number weigh changes with the numbers before it.
-/

namespace Rehearsal.Charset.Punycode

/-- The weight limit of the figure at a position, by the bias. -/
def threshold (position bias : Nat) : Nat :=
  let k := 36 * (position + 1)
  if k ≤ bias then 1 else if bias + 26 ≤ k then 26 else k - bias

/-- The bias behind a number, by steps that make it small; the bound is the number itself. -/
def biasFrom (delta k : Nat) : Nat → Nat
  | 0 => k + 36 * delta / (delta + 38)
  | n + 1 => if delta ≤ 455 then k + 36 * delta / (delta + 38) else biasFrom (delta / 35) (k + 36) n

/-- The bias behind a number that made a text of a length, the first number or a later one. -/
def adapt (delta : Nat) (isFirst : Bool) (length : Nat) : Nat :=
  let d := if isFirst then delta / 700 else delta / 2
  biasFrom (d + d / length) 0 delta

/-- The value of a figure. Capitals count as small letters. -/
def figure? (c : Char) : Option Nat :=
  if 'a' ≤ c && c ≤ 'z' then some (c.toNat - 97)
  else if 'A' ≤ c && c ≤ 'Z' then some (c.toNat - 65)
  else if '0' ≤ c && c ≤ '9' then some (c.toNat - 22)
  else none

/-- The figure of a value. -/
def figure (n : Nat) : Char := if n < 26 then Char.ofNat (97 + n) else Char.ofNat (22 + n)

/-- The number at the front of a text from a position on, and what follows it. -/
def number? (bias weight position : Nat) : List Char → Option (Nat × List Char)
  | [] => none
  | c :: rest =>
    match figure? c with
    | none => none
    | some v =>
      if v < threshold position bias then some (v * weight, rest)
      else
        (number? bias (weight * (36 - threshold position bias)) (position + 1) rest).map fun (n, rest) =>
          (v * weight + n, rest)

/-- A number is not empty. -/
theorem length_lt_of_number? {bias : Nat} : ∀ {cs : List Char} {weight position n : Nat} {rest : List Char},
    number? bias weight position cs = some (n, rest) → rest.length < cs.length
  | [], _, _, _, _, h => by simp [number?] at h
  | c :: cs, weight, position, n, rest, h => by
    rw [number?] at h
    split at h
    · simp at h
    · split at h
      · simp only [Option.some.injEq, Prod.mk.injEq] at h
        simp [← h.2]
      · obtain ⟨⟨m, rest'⟩, e, he⟩ := Option.map_eq_some_iff.1 h
        have := length_lt_of_number? e
        simp only [Prod.mk.injEq] at he
        simp only [← he.2, List.length_cons]
        omega

/-- The text that numbers make of one, and whether all of them could be read. The state is the last character's code, its
place plus one, and the bias. A code that is too large is told apart by `tooLarge`. -/
def insert (tooLarge : Char) (text : List Char) (code next bias : Nat) (isFirst : Bool) (cs : List Char) :
    List Char × Bool :=
  match cs with
  | [] => (text, true)
  | c :: cs =>
    match h : number? bias 1 0 (c :: cs) with
    | none => (text, false)
    | some (delta, rest) =>
      let places := text.length + 1
      let far := next + delta
      let code := code + far / places
      let char := if code < 0x110000 then Char.ofNat code else tooLarge
      let code := if code < 0x110000 then code else tooLarge.toNat
      let place := far % places
      have : rest.length < cs.length + 1 := length_lt_of_number? h
      insert tooLarge (text.take place ++ char :: text.drop place) code (place + 1) (adapt delta isFirst places) false rest
termination_by cs.length

/-- The part of a text in front of its last hyphen, and the part behind it, which may be all. -/
def split (cs : List Char) : List Char × List Char :=
  let behind := (cs.reverse.takeWhile (· != '-')).reverse
  if behind.length == cs.length then ([], cs) else (cs.take (cs.length - behind.length - 1), behind)

/-- The text that a notation stands for, as far as it can be read. -/
def decodeLossy (cs : List Char) : List Char :=
  let (base, numbers) := split cs
  (insert '?' base 128 0 72 true numbers).1

/-! ## Writing -/

/-- A weight limit is at least one. -/
theorem threshold_pos (position bias : Nat) : 1 ≤ threshold position bias := by
  simp only [threshold]
  split
  · exact Nat.le_refl 1
  · split <;> omega

/-- The figures of a number from a position on. -/
def figures (bias position q : Nat) : List Char :=
  if q < threshold position bias then [figure q]
  else
    let t := threshold position bias
    figure (t + (q - t) % (36 - t)) :: figures bias (position + 1) ((q - t) / (36 - t))
termination_by q
decreasing_by
  have h := threshold_pos position bias
  exact Nat.lt_of_le_of_lt (Nat.div_le_self _ _) (by omega)

/-- What is known while characters are inserted: how many stand already, the distance counted since the last one, the
bias, and the figures so far. -/
structure Insertion where
  handled : Nat
  delta : Nat
  bias : Nat
  figures : List Char
  deriving Repr, Inhabited

/-- Inserts the character of a code wherever a text has it, where `basic` characters stood in the beginning. -/
def insertCode (cs : List Char) (basic code : Nat) (s : Insertion) : Insertion :=
  cs.foldl (fun s c =>
    if c.toNat < code then { s with delta := s.delta + 1 }
    else if c.toNat == code then
      ⟨s.handled + 1, 0, adapt s.delta (s.handled == basic) (s.handled + 1),
        s.figures ++ Punycode.figures s.bias 0 s.delta⟩
    else s) s

/-- A text in the notation. -/
def encode (cs : List Char) : List Char :=
  let basic := cs.filter fun c => c.toNat < 128
  let codes := ((cs.map Char.toNat).filter (128 ≤ ·)).mergeSort.eraseDups
  let step (st : Nat × Insertion) (code : Nat) : Nat × Insertion :=
    let (next, s) := st
    let s := insertCode cs basic.length code { s with delta := s.delta + (code - next) * (s.handled + 1) }
    (code + 1, { s with delta := s.delta + 1 })
  let (_, s) := codes.foldl step (128, ⟨basic.length, 0, 72, []⟩)
  (if basic.isEmpty then [] else basic ++ ['-']) ++ s.figures

end Rehearsal.Charset.Punycode
