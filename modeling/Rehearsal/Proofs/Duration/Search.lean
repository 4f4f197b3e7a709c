import Mathlib
import Rehearsal.Pattern.Reader
import Rehearsal.Proofs.Duration.Notation
import Rehearsal.Proofs.Pattern.Search

/-!
# Durations by search

A duration may also be read by searching its text for a pattern, over and over, and refusing it when the matches leave a gap.
A search may skip what does not fit, take the shorter of two words, or end a number before its point, so that it reads the
same pieces is a law: `spans_textOf` says that the matches in a text of pieces are these pieces, each with its number and its
unit as groups, and `covered_spans_iff` that the matches in any other text leave a gap.

What carries it is that a unit never begins where a number goes on: whatever the search tries before the longest number is
refused at its next character (`run_numberTree`).
-/

namespace Rehearsal.Duration

open Pattern (Tree Place Rest behind spans spansFrom covered groupAt?)

/-! ## The pattern of a piece -/

/-- As many digits as there are. -/
def digitsTree (least : Nat) : Tree := .loop .greedy least none (.oneOf false [.category .digit false])

/-- A point and the digits behind it, or nothing. -/
def fractionTree : Tree := .loop .greedy 0 (some 1) (.switch [] [] (.seq (.char 46) (digitsTree 0)))

/-- A decimal number. -/
def numberTree : Tree := .choice (.seq (digitsTree 1) fractionTree) (.seq (.char 46) (digitsTree 1))

/-- The words for units in the order of their turns. -/
def unitWords : List UnitWord := [.ns, .us, .micro, .ms, .s, .m, .h]

/-- Characters as they are. -/
def wordTree (cs : List Char) : Tree := Tree.ofList (cs.map fun c => .char c.toNat)

/-- A word for a unit. -/
def unitTree : Tree := Tree.choices (unitWords.map fun u => wordTree u.text)

/-- The pattern of a piece, its number in the first group and its unit in the second. -/
def piecePattern : Pattern := ⟨.seq (.group 1 numberTree) (.group 2 unitTree), []⟩

/-- How the pattern is written. -/
theorem ofText_piecePattern :
    Pattern.ofText "(\\d+(?:\\.\\d*)?|\\.\\d+)(ns|us|\u00b5s|ms|s|m|h)" [] = .ok piecePattern := by
  cbv

/-! ## What the pattern matches -/

/-- What follows refuses to begin with a character of a kind. -/
def Refuses (p : Char → Bool) (t : Array Char) (k : Rest) : Prop :=
  ∀ s, (∀ c ∈ (behind t s).head?, p c = true) → behind t s ≠ [] → k s = none

theorem sameChar_eq (code : Char) (c : Char) : Pattern.sameChar [] code.toNat c = (c == code) := by
  simp only [Pattern.sameChar, List.contains_nil, Bool.false_and, Bool.false_eq_true, if_false]
  rw [Bool.eq_iff_iff, beq_iff_eq, beq_iff_eq, eq_comm, Char.toNat_inj]

theorem run_char {t : Array Char} (code : Char) (s : Place) (k : Rest) :
    Tree.run t (.char code.toNat) [] s k =
      if (behind t s).head? = some code then k { s with pos := s.pos + 1 } else none := by
  unfold Tree.run
  rw [Pattern.run_one]
  cases behind t s with
  | nil => simp
  | cons c rest => simp [sameChar_eq]

theorem run_point {t : Array Char} (s : Place) (k : Rest) :
    Tree.run t (.char 46) [] s k =
      if (behind t s).head? = some '.' then k { s with pos := s.pos + 1 } else none := run_char '.' s k

/-- A run of digits is taken whole. -/
theorem run_digitsTree {t : Array Char} {k : Rest} (hk : Refuses isDigit t k) (least : Nat) (s : Place) :
    (digitsTree least).run t [] s k =
      if ((behind t s).takeWhile isDigit).length < least then none
      else k { s with pos := s.pos + ((behind t s).takeWhile isDigit).length } := by
  have hsingle : Tree.single? [] (.oneOf false [.category .digit false]) = some isDigit := by
    simp only [Tree.single?, Option.some.injEq]
    funext c
    simp [Pattern.Member.holds, Pattern.Category.holds]
  unfold digitsTree Tree.run
  rw [hsingle]
  exact Pattern.repeatChar_greedy least s hk

/-- What may be there or not is taken if the rest can follow it. -/
theorem run_optional {t : Array Char} {body : Tree} (hbody : body.single? [] = none) (s : Place) (k : Rest) :
    Tree.run t (.loop .greedy 0 (some 1) body) [] s k = (body.run t [] s k).or (k s) := by
  have honce : ∀ left s', Pattern.repeatGreedy (body.run t []) 0 (some 1) k left 1 (some s.pos) s' = k s' := by
    intro left s'
    cases left <;> simp [Pattern.repeatGreedy, Pattern.roomFor]
  have hloop : Tree.run t (.loop .greedy 0 (some 1) body) [] s k =
      Pattern.repeatGreedy (body.run t []) 0 (some 1) k (0 + (t.size - s.pos) + 2) 0 none s := by
    rw [Tree.run, hbody]
  rw [hloop, Pattern.repeatGreedy, if_neg (Nat.lt_irrefl 0), if_pos (by simp [Pattern.roomFor])]
  simp only [Nat.zero_add, honce]
  cases body.run t [] s k <;> rfl

theorem Refuses.isDigit {t : Array Char} {k : Rest} (hk : Refuses isNumeric t k) : Refuses isDigit t k := by
  intro s hs
  exact hk s fun c hc => by simp [isNumeric, hs c hc]

/-- A fraction is taken if a point is there. -/
theorem run_fractionTree {t : Array Char} {k : Rest} (hk : Refuses isNumeric t k) (s : Place) :
    fractionTree.run t [] s k =
      match behind t s with
      | '.' :: rest => k { s with pos := s.pos + 1 + (rest.takeWhile isDigit).length }
      | _ => k s := by
  have hbody : Tree.run t (.switch [] [] (.seq (.char 46) (digitsTree 0))) [] s k =
      Tree.run t (.char 46) [] s fun s' => (digitsTree 0).run t [] s' k := rfl
  rw [fractionTree, run_optional rfl, hbody, run_point]
  by_cases hpoint : (behind t s).head? = some '.'
  · obtain ⟨rest, hrest⟩ := List.head?_eq_some_iff.mp hpoint
    have hnext : behind t { s with pos := s.pos + 1 } = rest := by rw [Pattern.behind_add, hrest]; rfl
    have hnone : k s = none := hk s (by simp [hrest, isNumeric]) (by simp [hrest])
    rw [if_pos hpoint, run_digitsTree hk.isDigit, hnext, if_neg (Nat.not_lt_zero _), hnone, hrest]
    simp
  · rw [if_neg hpoint, Option.none_or]
    split
    next rest hrest => exact absurd (by rw [hrest]; rfl) hpoint
    next => rfl

theorem drop_takeWhile_isDigit (cs : List Char) : cs.drop (cs.takeWhile isDigit).length = cs.dropWhile isDigit := by
  rw [← length_leadingDigits, drop_leadingDigits]

theorem isEmpty_leadingDigits (cs : List Char) : (leadingDigits cs).isEmpty = decide ((cs.takeWhile isDigit).length < 1) := by
  rw [← length_leadingDigits, Bool.eq_iff_iff, List.isEmpty_iff, decide_eq_true_iff, Nat.lt_one_iff, List.length_eq_zero_iff]

/-- **The pattern takes a number as far as it goes.** Whatever else it tries is refused by what follows. -/
theorem run_numberTree {t : Array Char} {k : Rest} (hk : Refuses isNumeric t k) (s : Place) :
    numberTree.run t [] s k = (number? (behind t s)).bind fun found => k { s with pos := s.pos + found.2.2 } := by
  have hfraction : Refuses isDigit t fun s' => fractionTree.run t [] s' k := by
    intro s' hdigit hne
    dsimp only
    rw [run_fractionTree hk]
    split
    next rest hpoint =>
      rw [hpoint] at hdigit
      exact absurd (hdigit '.' rfl) (by decide)
    next => exact hk.isDigit s' hdigit hne
  have hwhole : numberTree.run t [] s k =
      ((digitsTree 1).run t [] s fun s' => fractionTree.run t [] s' k).or
        (Tree.run t (.char 46) [] s fun s' => (digitsTree 1).run t [] s' k) := Pattern.run_choice _ _ s k
  have hlater : ∀ n, behind t { s with pos := s.pos + n } = (behind t s).drop n := Pattern.behind_add t s
  rw [hwhole, run_digitsTree hfraction, run_point, run_fractionTree hk, hlater, drop_takeWhile_isDigit]
  simp only [run_digitsTree hk.isDigit]
  unfold number?
  dsimp only
  rw [drop_leadingDigits, isEmpty_leadingDigits, length_leadingDigits]
  by_cases hempty : ((behind t s).takeWhile isDigit).length < 1
  · have hall : (behind t s).dropWhile isDigit = behind t s := by
      rw [← drop_takeWhile_isDigit, Nat.lt_one_iff.mp hempty, List.drop_zero]
    rw [hall, if_pos hempty, Option.none_or]
    by_cases hpoint : (behind t s).head? = some '.'
    · obtain ⟨rest, hrest⟩ := List.head?_eq_some_iff.mp hpoint
      have hnext : behind t { s with pos := s.pos + 1 } = rest := by rw [hlater, hrest]; rfl
      rw [if_pos hpoint, hnext, Nat.lt_one_iff.mp hempty, hrest]
      simp only [isEmpty_leadingDigits, length_leadingDigits, Nat.zero_add, Nat.zero_lt_one, decide_true, Bool.true_and,
        decide_eq_true_eq]
      split
      · rfl
      · rw [Option.bind_some, Nat.add_assoc]
    · rw [if_neg hpoint]
      split
      next rest hrest => exact absurd (by rw [hrest]; rfl) hpoint
      next => simp [hempty]
  · have hdigit : (behind t s).head? ≠ some '.' := by
      intro h
      obtain ⟨rest, hrest⟩ := List.head?_eq_some_iff.mp h
      have hpoint : isDigit '.' = false := by decide
      simp [hrest, hpoint] at hempty
    rw [if_neg hempty, if_neg hdigit, Option.or_none]
    split
    next rest hrest => simp [hrest, hempty, length_leadingDigits, Nat.add_assoc]
    next => simp [hempty]

/-! ## Words for units -/

theorem run_wordTree {t : Array Char} (cs : List Char) (s : Place) (k : Rest) :
    (wordTree cs).run t [] s k = if cs <+: behind t s then k { s with pos := s.pos + cs.length } else none := by
  induction cs generalizing s with
  | nil => simp [wordTree, Tree.ofList, Tree.run]
  | cons c rest ih =>
    have hcons : (wordTree (c :: rest)).run t [] s k =
        Tree.run t (.char c.toNat) [] s fun s' => (wordTree rest).run t [] s' k := by
      cases rest with
      | nil => simp [wordTree, Tree.ofList, Tree.run]
      | cons d more => rfl
    rw [hcons, run_char]
    simp only [ih, Pattern.behind_add]
    cases hbehind : behind t s with
    | nil => simp
    | cons d more =>
      by_cases hd : d = c
      · simp [hd, List.cons_prefix_cons, Nat.add_assoc, Nat.add_comm 1]
      · simp [hd, List.cons_prefix_cons, Ne.symm hd]

/-- Of words to choose from the first that is there is taken, if the rest can always follow. -/
theorem run_choices {t : Array Char} (f : Place → Place) (s : Place) (us : List UnitWord) (hne : us ≠ []) :
    (Tree.choices (us.map fun u => wordTree u.text)).run t [] s (fun s' => some (f s')) =
      (us.find? fun u => decide (u.text <+: behind t s)).map fun u => f { s with pos := s.pos + u.text.length } := by
  induction us with
  | nil => exact absurd rfl hne
  | cons u rest ih =>
    have hword := run_wordTree (t := t) u.text s fun s' => some (f s')
    cases rest with
    | nil =>
      by_cases hu : u.text <+: behind t s <;> simp [Tree.choices, hword, hu]
    | cons v more =>
      have hchoice : (Tree.choices ((u :: v :: more).map fun u => wordTree u.text)).run t [] s (fun s' => some (f s')) =
          ((wordTree u.text).run t [] s fun s' => some (f s')).or
            ((Tree.choices ((v :: more).map fun u => wordTree u.text)).run t [] s fun s' => some (f s')) :=
        Pattern.run_choice _ _ s _
      rw [hchoice, hword, ih (List.cons_ne_nil v more)]
      by_cases hu : u.text <+: behind t s
      · simp [hu]
      · simp [List.find?_cons, hu]

/-- The word that is read is the first one that is there. -/
theorem scale?_eq (cs : List Char) :
    scale? cs = (unitWords.find? fun u => decide (u.text <+: cs)).map fun u => (u.scale, u.text.length) := by
  unfold scale?
  split
  case h_6 rest hrest =>
    have hs : ¬['s'] <+: rest := by
      rintro ⟨more, rfl⟩
      exact hrest more rfl
    simp [unitWords, UnitWord.text, UnitWord.scale, List.cons_prefix_cons, hs]
  case h_8 =>
    symm
    rw [Option.map_eq_none_iff, List.find?_eq_none]
    intro u _ hu
    obtain ⟨more, rfl⟩ := of_decide_eq_true hu
    cases u <;> simp_all [UnitWord.text]
  all_goals simp [unitWords, UnitWord.text, UnitWord.scale, List.cons_prefix_cons]

/-- A word ends the number in front of it. -/
theorem scale?_eq_none_of_isNumeric {cs : List Char} (h : ∀ c ∈ cs.head?, isNumeric c = true) : scale? cs = none := by
  cases hscale : scale? cs with
  | none => rfl
  | some found =>
    obtain ⟨u, rest, rfl, -⟩ := exists_of_scale? hscale
    have hstops := u.stops_append rest
    cases hhead : (u.text ++ rest).head? with
    | none => exact absurd (List.append_eq_nil_iff.mp (List.head?_eq_none_iff.mp hhead)).1 u.text_ne_nil
    | some c => exact absurd (h c hhead) (by simp [hstops c hhead])

/-! ## Pieces -/

/-- The place behind a piece: its number and its unit are the two groups. -/
def pastPiece (s : Place) (width more : Nat) : Place :=
  let number : Place := { s.enter 1 with pos := s.pos + width }.leave 1 s.pos
  { number.enter 2 with pos := s.pos + width + more }.leave 2 (s.pos + width)

/-- **The pattern matches a piece where a piece is read**, and takes as much of the text. -/
theorem run_piecePattern (t : Array Char) (s : Place) :
    piecePattern.tree.run t [] s some =
      (number? (behind t s)).bind fun found =>
        (scale? ((behind t s).drop found.2.2)).map fun unit => pastPiece s found.2.2 unit.2 := by
  have hseq : piecePattern.tree.run t [] s some = numberTree.run t [] (s.enter 1) fun s' =>
      unitTree.run t [] ((s'.leave 1 s.pos).enter 2) fun s'' => some (s''.leave 2 s'.pos) := rfl
  have hunit : ∀ s' : Place, (unitTree.run t [] ((s'.leave 1 s.pos).enter 2) fun s'' => some (s''.leave 2 s'.pos)) =
      (scale? (behind t s')).map fun unit =>
        { (s'.leave 1 s.pos).enter 2 with pos := s'.pos + unit.2 }.leave 2 s'.pos := by
    intro s'
    have hplace : behind t ((s'.leave 1 s.pos).enter 2) = behind t s' := rfl
    rw [unitTree, run_choices _ _ unitWords (by simp [unitWords]), scale?_eq, hplace, Option.map_map]
    rfl
  have hrefuses : Refuses isNumeric t fun s' =>
      unitTree.run t [] ((s'.leave 1 s.pos).enter 2) fun s'' => some (s''.leave 2 s'.pos) := by
    intro s' hs' _
    dsimp only
    rw [hunit, scale?_eq_none_of_isNumeric hs']
    rfl
  have hplace : behind t (s.enter 1) = behind t s := rfl
  rw [hseq, run_numberTree hrefuses, hplace]
  refine congrArg (Option.bind _) (funext fun found => ?_)
  rw [hunit, Pattern.behind_add, hplace]
  rfl

theorem matchAt_piecePattern (t : Array Char) (pos : Nat) :
    Pattern.matchAt piecePattern t false pos = (part? (t.toList.drop pos)).map fun found => pos + found.2 := by
  have hrun : Pattern.matchAt piecePattern t false pos =
      (piecePattern.tree.run t [] ⟨pos, []⟩ some).map (·.pos) := rfl
  rw [hrun, run_piecePattern]
  unfold part?
  have hbehind : behind t ⟨pos, []⟩ = t.toList.drop pos := rfl
  rw [hbehind]
  cases number? (t.toList.drop pos) with
  | none => rfl
  | some found =>
    obtain ⟨digits, places, width⟩ := found
    rw [Option.bind_some]
    dsimp only
    cases scale? ((t.toList.drop pos).drop width) with
    | none => rfl
    | some unit => simp [pastPiece, Place.leave, Place.setMark, Nat.add_assoc]

/-- Where pieces stand that begin at a place. -/
def placesOf (pos : Nat) : List Piece → List (Nat × Nat)
  | [] => []
  | p :: rest => (pos, pos + p.text.length) :: placesOf (pos + p.text.length) rest

theorem covered_placesOf (pos : Nat) (ps : List Piece) : covered pos (placesOf pos ps) = some (pos + (textOf ps).length) := by
  induction ps generalizing pos with
  | nil => rfl
  | cons p rest ih =>
    rw [placesOf, covered, if_pos rfl, ih, textOf_cons, List.length_append, Nat.add_assoc]

theorem spansFrom_textOf (front : List Char) (ps : List Piece) {left : Nat} (hleft : ps.length < left) :
    spansFrom piecePattern (front ++ textOf ps).toArray false front.length left = placesOf front.length ps := by
  induction ps generalizing front left with
  | nil =>
    obtain ⟨left, rfl⟩ : ∃ n, left = n + 1 := ⟨left - 1, by omega⟩
    have hnone : Pattern.matchAt piecePattern front.toArray false front.length = none := by
      rw [matchAt_piecePattern, List.toList_toArray, List.drop_length]
      rfl
    simp [spansFrom, Pattern.searchFrom, hnone, placesOf]
  | cons p rest ih =>
    obtain ⟨left, rfl⟩ : ∃ n, left = n + 1 := ⟨left - 1, by omega⟩
    have hsome : Pattern.matchAt piecePattern (front ++ textOf (p :: rest)).toArray false front.length =
        some (front.length + p.text.length) := by
      rw [matchAt_piecePattern, List.toList_toArray, List.drop_left, textOf_cons, part?_text_append p (goes_textOf rest)]
      rfl
    have hne : (front.length == front.length + p.text.length) = false := by
      have hpos : 0 < p.text.length := List.length_pos_iff.mpr p.text_ne_nil
      rw [beq_eq_false_iff_ne]
      omega
    have hrest := @ih (front ++ p.text) left (by simpa using hleft)
    rw [List.append_assoc, List.length_append] at hrest
    rw [spansFrom, Pattern.searchFrom_of_matchAt hsome, placesOf]
    dsimp only
    rw [hne, textOf_cons, hrest]

/-- What has been found from a place on without a gap is pieces. -/
theorem exists_of_covered {t : Array Char} {pos left : Nat} (hpos : pos ≤ t.size) (hleft : t.size - pos < left)
    (h : covered pos (spansFrom piecePattern t false pos left) = some t.size) : ∃ ps, t.toList.drop pos = textOf ps := by
  induction left generalizing pos with
  | zero => exact absurd hleft (Nat.not_lt_zero _)
  | succ left ih =>
    have hmatch := matchAt_piecePattern t pos
    rw [spansFrom] at h
    cases hpart : part? (t.toList.drop pos) with
    | none =>
      rw [hpart, Option.map_none] at hmatch
      rcases hsearch : Pattern.searchFrom piecePattern t false pos (t.size - pos) with _ | ⟨start, stop⟩
      · rw [hsearch] at h
        cases h
        exact ⟨[], List.drop_eq_nil_of_le (by simp)⟩
      · have hlt := Pattern.lt_of_searchFrom hmatch hsearch
        rw [hsearch] at h
        dsimp only at h
        rw [covered, if_neg (Nat.ne_of_gt hlt)] at h
        cases h
    | some found =>
      obtain ⟨part, width⟩ := found
      obtain ⟨p, rest, hrest, -, rfl⟩ := exists_of_part? hpart
      have hwidth : 0 < p.text.length := List.length_pos_iff.mpr p.text_ne_nil
      have hne : (pos == pos + p.text.length) = false := by
        rw [beq_eq_false_iff_ne]
        omega
      have hlength : p.text.length ≤ t.size - pos := by
        have := congrArg List.length hrest
        simp only [List.length_drop, Array.length_toList, List.length_append] at this
        omega
      rw [hpart, Option.map_some] at hmatch
      rw [Pattern.searchFrom_of_matchAt hmatch] at h
      dsimp only at h
      rw [covered, if_pos rfl, hne] at h
      obtain ⟨ps, hps⟩ := ih (by omega) (by omega) h
      refine ⟨p :: ps, ?_⟩
      rw [← List.drop_drop, hrest, List.drop_left] at hps
      rw [hrest, hps, textOf_cons]

theorem length_le_length_textOf (ps : List Piece) : ps.length ≤ (textOf ps).length := by
  induction ps with
  | nil => exact Nat.zero_le _
  | cons p rest ih =>
    have hpos : 0 < p.text.length := List.length_pos_iff.mpr p.text_ne_nil
    rw [textOf_cons, List.length_append, List.length_cons]
    omega

theorem spans_textOf (ps : List Piece) : spans piecePattern (textOf ps) = placesOf 0 ps := by
  have hlength := length_le_length_textOf ps
  exact spansFrom_textOf [] ps (by omega)

/-- **The matches in a text follow each other from its beginning to its end exactly if pieces are written there.** -/
theorem covered_spans_iff (cs : List Char) :
    covered 0 (spans piecePattern cs) = some cs.length ↔ ∃ ps, cs = textOf ps := by
  constructor
  · intro h
    have hsize : cs.toArray.size = cs.length := by simp
    obtain ⟨ps, hps⟩ := exists_of_covered (t := cs.toArray) (Nat.zero_le _) (by omega) (hsize ▸ h)
    exact ⟨ps, hps⟩
  · rintro ⟨ps, rfl⟩
    rw [spans_textOf, covered_placesOf, Nat.zero_add]

theorem group?_pastPiece (pos width more : Nat) :
    (pastPiece ⟨pos, []⟩ width more).group? 1 = some (pos, pos + width) ∧
      (pastPiece ⟨pos, []⟩ width more).group? 2 = some (pos + width, pos + width + more) := by
  simp [pastPiece, Place.enter, Place.leave, Place.setMark, Place.group?, List.lookup, List.filter_cons]

/-- **The groups of the matches are the numbers and the units of the pieces.** -/
theorem groups_textOf (front : List Char) (ps : List Piece) :
    (placesOf front.length ps).map (fun span => (groupAt? piecePattern (front ++ textOf ps) span.1 1,
        groupAt? piecePattern (front ++ textOf ps) span.1 2)) =
      ps.map fun p => (some p.number.text, some p.unit.text) := by
  induction ps generalizing front with
  | nil => rfl
  | cons p rest ih =>
    have hrest := ih (front ++ p.text)
    rw [List.append_assoc, List.length_append] at hrest
    have hnumber := number?_text_append p.number (p.unit.stops_append (textOf rest))
    have hunit := scale?_text_append p.unit (goes_textOf rest)
    have hbehind : behind (front ++ (p.text ++ textOf rest)).toArray ⟨front.length, []⟩ =
        p.number.text ++ (p.unit.text ++ textOf rest) := by
      simp [behind, Piece.text]
    have hrun : piecePattern.tree.run (front ++ (p.text ++ textOf rest)).toArray [] ⟨front.length, []⟩ some =
        some (pastPiece ⟨front.length, []⟩ p.number.text.length p.unit.text.length) := by
      rw [run_piecePattern, hbehind, hnumber, Option.bind_some, List.drop_left, hunit]
      rfl
    obtain ⟨hfirst, hsecond⟩ := group?_pastPiece front.length p.number.text.length p.unit.text.length
    rw [placesOf, List.map_cons, List.map_cons, textOf_cons, hrest]
    congr 1
    unfold groupAt?
    rw [show piecePattern.flags = [] from rfl, hrun]
    simp [hfirst, hsecond, Piece.text, ← List.drop_drop]

end Rehearsal.Duration
