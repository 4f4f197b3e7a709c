import Mathlib.Data.List.TakeWhile
import Rehearsal.Pattern.Matcher

/-!
# What a search finds

A match goes on behind a place (`behind`), and what follows a part of a pattern may refuse the way the part has matched. A
greedy run of characters comes to its longest way when what follows refuses to begin within the run (`repeatChar_greedy`),
which is how most patterns of words and numbers are made.

`spans` are all the matches in a text, found one after the other, and `covered` follows them as long as each begins where the
one before it ended. A search that comes to a place where nothing matches goes on behind it, so that its next match leaves a
gap (`lt_of_searchFrom`).
-/

namespace Rehearsal.Pattern

/-! ## Matching behind a place -/

/-- What stands behind a place. -/
def behind (t : Array Char) (s : Place) : List Char := t.toList.drop s.pos

theorem getElem?_pos (t : Array Char) (s : Place) : t[s.pos]? = (behind t s).head? := by
  simp [behind, List.head?_drop]

theorem behind_add (t : Array Char) (s : Place) (n : Nat) :
    behind t { s with pos := s.pos + n } = (behind t s).drop n := by
  simp [behind, List.drop_drop]

/-- One character is taken if it is there. -/
theorem run_one (t : Array Char) (p : Char → Bool) (s : Place) (k : Rest) :
    Tree.run.one t p s k =
      match behind t s with
      | c :: _ => if p c then k { s with pos := s.pos + 1 } else none
      | [] => none := by
  unfold Tree.run.one
  rw [getElem?_pos]
  cases behind t s <;> rfl

/-- Of two ways the second is tried if the first leads nowhere. -/
theorem run_choice {t : Array Char} {flags : List Flag} (a b : Tree) (s : Place) (k : Rest) :
    Tree.run t (.choice a b) flags s k = (a.run t flags s k).or (b.run t flags s k) := by
  rw [Tree.run]
  cases a.run t flags s k <;> rfl

theorem runLength_go (t : Array Char) (p : Char → Bool) (pos left : Nat) (h : t.size - pos ≤ left) :
    runLength.go t p pos left = ((t.toList.drop pos).takeWhile p).length := by
  induction left generalizing pos with
  | zero =>
    have hnil : t.toList.drop pos = [] := List.drop_eq_nil_of_le (by simpa using Nat.sub_eq_zero_iff_le.mp (Nat.le_zero.mp h))
    simp [runLength.go, hnil]
  | succ left ih =>
    unfold runLength.go
    cases hdrop : t.toList.drop pos with
    | nil =>
      have hnone : t[pos]? = none := by simpa [List.head?_drop] using congrArg List.head? hdrop
      simp [hnone]
    | cons c rest =>
      have hsome : t[pos]? = some c := by simpa [List.head?_drop] using congrArg List.head? hdrop
      have hrest : t.toList.drop (pos + 1) = rest := by rw [← List.drop_drop, hdrop]; rfl
      rw [hsome]
      cases hp : p c with
      | true => simp [hp, ih (pos + 1) (by omega), hrest]
      | false => simp [hp]

/-- Of all counts the greatest is taken if what follows refuses every smaller one. -/
theorem tryDown_of_refused {k : Rest} {s : Place} {least more : Nat}
    (h : ∀ j < more, k { s with pos := s.pos + (least + j) } = none) :
    tryDown k s least more = k { s with pos := s.pos + (least + more) } := by
  cases more with
  | zero => rfl
  | succ more =>
    -- What is tried first stands alone: all that is tried after it is refused.
    have hrest : ∀ n ≤ more, tryDown k s least n = none := by
      intro n
      induction n with
      | zero =>
        intro _
        exact h 0 (Nat.succ_pos _)
      | succ n ih =>
        intro hn
        have hnone := h (n + 1) (by omega)
        simp only [← Nat.add_assoc] at hnone
        simp [tryDown, hnone, ih (by omega)]
    simp only [tryDown, hrest more le_rfl, ← Nat.add_assoc]
    cases k { s with pos := s.pos + least + more + 1 } <;> rfl

/-- A run of characters is taken whole if what follows refuses to begin with one of them. -/
theorem repeatChar_greedy {t : Array Char} {p : Char → Bool} {k : Rest} (least : Nat) (s : Place)
    (hk : ∀ s', (∀ c ∈ (behind t s').head?, p c = true) → behind t s' ≠ [] → k s' = none) :
    repeatChar t p .greedy least none s k =
      if ((behind t s).takeWhile p).length < least then none
      else k { s with pos := s.pos + ((behind t s).takeWhile p).length } := by
  have hrun : runLength t p (t.size - s.pos) s.pos = ((behind t s).takeWhile p).length :=
    runLength_go t p s.pos _ le_rfl
  unfold repeatChar
  simp only [Option.getD_none, Nat.min_self, hrun]
  split
  · rfl
  next hleast =>
    rw [tryDown_of_refused]
    · rw [Nat.add_sub_cancel' (Nat.le_of_not_lt hleast)]
    · intro j hj
      have hlt : least + j < ((behind t s).takeWhile p).length := by omega
      have hcut : (behind t s).drop (least + j) =
          ((behind t s).takeWhile p).drop (least + j) ++ (behind t s).dropWhile p := by
        rw [← List.drop_append_of_le_length (Nat.le_of_lt hlt), List.takeWhile_append_dropWhile]
      rw [List.drop_eq_getElem_cons hlt] at hcut
      apply hk
      · intro c hc
        rw [behind_add, hcut] at hc
        cases hc
        exact List.all_eq_true.mp List.all_takeWhile _ (List.getElem_mem hlt)
      · rw [behind_add, hcut]
        exact List.cons_ne_nil _ _

/-! ## All matches -/

/-- The spans of the matches from a place on that do not overlap. A match without characters is not followed by another at
its place. -/
def spansFrom (p : Pattern) (t : Array Char) (nonEmpty : Bool) (pos : Nat) : Nat → List (Nat × Nat)
  | 0 => []
  | left + 1 =>
    match searchFrom p t nonEmpty pos (t.size - pos) with
    | none => []
    | some (start, stop) => (start, stop) :: spansFrom p t (start == stop) stop left

/-- The spans of all matches in a text, in order. -/
def spans (p : Pattern) (cs : List Char) : List (Nat × Nat) := spansFrom p cs.toArray false 0 (2 * cs.length + 2)

/-- The characters of a group of the match that begins at a place. -/
def groupAt? (p : Pattern) (cs : List Char) (start n : Nat) : Option (List Char) :=
  ((p.tree.run cs.toArray p.flags ⟨start, []⟩ some).bind (·.group? n)).map fun (first, last) =>
    (cs.drop first).take (last - first)

/-- The matches that are counted are these. -/
theorem count_eq (p : Pattern) (text : String) : count p text = (spans p text.toList).length := by
  have hfrom : ∀ (t : Array Char) left nonEmpty pos,
      countFrom p t nonEmpty pos left = (spansFrom p t nonEmpty pos left).length := by
    intro t left
    induction left with
    | zero => exact fun _ _ => rfl
    | succ left ih =>
      intro nonEmpty pos
      rcases h : searchFrom p t nonEmpty pos (t.size - pos) with _ | ⟨start, stop⟩
      · simp only [countFrom, spansFrom, h, List.length_nil]
      · simp only [countFrom, spansFrom, h, List.length_cons, ih]
  simp [count, spans, hfrom]

/-- Where spans lead that follow each other without a gap from a place on. -/
def covered (pos : Nat) : List (Nat × Nat) → Option Nat
  | [] => some pos
  | (start, stop) :: rest => if start = pos then covered stop rest else none

theorem searchFrom_of_matchAt {p : Pattern} {t : Array Char} {nonEmpty : Bool} {pos stop : Nat}
    (h : matchAt p t nonEmpty pos = some stop) (left : Nat) : searchFrom p t nonEmpty pos left = some (pos, stop) := by
  cases left <;> simp [searchFrom, h]

/-- What is found where nothing begins, begins behind. -/
theorem lt_of_searchFrom {p : Pattern} {t : Array Char} {nonEmpty : Bool} {pos left start stop : Nat}
    (hnone : matchAt p t nonEmpty pos = none) (h : searchFrom p t nonEmpty pos left = some (start, stop)) : pos < start := by
  induction left generalizing nonEmpty pos with
  | zero => simp [searchFrom, hnone] at h
  | succ left ih =>
    simp only [searchFrom, hnone] at h
    cases hnext : matchAt p t false (pos + 1) with
    | none => exact Nat.lt_of_succ_lt (ih hnext h)
    | some stop' =>
      rw [searchFrom_of_matchAt hnext] at h
      cases h
      exact Nat.lt_succ_self pos

end Rehearsal.Pattern
