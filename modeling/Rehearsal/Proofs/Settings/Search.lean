import Mathlib.Data.Nat.Find
import Rehearsal.Settings.Search

/-!
# The nearest settings

The search for settings goes up from a directory. Said without the search: its limit is the first directory on the way up
that holds the mark of a root, or the top (`IsLimit`); what it finds is in the nearest directory that has what is looked for
(`IsNearest`), if that is no farther than the limit (`directory?_eq_some_iff`, `file?_eq_some_iff`). The limit is the root of
the project if it holds the mark (`projectRoot_eq`).

From a directory between the one that the search began in and the one that it ended in, it ends there too
(`directory?_ancestor`).
-/

namespace Rehearsal.Settings

open Files

/-- The directory that is some steps above another. At the top it stays. -/
def ancestor (start : List String) (steps : Nat) : List String := start.take (start.length - steps)

section Ancestors

variable {start : List String} {i j : Nat}

@[simp] theorem ancestor_zero (start : List String) : ancestor start 0 = start := by
  rw [ancestor, Nat.sub_zero, List.take_length]

theorem ancestor_isPrefix (start : List String) (i : Nat) : ancestor start i <+: start := List.take_prefix _ _

theorem length_ancestor (start : List String) (i : Nat) : (ancestor start i).length = start.length - i := by
  rw [ancestor, List.length_take]
  omega

theorem ancestor_ancestor (start : List String) (i j : Nat) : ancestor (ancestor start i) j = ancestor start (i + j) := by
  rw [ancestor, length_ancestor, ancestor, List.take_take, ancestor]
  congr 1
  omega

/-- What stands in front of the names of a directory is a directory above it. -/
theorem eq_ancestor_of_isPrefix {dir : List String} (h : dir <+: start) :
    dir = ancestor start (start.length - dir.length) := by
  have hlength := h.length_le
  rw [ancestor, List.prefix_iff_eq_take.mp h, List.length_take]
  congr 1
  omega

theorem getElem?_upward (names : List String) (i : Nat) :
    (upward names)[i]? = if i ≤ names.length then some (names.drop i) else none := by
  induction names generalizing i with
  | nil => cases i <;> rfl
  | cons name names ih =>
    cases i with
    | zero => rfl
    | succ i =>
      rw [upward, List.getElem?_cons_succ, ih]
      simp

/-- The directories that are passed on the way up. -/
theorem getElem?_ancestors (start : List String) (i : Nat) :
    ((upward start.reverse).map List.reverse)[i]? = if i ≤ start.length then some (ancestor start i) else none := by
  rw [List.getElem?_map, getElem?_upward, List.length_reverse]
  split
  · rw [Option.map_some, List.drop_reverse, List.reverse_reverse, ancestor]
  · rfl

end Ancestors

/-! ## Searching up to the first -/

section Through

variable {α : Type} {p q : α → Bool} {l : List α} {a : α}

/-- What is found up to the first item that ends the search: the first that is looked for, with none before it that ends
it. -/
theorem find?_through_eq_some_iff :
    (through p l).find? q = some a ↔
      ∃ i : Nat, l[i]? = some a ∧ q a = true ∧ ∀ j < i, ∀ b, l[j]? = some b → p b = false ∧ q b = false := by
  induction l with
  | nil => simp [through]
  | cons x l ih =>
    have hstep : (through p (x :: l)).find? q = if q x then some x else if p x then none else (through p l).find? q := by
      rw [through]
      cases hq : q x <;> cases hp : p x <;> simp [hq]
    rw [hstep]
    constructor
    · intro h
      split at h
      next hq =>
        cases h
        exact ⟨0, rfl, hq, fun j hj => absurd hj (Nat.not_lt_zero j)⟩
      next hq =>
        split at h
        next => cases h
        next hp =>
          obtain ⟨i, hi, ha, hbefore⟩ := ih.mp h
          refine ⟨i + 1, by rwa [List.getElem?_cons_succ], ha, fun j hj b hb => ?_⟩
          cases j with
          | zero =>
            cases hb
            exact ⟨by simpa using hp, by simpa using hq⟩
          | succ j => exact hbefore j (Nat.lt_of_succ_lt_succ hj) b (by rwa [List.getElem?_cons_succ] at hb)
    · rintro ⟨i, hi, ha, hbefore⟩
      cases i with
      | zero =>
        cases hi
        rw [if_pos ha]
      | succ i =>
        obtain ⟨hp, hq⟩ := hbefore 0 (Nat.succ_pos i) x rfl
        rw [hq, hp, if_neg Bool.false_ne_true, if_neg Bool.false_ne_true]
        refine ih.mpr ⟨i, by rwa [List.getElem?_cons_succ] at hi, ha, fun j hj b hb => ?_⟩
        exact hbefore (j + 1) (Nat.succ_lt_succ hj) b (by rwa [List.getElem?_cons_succ])

end Through

/-! ## The limit of the search -/

/-- How many steps up the search goes: to the first directory that holds the mark of a root, or else to the top. -/
structure IsLimit (d : Disk) (start : List String) (limit : Nat) : Prop where
  within : limit ≤ start.length
  before : ∀ i < limit, isProjectRoot d (ancestor start i) = false
  reached : isProjectRoot d (ancestor start limit) = true ∨ limit = start.length

/-- How many steps up the nearest directory is that has one with settings in it. -/
structure IsNearest (d : Disk) (start : List String) (steps : Nat) : Prop where
  holds : d.isDirectory (inside (ancestor start steps) directoryName) = true
  before : ∀ i < steps, d.isDirectory (inside (ancestor start i) directoryName) = false

variable {d : Disk} {start : List String} {limit i : Nat}

theorem exists_isLimit (d : Disk) (start : List String) : ∃ limit, IsLimit d start limit := by
  classical
  by_cases h : ∃ i ≤ start.length, isProjectRoot d (ancestor start i) = true
  · obtain ⟨hwithin, hroot⟩ := Nat.find_spec h
    refine ⟨Nat.find h, hwithin, fun i hi => ?_, .inl hroot⟩
    rw [Bool.eq_false_iff]
    exact fun hi' => Nat.find_min h hi ⟨by omega, hi'⟩
  · refine ⟨start.length, Nat.le_refl _, fun i hi => ?_, .inr rfl⟩
    rw [Bool.eq_false_iff]
    exact fun hi' => h ⟨i, Nat.le_of_lt hi, hi'⟩

/-- No directory that is passed on the way to one holds the mark of a root exactly if that one is no farther than the
limit. -/
theorem IsLimit.le_iff (h : IsLimit d start limit) :
    i ≤ limit ↔ i ≤ start.length ∧ ∀ j < i, isProjectRoot d (ancestor start j) = false := by
  constructor
  · exact fun hi => ⟨Nat.le_trans hi h.within, fun j hj => h.before j (by omega)⟩
  · rintro ⟨hi, hbefore⟩
    by_contra hfar
    rcases h.reached with hroot | htop
    · exact absurd (hroot.symm.trans (hbefore limit (by omega))) (by decide)
    · omega

/-- What is found on the way up to the limit. -/
theorem find?_searched_eq_some_iff (h : IsLimit d start limit) {q : List String → Bool} {dir : List String} :
    (searched d start).find? q = some dir ↔
      ∃ i ≤ limit, dir = ancestor start i ∧ q (ancestor start i) = true ∧ ∀ j < i, q (ancestor start j) = false := by
  rw [searched, find?_through_eq_some_iff]
  simp only [getElem?_ancestors, h.le_iff]
  constructor
  · rintro ⟨i, hi, hq, hbefore⟩
    split at hi
    next hle =>
      cases hi
      have hpassed : ∀ j < i, isProjectRoot d (ancestor start j) = false ∧ q (ancestor start j) = false :=
        fun j hj => hbefore j hj _ (if_pos (by omega))
      exact ⟨i, ⟨hle, fun j hj => (hpassed j hj).1⟩, rfl, hq, fun j hj => (hpassed j hj).2⟩
    next => cases hi
  · rintro ⟨i, ⟨hle, hroots⟩, rfl, hq, hbefore⟩
    refine ⟨i, if_pos hle, hq, fun j hj b hb => ?_⟩
    rw [if_pos (by omega)] at hb
    cases hb
    exact ⟨hroots j hj, hbefore j hj⟩

/-- **The root of a project** is where the search ends, if the mark is there. -/
theorem projectRoot_eq (h : IsLimit d start limit) :
    projectRoot d start = if isProjectRoot d (ancestor start limit) then ancestor start limit else start := by
  rw [projectRoot]
  split
  next hroot =>
    rw [(find?_searched_eq_some_iff h).mpr ⟨limit, Nat.le_refl _, rfl, hroot, h.before⟩]
    rfl
  next hroot =>
    have hnone : (searched d start).find? (isProjectRoot d) = none := by
      rw [Option.eq_none_iff_forall_ne_some]
      intro dir hfind
      obtain ⟨i, hi, -, hfound, -⟩ := (find?_searched_eq_some_iff h).mp hfind
      rcases Nat.lt_or_eq_of_le hi with hlt | rfl
      · exact absurd (hfound.symm.trans (h.before i hlt)) (by decide)
      · exact hroot hfound
    rw [hnone]
    rfl

/-- The root of a project is one of the directories that are searched. -/
theorem exists_projectRoot (h : IsLimit d start limit) : ∃ i ≤ limit, projectRoot d start = ancestor start i := by
  rw [projectRoot_eq h]
  split
  · exact ⟨limit, Nat.le_refl _, rfl⟩
  · exact ⟨0, Nat.zero_le _, (ancestor_zero start).symm⟩

/-- **The directory with settings is the nearest one within the limit.** -/
theorem directory?_eq_some_iff (h : IsLimit d start limit) {dir : List String} :
    directory? d start = some dir ↔ ∃ i ≤ limit, IsNearest d start i ∧ dir = ancestor start i ++ [directoryName] := by
  rw [directory?, Option.map_eq_some_iff]
  simp only [find?_searched_eq_some_iff h]
  constructor
  · rintro ⟨_, ⟨i, hi, rfl, hholds, hbefore⟩, rfl⟩
    exact ⟨i, hi, ⟨hholds, hbefore⟩, rfl⟩
  · rintro ⟨i, hi, ⟨hholds, hbefore⟩, rfl⟩
    exact ⟨_, ⟨i, hi, rfl, hholds, hbefore⟩, rfl⟩

/-- No directory with settings is found exactly if there is none within the limit. -/
theorem directory?_eq_none_iff (h : IsLimit d start limit) :
    directory? d start = none ↔ ∀ i ≤ limit, d.isDirectory (inside (ancestor start i) directoryName) = false := by
  rw [Option.eq_none_iff_forall_ne_some]
  constructor
  · intro hnone i
    induction i using Nat.strongRecOn with
    | ind i ih =>
      intro hi
      rw [Bool.eq_false_iff]
      intro hholds
      exact hnone _ ((directory?_eq_some_iff h).mpr ⟨i, hi, ⟨hholds, fun j hj => ih j hj (by omega)⟩, rfl⟩)
  · intro hall dir hdir
    obtain ⟨i, hi, hnearest, -⟩ := (directory?_eq_some_iff h).mp hdir
    exact absurd (hnearest.holds.symm.trans (hall i hi)) (by decide)

/-- **The settings file is that of the nearest directory with settings, and of no other.** -/
theorem file?_eq_some_iff (h : IsLimit d start limit) {f : String} :
    file? d start = some f ↔
      ∃ i ≤ limit, IsNearest d start i ∧ f = inside (ancestor start i ++ [directoryName]) fileName ∧ d.isFile f = true := by
  rw [file?]
  constructor
  · intro hfile
    split at hfile
    next => cases hfile
    next dir hdir =>
      obtain ⟨i, hi, hnearest, rfl⟩ := (directory?_eq_some_iff h).mp hdir
      split at hfile
      next hisFile =>
        cases hfile
        exact ⟨i, hi, hnearest, rfl, hisFile⟩
      next => cases hfile
  · rintro ⟨i, hi, hnearest, rfl, hisFile⟩
    rw [(directory?_eq_some_iff h).mpr ⟨i, hi, hnearest, rfl⟩]
    exact if_pos hisFile

/-! ## Searching again from above -/

theorem IsLimit.above (h : IsLimit d start limit) (hi : i ≤ limit) : IsLimit d (ancestor start i) (limit - i) := by
  have hwithin := h.within
  refine ⟨by rw [length_ancestor]; omega, fun j hj => ?_, ?_⟩
  · rw [ancestor_ancestor]
    exact h.before _ (by omega)
  · rw [ancestor_ancestor, length_ancestor, Nat.add_sub_cancel' hi]
    exact h.reached.imp id (by omega)

theorem IsNearest.above {steps : Nat} (h : IsNearest d start steps) (hi : i ≤ steps) :
    IsNearest d (ancestor start i) (steps - i) := by
  refine ⟨?_, fun j hj => ?_⟩
  · rw [ancestor_ancestor, Nat.add_sub_cancel' hi]
    exact h.holds
  · rw [ancestor_ancestor]
    exact h.before _ (by omega)

/-- From a directory between where the search began and where it ended, it ends there too. -/
theorem directory?_ancestor (h : IsLimit d start limit) {steps : Nat} (hsteps : steps ≤ limit) (hnearest : IsNearest d start steps)
    (hi : i ≤ steps) : directory? d (ancestor start i) = some (ancestor start steps ++ [directoryName]) := by
  refine (directory?_eq_some_iff (h.above (Nat.le_trans hi hsteps))).mpr
    ⟨steps - i, by omega, hnearest.above hi, ?_⟩
  rw [ancestor_ancestor, Nat.add_sub_cancel' hi]

end Rehearsal.Settings
