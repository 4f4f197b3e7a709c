import Rehearsal.Files.Tree

/-!
# Putting a file in a tree

`get?_put` is what a tree holds after an entry was put in it. A path that led to an entry leads to the same place in every
tree that keeps open what it goes through (`Tree.KeepsOpen.walk`): all that is passed on the way are directories and links.
So new contents for a file do not move it (`walk_put`).
-/

namespace Rehearsal.Files

namespace Tree

theorem lookup_map_put {entries : List (List String × Entry)} {p q : List String} {e : Entry} :
    (entries.map fun (r, old) => (r, if r == p then e else old)).lookup q =
      (entries.lookup q).map fun old => if q == p then e else old := by
  induction entries with
  | nil => rfl
  | cons pair rest ih =>
    obtain ⟨r, old⟩ := pair
    simp only [List.map_cons, List.lookup_cons]
    cases hr : q == r with
    | true => rw [eq_of_beq hr, Option.map_some]
    | false => exact ih

theorem lookup_put (t : Tree) (p : List String) (e : Entry) (q : List String) :
    (t.put p e).entries.lookup q = if q = p then some e else t.entries.lookup q := by
  have hany : t.entries.any (·.1 == p) = (t.entries.lookup p).isSome := by
    rw [Bool.eq_iff_iff, List.any_eq_true, List.lookup_isSome_iff]
    simp only [BEq.comm]
  rw [put, hany]
  by_cases hq : q = p
  · rw [if_pos hq, hq]
    split
    next hsome =>
      obtain ⟨old, hold⟩ := Option.isSome_iff_exists.mp hsome
      rw [lookup_map_put, hold, Option.map_some, if_pos (beq_self_eq_true p)]
    next hnone =>
      rw [Option.not_isSome_iff_eq_none] at hnone
      rw [List.lookup_append, hnone, Option.none_or, List.lookup_cons_self]
  · have hne : (q == p) = false := beq_eq_false_iff_ne.mpr hq
    rw [if_neg hq]
    split
    next =>
      rw [lookup_map_put]
      simp only [hne, Bool.false_eq_true, if_false, Option.map_id_fun', id]
    next => simp [List.lookup_append, List.lookup_cons, hne]

/-- What a tree holds after an entry was put in it. The root is never replaced. -/
theorem get?_put {t : Tree} {p : List String} (hp : p ≠ []) (e : Entry) (q : List String) :
    (t.put p e).get? q = if q = p then some e else t.get? q := by
  rw [get?, get?]
  cases q with
  | nil => simp [hp.symm]
  | cons name rest => simpa using lookup_put t p e (name :: rest)

/-- Nothing that stands anywhere else is replaced. -/
theorem get?_put_of_ne {t : Tree} {p q : List String} (h : q ≠ p) (e : Entry) : (t.put p e).get? q = t.get? q := by
  rw [get?, get?, lookup_put, if_neg h]

/-- What a tree holds after an entry was taken away. -/
theorem get?_erase {t : Tree} {p : List String} (hp : p ≠ []) (q : List String) :
    (t.erase p).get? q = if q = p then none else t.get? q := by
  have hlookup : (t.erase p).entries.lookup q = if q = p then none else t.entries.lookup q := by
    rw [erase]
    induction t.entries with
    | nil => simp
    | cons pair rest ih =>
      obtain ⟨r, e⟩ := pair
      by_cases hrp : r = p
      · rw [List.filter_cons_of_neg (by simpa using hrp), ih, List.lookup_cons]
        split
        next => rfl
        next hqp => rw [beq_eq_false_iff_ne.mpr (hrp ▸ hqp : q ≠ r)]
      · rw [List.filter_cons_of_pos (by simpa using hrp), List.lookup_cons, List.lookup_cons, ih]
        cases hqr : q == r with
        | true => exact (if_neg (eq_of_beq hqr ▸ hrp)).symm
        | false => rfl
  rw [get?, get?]
  cases q with
  | nil => simp [hp.symm]
  | cons name rest => simpa using hlookup

theorem child_iff {place p : List String} {name : String} :
    (if p.length == place.length + 1 && place.isPrefixOf p then p.getLast? else none) = some name ↔ p = place ++ [name] := by
  split
  next hbelow =>
    rw [Bool.and_eq_true, beq_iff_eq, List.isPrefixOf_iff_prefix] at hbelow
    obtain ⟨hlength, rest, rfl⟩ := hbelow
    obtain ⟨last, rfl⟩ := List.length_eq_one_iff.mp (show rest.length = 1 by simpa using hlength)
    simp
  next hbelow =>
    refine iff_of_false (fun h => nomatch h) ?_
    rintro rfl
    exact hbelow (by simp)

/-- The names in a directory are those that something stands under there. -/
theorem mem_children_iff {t : Tree} {place : List String} {name : String} :
    name ∈ t.children place ↔ (t.get? (place ++ [name])).isSome = true := by
  have hne : (place ++ [name]).isEmpty = false := by simp
  rw [get?, hne, if_neg Bool.false_ne_true, List.lookup_isSome_iff, children, List.mem_filterMap]
  exact exists_congr fun pair => and_congr_right fun _ => child_iff.trans (beq_iff_eq.trans eq_comm).symm

end Tree

/-- What a path leads to stands there in the tree. -/
theorem get?_of_walk {t : Tree} {follow : Bool} {links : Nat} {directory path p : List String} {e : Entry}
    (h : walk t follow links directory path = .ok (.entry p e)) : t.get? p = some e := by
  fun_induction walk t follow links directory path
  case case1 hhere =>
    cases h
    exact hhere
  case case11 hlink _ =>
    cases h
    exact hlink
  case case14 hentry _ =>
    cases h
    exact hentry
  case case6 ih => exact ih h
  case case7 ih => exact ih h
  case case13 ih => exact ih h
  case case15 ih => exact ih h
  all_goals cases h

/-! ## Trees that paths go through as they did -/

/-- An entry that paths go through, or end at, as they did at another. -/
structure Entry.KeepsOpen (e e' : Entry) : Prop where
  directory : e'.isDirectory = e.isDirectory
  search : e.isDirectory = true → e.allows searchBit = true → e'.allows searchBit = true
  link : ∀ target, e' = .link target ↔ e = .link target

theorem Entry.KeepsOpen.refl (e : Entry) : e.KeepsOpen e := ⟨rfl, fun _ h => h, fun _ => Iff.rfl⟩

/-- A tree in which every entry of another one has a place that keeps open what it did. -/
def Tree.KeepsOpen (t t' : Tree) : Prop := ∀ path e, t.get? path = some e → ∃ e', t'.get? path = some e' ∧ e.KeepsOpen e'

/-- **A path to an entry leads to the same place in a tree that keeps open what it goes through.** -/
theorem Tree.KeepsOpen.walk {t t' : Tree} (hopen : t.KeepsOpen t') {follow : Bool} {links : Nat} {directory path p : List String}
    {e : Entry} (h : walk t follow links directory path = .ok (.entry p e)) :
    ∃ e', Files.walk t' follow links directory path = .ok (.entry p e') := by
  -- A directory that is passed can be passed.
  have hpass : ∀ {q here}, t.get? q = some here → ¬(!here.isDirectory) = true → ¬(!here.allows searchBit) = true →
      ∃ here', t'.get? q = some here' ∧ here'.isDirectory = true ∧ here'.allows searchBit = true := by
    intro q here hget hdir hsearch
    simp only [Bool.not_eq_true', Bool.not_eq_false] at hdir hsearch
    obtain ⟨here', hget', hkeeps⟩ := hopen q here hget
    exact ⟨here', hget', hkeeps.directory.trans hdir, hkeeps.search hdir hsearch⟩
  have hlinked : ∀ {q target}, t.get? q = some (.link target) → t'.get? q = some (.link target) := by
    intro q target hget
    obtain ⟨e', hget', hkeeps⟩ := hopen q _ hget
    rw [hget', (hkeeps.link target).mpr rfl]
  fun_induction Files.walk t follow links directory path
  case case1 hhere =>
    cases h
    obtain ⟨e', he', -⟩ := hopen _ _ hhere
    exact ⟨e', by rw [Files.walk, he']⟩
  case case6 hhere hdir hmode hname ih =>
    obtain ⟨here', hhere', hdir', hmode'⟩ := hpass hhere hdir hmode
    rw [Files.walk, hhere']
    simp only [hdir', hmode', hname, if_true]
    exact ih h
  case case7 hhere hdir hmode hdot hdots ih =>
    obtain ⟨here', hhere', hdir', hmode'⟩ := hpass hhere hdir hmode
    rw [Files.walk, hhere']
    simp only [hdir', hmode', hdot, hdots, if_true]
    exact ih h
  case case11 hhere hdir hmode hdot hdots hlong target hlink hstop =>
    cases h
    obtain ⟨here', hhere', hdir', hmode'⟩ := hpass hhere hdir hmode
    refine ⟨.link target, ?_⟩
    rw [Files.walk, hhere', hlinked hlink]
    simp only [hdir', hmode', hdot, hdots, hlong, hstop, Bool.not_true, Bool.false_eq_true, if_false, if_true]
  case case13 hhere hdir hmode hdot hdots hlong target hlink hstop links ih =>
    obtain ⟨here', hhere', hdir', hmode'⟩ := hpass hhere hdir hmode
    rw [Files.walk, hhere', hlinked hlink]
    simp only [hdir', hmode', hdot, hdots, hlong, hstop, Bool.not_true, Bool.false_eq_true, if_false]
    exact ih h
  case case14 hhere hdir hmode hdot hdots hlong e hnolink hentry hstop =>
    cases h
    obtain ⟨here', hhere', hdir', hmode'⟩ := hpass hhere hdir hmode
    obtain ⟨e', he', hkeeps⟩ := hopen _ _ hentry
    refine ⟨e', ?_⟩
    rw [Files.walk, hhere', he']
    simp only [hdir', hmode', hdot, hdots, hlong, hstop, Bool.not_true, Bool.false_eq_true, if_false, if_true]
    cases e' with
    | link target => exact absurd ((hkeeps.link target).mp rfl) (hnolink target)
    | _ => rfl
  case case15 hhere hdir hmode hdot hdots hlong e hnolink hentry hstop hnext ih =>
    obtain ⟨here', hhere', hdir', hmode'⟩ := hpass hhere hdir hmode
    obtain ⟨e', he', hkeeps⟩ := hopen _ _ hentry
    have hnext' := hkeeps.directory.trans hnext
    rw [Files.walk, hhere', he']
    simp only [hdir', hmode', hdot, hdots, hlong, hstop, Bool.not_true, Bool.false_eq_true, if_false]
    cases e' with
    | directory mode => exact ih h
    | _ => cases hnext'
  all_goals cases h

/-- An entry that no path goes on from. -/
def Entry.isEnd (e : Entry) : Bool := !e.isDirectory && !e.isLink

/-- What no path goes on from is as good as any other that none does. -/
theorem Entry.KeepsOpen.of_isEnd {old new : Entry} (hold : old.isEnd) (hnew : new.isEnd) : old.KeepsOpen new := by
  have hend : ∀ {e : Entry}, e.isEnd → e.isDirectory = false ∧ ∀ target, e ≠ .link target := by
    rintro (_ | _ | _ | _) h <;> simp_all [isEnd, isDirectory, isLink]
  refine ⟨(hend hnew).1.trans (hend hold).1.symm, fun hdir => ?_, fun target => ?_⟩
  · rw [(hend hold).1] at hdir
    cases hdir
  · exact iff_of_false ((hend hnew).2 target) ((hend hold).2 target)

/-- Where new contents are put in place of what a path leads to, the path leads to them. -/
theorem walk_put {t : Tree} {follow : Bool} {links : Nat} {directory path p : List String} {old new : Entry}
    (hold : old.isEnd) (hnew : new.isEnd) (h : walk t follow links directory path = .ok (.entry p old)) :
    walk (t.put p new) follow links directory path = .ok (.entry p new) := by
  have hget := get?_of_walk h
  have hp : p ≠ [] := by
    rintro rfl
    cases hget
    cases hold
  have hopen : t.KeepsOpen (t.put p new) := by
    intro q e hq
    rw [Tree.get?_put hp]
    by_cases hqp : q = p
    · subst hqp
      cases hget.symm.trans hq
      exact ⟨new, if_pos rfl, .of_isEnd hold hnew⟩
    · exact ⟨e, by rw [if_neg hqp, hq], .refl e⟩
  obtain ⟨e', hwalk⟩ := hopen.walk h
  have hnew' := get?_of_walk hwalk
  rw [Tree.get?_put hp, if_pos rfl] at hnew'
  rwa [← Option.some.inj hnew'] at hwalk

end Rehearsal.Files
