import Mathlib
import Rehearsal.Proofs.Files.Clearing

/-!
# Removing a subtree

A directory is removed in a fixed course: what is below it is made writable, then what is in it is taken away, and at last the
entry that its path names (`Course`). `Disk.Removes` is what is promised of that for every path: it is gone when the removal
succeeds, nothing outside the subtree is other than it was, and of a link at most the link itself is taken away.

Whether the path names a link is asked before, but asked of the path as it is written. With a slash at its end the system
follows a link there, so the question is answered for the directory behind it, and everything is done to that directory up to
the last step, which is refused. `Access.removeAll_removes` says that this is the only way in which the promise is broken.

What this does not decide: whether a directory can be removed. That rests on the permissions on the way to it and on how long
the paths below it are.
-/

namespace Rehearsal.Files

open Step (eval Keeps Fails Lasting)

/-! ## The last name of a path -/

section LastName

variable {t : Tree} {links : Nat} {start path xs : List String} {name p : String} {e : Entry} {d : Disk}

/-- What a name at the end of a path leads to, a link there not followed, is not the root. -/
theorem ne_nil_of_walk (hdot : name ≠ ".") (hdots : name ≠ "..")
    (h : walk t false links start (xs ++ [name]) = .ok (.entry path e)) : path ≠ [] := by
  obtain ⟨r, here, hfront, hdir⟩ := exists_directory_of_walk h
  obtain ⟨left, happend⟩ := exists_walk_append hfront hdir
  rw [happend false [name] (by simp), walk] at h
  simp only [beq_eq_false_iff_ne.mpr hdot, beq_eq_false_iff_ne.mpr hdots, List.isEmpty_nil, Bool.not_false, Bool.and_true,
    Bool.false_eq_true, if_true, if_false] at h
  -- What is looked up in a directory stands under a name.
  iterate 4
    split at h
    next => cases h
  split at h
  next => cases h
  all_goals
    cases h
    simp

theorem exists_pieces_of_ending (h : ending p = .name) :
    ∃ front name, Path.pieces p = front ++ [name] ∧ name ≠ "." ∧ name ≠ ".." := by
  rw [ending] at h
  split at h
  next => cases h
  next => cases h
  next => cases h
  next last hdot hdots hlast =>
    obtain ⟨front, hfront⟩ := List.getLast?_eq_some_iff.mp hlast
    refine ⟨front, last, hfront, ?_, ?_⟩
    · rintro rfl
      exact hdot rfl
    · rintro rfl
      exact hdots rfl

theorem Disk.ne_nil_of_spot (hending : ending p = .name) (h : d.spot p none = .ok (.entry path e)) : path ≠ [] := by
  obtain ⟨front, name, hpieces, hdot, hdots⟩ := exists_pieces_of_ending hending
  obtain ⟨-, -, hwalk⟩ := locate_eq_ok_iff.mp (Disk.spot_eq_ok_iff.mp h).2
  rw [Path.pieces] at hpieces
  rw [hpieces] at hwalk
  exact ne_nil_of_walk hdot hdots hwalk

/-- A path that leads somewhere, links followed, leads there too when a link at its end is not, or names a link. -/
theorem walk_false_of_walk_true (h : walk t true links start xs = .ok (.entry path e)) :
    walk t false links start xs = .ok (.entry path e) ∨
      ∃ r target, walk t false links start xs = .ok (.entry r (.link target)) := by
  fun_induction walk t true links start xs
  case case1 hhere =>
    left
    rw [walk, hhere]
    exact h
  case case6 hhere hdir hmode hname ih =>
    rw [walk, hhere]
    simp only [hdir, hmode, hname, if_true]
    exact ih h
  case case7 hhere hdir hmode hdot hdots ih =>
    rw [walk, hhere]
    simp only [hdir, hmode, hdot, hdots, if_true]
    exact ih h
  case case11 hstop => simp at hstop
  case case13 directory name rest here hhere hdir hmode hdot hdots hlong target hlink hstop links ih =>
    rw [walk, hhere, hlink]
    simp only [hdir, hmode, hdot, hdots, hlong, Bool.not_false, Bool.and_true, if_false]
    by_cases hlast : rest.isEmpty = true
    · rw [if_pos hlast]
      exact .inr ⟨_, target, rfl⟩
    · rw [if_neg hlast]
      exact ih h
  case case14 hhere hdir hmode hdot hdots hlong e hnolink hentry hstop =>
    cases h
    refine .inl ?_
    rw [walk, hhere, hentry]
    simp only [hdir, hmode, hdot, hdots, hlong, hstop, Bool.false_eq_true, if_false, if_true]
  case case15 hhere hdir hmode hdot hdots hlong e hnolink hentry hstop hnext ih =>
    rw [walk, hhere, hentry]
    simp only [hdir, hmode, hdot, hdots, hlong, hstop, hnext, if_false, if_true]
    exact ih h
  all_goals cases h

end LastName

namespace Access

variable {d d' : Disk} {p : String}

/-- A refusal after a look changes nothing. -/
theorem eval_look_refuse {α : Type} (f : Disk → Except Error α) (why : Refusal) (p : String) (d : Disk) :
    ∃ e, eval (do let _ ← look f; refuse why p : Access Unit) d = (.error e, d) := by
  rw [Step.eval_bind, eval_look]
  cases f d with
  | ok => exact ⟨_, rfl⟩
  | error e => exact ⟨e, rfl⟩

/-- An empty directory is taken away, or nothing is done. -/
theorem removeDirectory_cases (p : String) (d : Disk) :
    (∃ e, eval (removeDirectory p) d = (.error e, d)) ∨
      ∃ path mode, path ≠ [] ∧ d.spot p none = .ok (.entry path (.directory mode)) ∧ d.tree.children path = [] ∧
        eval (removeDirectory p) d = (.ok (), d.without path) := by
  rw [removeDirectory]
  split
  next => exact .inl (eval_look_refuse _ .invalid p d)
  next => exact .inl (eval_look_refuse _ .notEmpty p d)
  next => split <;> exact .inl ⟨_, rfl⟩
  next hending =>
    rw [Step.eval_bind, eval_look]
    rcases hspot : d.spot p none with e | ⟨path, e⟩ | ⟨directory, name⟩
    · exact .inl ⟨e, rfl⟩
    · simp only [Step.eval_get_bind]
      split
      next => exact .inl ⟨_, rfl⟩
      split
      next => exact .inl ⟨_, rfl⟩
      next hdir =>
        split
        next => exact .inl ⟨_, rfl⟩
        next hempty =>
          cases e with
          | directory mode => exact .inr ⟨path, mode, Disk.ne_nil_of_spot hending hspot, rfl, by simpa using hempty, rfl⟩
          | file | link | device => simp [Entry.isDirectory] at hdir
    · exact .inl ⟨_, rfl⟩

/-- What is no directory is taken away, or nothing is done. -/
theorem unlink_cases (p : String) (d : Disk) :
    (∃ e, eval (unlink p) d = (.error e, d)) ∨
      ∃ path e, path ≠ [] ∧ endsInSlash p = false ∧ d.spot p none = .ok (.entry path e) ∧ e.isDirectory = false ∧
        eval (unlink p) d = (.ok (), d.without path) := by
  rw [unlink]
  split
  next =>
    left
    rw [Step.eval_bind, eval_look]
    cases d.find true p with
    | ok => exact ⟨_, rfl⟩
    | error e => exact ⟨e, rfl⟩
  next hending =>
    rw [Step.eval_bind, eval_look]
    rcases hspot : d.spot p none with e | ⟨path, e⟩ | ⟨directory, name⟩
    · exact .inl ⟨e, rfl⟩
    · dsimp only
      split
      next => exact .inl ⟨_, rfl⟩
      next hslash =>
        rw [Step.eval_get_bind]
        split
        next => exact .inl ⟨_, rfl⟩
        split
        next => exact .inl ⟨_, rfl⟩
        next hdir =>
          have hne := Disk.ne_nil_of_spot (by simpa using hending) hspot
          exact .inr ⟨path, e, hne, by simpa using hslash, rfl, by simpa using hdir, rfl⟩
    · exact .inl ⟨_, rfl⟩

/-- How the removal of a directory may go: what is below its place is made writable, then what is in it is taken away, and
at last the entry that its path names. A refusal stops it. -/
inductive Course (p : String) (place : List String) (d : Disk) : Except Error Unit → Disk → Prop
  | stopped {u v : Disk} {e : Error} (opened : d.Opens place u) (thinned : u.Thins place v)
    (emptied : endsInSlash p = true → e = .refused .notDirectory p none → v.tree.children place = []) :
    Course p place d (.error e) v
  | finished {u v : Disk} {path : List String} {mode : Nat} (opened : d.Opens place u) (thinned : u.Thins place v)
    (named : path ≠ []) (spot : v.spot p none = .ok (.entry path (.directory mode))) (empty : v.tree.children path = []) :
    Course p place d (.ok ()) (v.without path)

variable {u : Disk} {place : List String} {e : Entry}

theorem course_removeTree (hopened : d.Opens place u) (hfind : u.find true p = .ok (place, e)) :
    Course p place d (eval (removeTree p) u).1 (eval (removeTree p) u).2 := by
  have hlook : eval (look fun u => u.find true p) u = (.ok (place, e), u) := by rw [eval_look, hfind]
  rw [removeTree, Step.eval_bind_of_ok hlook]
  dsimp only
  split
  next =>
    rw [Step.eval_get_bind]
    have hthins := thins_removeContents place (u.tree.entries.length + 1) u
    have hfails := fails_removeContents place (u.tree.entries.length + 1) u
    rcases hrun : eval (removeContents place (u.tree.entries.length + 1)) u with ⟨why | _, v⟩
    · rw [Keeps, hrun] at hthins
      rw [Fails, hrun] at hfails
      rw [Step.eval_bind_of_error hrun]
      exact .stopped hopened hthins fun _ h => absurd h (hfails why rfl p none)
    · rw [Keeps, hrun] at hthins
      rw [Step.eval_bind_of_ok hrun]
      rcases removeDirectory_cases p v with ⟨why, hlast⟩ | ⟨path, mode, hne, hspot, hempty, hlast⟩
      · rw [hlast]
        exact .stopped hopened hthins fun _ _ => children_of_removeContents hrun
      · rw [hlast]
        exact .finished hopened hthins hne hspot hempty
  next =>
    refine .stopped (e := .refused .noAccess p none) hopened (Lasting.refl u) fun _ h => ?_
    cases h

/-- A directory that is not named by a link is removed in this way. -/
theorem course_removeAll (hsound : d.tree.Sound) {mode : Nat} (hfind : d.find true p = .ok (place, .directory mode))
    (hlink : d.isLink p = false) : Course p place d (eval (removeAll p) d).1 (eval (removeAll p) d).2 := by
  have hdir : d.isDirectory p = true := Disk.isDirectory_iff.mpr ⟨place, _, hfind, rfl⟩
  have hplace : ∀ r e, d.find true p = .ok (r, e) → place <+: r := fun r e h => by
    rw [hfind] at h
    cases h
    exact List.prefix_rfl
  have hopens := opens_openBelow (d.tree.entries.length + 1) hsound hplace
  have hfails : Fails ShowsName (openBelow p (d.tree.entries.length + 1)) d := fails_openBelow _ hsound
  rw [removeAll, Step.eval_get_bind, hdir, hlink]
  simp only [Bool.not_false, Bool.and_self, if_true]
  rcases hrun : eval (openBelow p (d.tree.entries.length + 1)) d with ⟨why | _, u⟩
  · rw [Keeps, hrun] at hopens
    rw [Fails, hrun] at hfails
    rw [Step.eval_bind_of_error hrun]
    refine .stopped hopens (Lasting.refl u) fun hslash h => ?_
    rw [hfails why rfl .notDirectory p none h] at hslash
    cases hslash
  · rw [Keeps, hrun] at hopens
    rw [Step.eval_bind_of_ok hrun]
    obtain ⟨e, hfind', hopened⟩ := hopens.find hfind
    obtain ⟨mode', rfl⟩ : ∃ mode', e = .directory mode' := by cases hopened <;> exact ⟨_, rfl⟩
    rw [Step.eval_bind_of_ok (Disk.eval_chmod hfind' openMode)]
    have hwide := Disk.opens_putEntry (Disk.get?_of_find hfind')
    obtain ⟨e'', hfind'', -⟩ := hwide.find hfind'
    exact course_removeTree (Lasting.trans hopens hwide) hfind''

end Access

/-! ## What is removed -/

namespace Disk

variable {d d' u : Disk} {p : String} {place r : List String} {e : Entry} {follow : Bool}

/-- What a path names where no link is followed at its end, in one way or the other. -/
theorem spot_cases (hfind : d.find true p = .ok (place, e)) :
    d.spot p none = .ok (.entry place e) ∨ ∃ r target, d.spot p none = .ok (.entry r (.link target)) := by
  obtain ⟨hnull, -, hlocate⟩ := find_eq_ok_iff.mp hfind
  obtain ⟨hne, hshort, hwalk⟩ := locate_eq_ok_iff.mp hlocate
  rcases walk_false_of_walk_true hwalk with hself | ⟨r, target, hlink⟩
  · exact .inl (spot_eq_ok_iff.mpr ⟨hnull, locate_eq_ok_iff.mpr ⟨hne, hshort, hself⟩⟩)
  · exact .inr ⟨r, target, spot_eq_ok_iff.mpr ⟨hnull, locate_eq_ok_iff.mpr ⟨hne, hshort, hlink⟩⟩⟩

/-- A path without a slash at its end is found where it is taken away. -/
theorem find_false_iff_spot (hslash : endsInSlash p = false) :
    d.find false p = .ok (r, e) ↔ d.spot p none = .ok (.entry r e) := by
  rw [find_eq_ok_iff_locate, spot_eq_ok_iff, hslash, Bool.or_false]
  simp

/-- A path with a slash at its end is found as if links were followed. -/
theorem find_false_of_slash (hslash : endsInSlash p = true) : d.find false p = d.find true p := by
  rw [find, find, Files.find, Files.find, hslash, Bool.or_true, Bool.or_true]

theorem find_false_of_spot (hfind : d.find true p = .ok (place, e)) (hspot : d.spot p none = .ok (.entry place e)) :
    d.find false p = .ok (place, e) := by
  cases hslash : endsInSlash p with
  | true => rw [find_false_of_slash hslash, hfind]
  | false => exact (find_false_iff_spot hslash).mpr hspot

/-- What leads somewhere, links followed, leads somewhere when one at its end is not. -/
theorem present_of_find (hfind : d.find true p = .ok (place, e)) : d.present p = true := by
  rcases spot_cases hfind with hspot | ⟨r, target, hspot⟩
  · exact present_iff.mpr ⟨place, e, find_false_of_spot hfind hspot⟩
  · cases hslash : endsInSlash p with
    | true => exact present_iff.mpr ⟨place, e, by rw [find_false_of_slash hslash, hfind]⟩
    | false => exact present_iff.mpr ⟨r, _, (find_false_iff_spot hslash).mpr hspot⟩

/-- Whether a path reaches a directory through a link that is its last name, by a slash at its end. -/
def ThroughLink (d : Disk) (p : String) (link place : List String) : Prop :=
  endsInSlash p = true ∧ (∃ target, d.spot p none = .ok (.entry link (.link target))) ∧
    ∃ mode, d.find true p = .ok (place, .directory mode)

/-- A disk on which directories at or below a place were made writable and entries there were taken away, and nothing else
was done. -/
structure Fades (top : List String) (d d' : Disk) : Prop where
  base : d'.base = d.base
  outside : ∀ q, ¬top <+: q → d'.tree.get? q = d.tree.get? q
  within : ∀ q e', d'.tree.get? q = some e' → ∃ e, d.tree.get? q = some e ∧ e.Opens e'

instance : Lasting (Fades place) where
  refl _ := ⟨rfl, fun _ _ => rfl, fun _ e hget => ⟨e, hget, .refl e⟩⟩
  trans h h' := by
    refine ⟨h'.base.trans h.base, fun q hq => (h'.outside q hq).trans (h.outside q hq), fun q e'' hget => ?_⟩
    obtain ⟨e', hget', hopens'⟩ := h'.within q e'' hget
    obtain ⟨e, hget, hopens⟩ := h.within q e' hget'
    exact ⟨e, hget, hopens.trans hopens'⟩

theorem Opens.fades (h : d.Opens place d') : d.Fades place d' :=
  ⟨h.base, h.outside, fun _ _ => h.exists_get?_of_get?⟩

theorem Thins.fades (h : d.Thins place d') : d.Fades place d' :=
  ⟨h.base, fun q hq => h.outside q fun hbelow => hq hbelow.isPrefix, fun q e hget => ⟨e, h.entries q e hget, .refl e⟩⟩

theorem fades_without (hne : place ≠ []) : d.Fades place (d.without place) := by
  refine ⟨rfl, fun q hq => ?_, fun q e hget => ⟨e, (entries_without hne hget).2, .refl e⟩⟩
  rw [get?_without hne, if_neg]
  rintro rfl
  exact hq List.prefix_rfl

/-- A path leads nowhere when what it led to is taken away. -/
theorem present_without (hne : place ≠ []) (h : ∀ r e, d.find false p = .ok (r, e) → r = place) :
    (d.without place).present p = false := by
  rw [Bool.eq_false_iff, Ne, present_iff]
  rintro ⟨r, e, hfind⟩
  have hopen : (d.without place).tree.KeepsOpen d.tree := fun q e hget => ⟨e, (entries_without hne hget).2, .refl e⟩
  have hbase : d.base = (d.without place).base := rfl
  obtain ⟨e', hfind'⟩ := find_of_keepsOpen hbase hopen hfind
  exact (entries_without hne (get?_of_find hfind)).1 (h r e' hfind')

/-- Nothing is left at or below a place when what is there is taken away and nothing is in it. -/
theorem get?_without_of_isPrefix (hne : place ≠ []) (hwhole : d.tree.Whole) (hempty : d.tree.children place = [])
    {q : List String} (hq : place <+: q) : (d.without place).tree.get? q = none := by
  obtain ⟨below, rfl⟩ := hq
  rw [get?_without hne]
  split
  next => rfl
  next hother => exact hwhole.get?_append_eq_none hempty fun h => hother (by rw [h, List.append_nil])

/-- What is promised of removing a path, for the result and the disk that is left: if it succeeds, nothing is there any more;
nothing outside the subtree is other than it was; of a link no more than the link itself is taken away; and where the path
names nothing, nothing is done. -/
structure Removes (p : String) (d : Disk) (result : Except Error Unit) (d' : Disk) : Prop where
  fades : ∀ place e, d.spot p none = .ok (.entry place e) → d.Fades place d'
  nothing : d.present p = false → d' = d
  gone : result = .ok () → d'.present p = false
  subtree : result = .ok () → d.present p = true → ∀ place e, d.spot p none = .ok (.entry place e) →
    ∀ q, place <+: q → d'.tree.get? q = none
  link : ∀ place target, d.spot p none = .ok (.entry place (.link target)) →
    ∀ q, q ≠ place → d'.tree.get? q = d.tree.get? q

/-- What becomes of a directory that is reached through a link: it stays, and when the last step alone is refused, because a
link is no directory, nothing is left in it. -/
structure Empties (p : String) (place : List String) (d : Disk) (result : Except Error Unit) (d' : Disk) : Prop
    extends Fades place d d' where
  fails : ∃ e, result = .error e
  stays : ∃ mode, d'.tree.get? place = some (.directory mode)
  emptied : result = .error (.refused .notDirectory p none) → ∀ q, Below place q → d'.tree.get? q = none

/-- Where nothing was done, all is as promised, unless something should have been taken away. -/
theorem removes_self {result : Except Error Unit} (h : result = .ok () → d.present p = false) : d.Removes p result d :=
  ⟨fun _ _ _ => Lasting.refl d, fun _ => rfl, h, fun hok hpresent => by simp [h hok] at hpresent, fun _ _ _ _ _ => rfl⟩

end Disk

namespace Access

variable {d d' : Disk} {p : String} {place link : List String} {mode : Nat} {result : Except Error Unit}

/-- A path is taken away where it was before directories were opened and entries taken away, if it is there. -/
theorem eq_of_spot {u v : Disk} {path : List String} {e e' : Entry} (hopened : d.Opens place u) (hthinned : u.Thins place v)
    (hbefore : d.spot p none = .ok (.entry path e)) {path' : List String} (hafter : v.spot p none = .ok (.entry path' e')) :
    path' = path ∧ e.Opens e' := by
  have hlocate := (Disk.spot_eq_ok_iff.mp hbefore).2
  have hlocate' := (Disk.spot_eq_ok_iff.mp hafter).2
  obtain ⟨e₁, hfirst⟩ := Disk.locate_of_keepsOpen hopened.base hopened.keepsOpen hlocate
  obtain ⟨e₂, hlast⟩ := Disk.locate_of_keepsOpen hthinned.base.symm hthinned.keepsOpen hlocate'
  cases hfirst.symm.trans hlast
  refine ⟨rfl, ?_⟩
  have hget := get?_of_walk (locate_eq_ok_iff.mp hlocate).2.2
  have hget' := get?_of_walk (locate_eq_ok_iff.mp hlocate').2.2
  obtain ⟨e₃, hthere, hopens⟩ := hopened.exists_get? hget
  cases hthere.symm.trans (hthinned.entries _ _ hget')
  exact hopens

/-- A directory is removed as promised where no link is its last name. -/
theorem Course.removes (h : Course p place d result d') (hsound : d.tree.Sound)
    (hfind : d.find true p = .ok (place, .directory mode)) (hspot : d.spot p none = .ok (.entry place (.directory mode))) :
    d.Removes p result d' := by
  have honly : ∀ {r e}, d.spot p none = .ok (.entry r e) → r = place ∧ e = .directory mode := fun h => by
    cases hspot.symm.trans h
    exact ⟨rfl, rfl⟩
  have hnothing : d.present p = false → d' = d := fun hnone => by
    rw [Disk.present_of_find hfind] at hnone
    cases hnone
  have hlink : ∀ r target, d.spot p none = .ok (.entry r (.link target)) → ∀ q, q ≠ r → d'.tree.get? q = d.tree.get? q :=
    fun _ _ h => nomatch (honly h).2
  cases h with
  | stopped hopened hthinned =>
    refine ⟨fun r e hspot' => ?_, hnothing, fun h => (nomatch h), fun h => (nomatch h), hlink⟩
    obtain ⟨rfl, -⟩ := honly hspot'
    exact Lasting.trans hopened.fades hthinned.fades
  | @finished u v path mode' hopened hthinned hne hspot' hempty =>
    obtain ⟨rfl, -⟩ := eq_of_spot hopened hthinned hspot hspot'
    have hwhole : v.tree.Whole := hthinned.whole (hopened.sound hsound).whole
    refine ⟨fun r e hspot' => ?_, hnothing, fun _ => ?_, fun _ _ r e hspot' => ?_, hlink⟩
    · obtain ⟨rfl, -⟩ := honly hspot'
      exact Lasting.trans hopened.fades (Lasting.trans hthinned.fades (Disk.fades_without hne))
    · refine Disk.present_without hne fun r e hfind' => ?_
      obtain ⟨e₁, hself, -⟩ := hopened.find (Disk.find_false_of_spot hfind hspot)
      obtain ⟨e₂, hself'⟩ := Disk.find_of_keepsOpen hthinned.base.symm hthinned.keepsOpen hfind'
      cases hself.symm.trans hself'
      rfl
    · obtain ⟨rfl, -⟩ := honly hspot'
      exact fun q hq => Disk.get?_without_of_isPrefix hne hwhole hempty hq

/-- A directory is emptied where a link is the last name of its path. -/
theorem Course.empties (h : Course p place d result d') (hsound : d.tree.Sound) (hlink : d.ThroughLink p link place) :
    d.Empties p place result d' := by
  obtain ⟨hslash, ⟨target, hspot⟩, mode, hfind⟩ := hlink
  cases h with
  | finished hopened hthinned hne hspot' =>
    cases (eq_of_spot hopened hthinned hspot hspot').2
  | @stopped u v why hopened hthinned hemptied =>
    refine ⟨Lasting.trans hopened.fades hthinned.fades, ⟨why, rfl⟩, ?_, fun hwhy q hq => ?_⟩
    · obtain ⟨e, hget, hopens⟩ := hopened.exists_get? (Disk.get?_of_find hfind)
      have hself : ¬Below place place := fun ⟨below, hne, h⟩ => hne (by simpa using h)
      rw [hthinned.outside place hself, hget]
      cases hopens <;> exact ⟨_, rfl⟩
    · cases hwhy
      obtain ⟨below, hne, rfl⟩ := hq
      exact (hthinned.whole (hopened.sound hsound).whole).get?_append_eq_none (hemptied hslash rfl) hne

/-- What is no directory is removed as promised. -/
theorem removes_unlink (hsound : d.tree.Sound) (hpresent : d.present p = true) :
    d.Removes p (eval (unlink p) d).1 (eval (unlink p) d).2 := by
  rcases unlink_cases p d with ⟨why, hrun⟩ | ⟨path, e, hne, hslash, hspot, hdir, hrun⟩
  · rw [hrun]
    exact Disk.removes_self fun h => nomatch h
  · rw [hrun]
    have honly : ∀ {r e'}, d.spot p none = .ok (.entry r e') → r = path := fun h => by
      cases hspot.symm.trans h
      rfl
    have hempty := hsound.whole.children_eq_nil (get?_of_walk (locate_eq_ok_iff.mp (Disk.spot_eq_ok_iff.mp hspot).2).2.2) hdir
    refine ⟨fun r e' h => ?_, fun hnone => ?_, fun _ => ?_, fun _ _ r e' h => ?_, fun r target h => ?_⟩
    · obtain rfl := honly h
      exact Disk.fades_without hne
    · rw [hpresent] at hnone
      cases hnone
    · exact Disk.present_without hne fun r e' hfind => honly ((Disk.find_false_iff_spot hslash).mp hfind)
    · obtain rfl := honly h
      exact fun q hq => Disk.get?_without_of_isPrefix hne hsound.whole hempty hq
    · obtain rfl := honly h
      exact fun q hq => (Disk.get?_without hne q).trans (if_neg hq)

/-- What leads to no directory, or is a link, is removed as promised. -/
theorem removes_of_not_directory (hsound : d.tree.Sound) (h : ¬(d.isDirectory p && !d.isLink p) = true) :
    d.Removes p (eval (removeAll p) d).1 (eval (removeAll p) d).2 := by
  rw [removeAll, Step.eval_get_bind, if_neg h]
  cases hpresent : d.present p with
  | true => exact removes_unlink hsound hpresent
  | false => exact Disk.removes_self fun _ => hpresent

/-- Where a directory that is reached through a link is left alone, all is as promised. -/
theorem removes_of_empties (hlink : d.ThroughLink p link place) (hempties : d.Empties p place result d')
    (hsame : ∀ q, q ≠ link → d'.tree.get? q = d.tree.get? q) : d.Removes p result d' := by
  obtain ⟨-, ⟨target, hspot⟩, mode, hfind⟩ := hlink
  obtain ⟨e, he⟩ := hempties.fails
  have hnot : result ≠ .ok () := by simp [he]
  refine ⟨fun r e' h => ?_, fun hnone => ?_, fun h => absurd h hnot, fun h => absurd h hnot, fun r target' h => ?_⟩
  · cases hspot.symm.trans h
    refine ⟨hempties.base, fun q hq => hsame q ?_, hempties.within⟩
    rintro rfl
    exact hq List.prefix_rfl
  · rw [Disk.present_of_find hfind] at hnone
    cases hnone
  · cases hspot.symm.trans h
    exact hsame

/-- A directory that is not named by a link has its own path, or is reached through a link. -/
theorem spot_or_throughLink (hfind : d.find true p = .ok (place, .directory mode)) (hlink : d.isLink p = false) :
    d.spot p none = .ok (.entry place (.directory mode)) ∨ ∃ link, d.ThroughLink p link place := by
  rcases Disk.spot_cases hfind with hspot | ⟨link, target, hspot⟩
  · exact .inl hspot
  · cases hslash : endsInSlash p with
    | true => exact .inr ⟨link, hslash, ⟨target, hspot⟩, mode, hfind⟩
    | false =>
      rw [Disk.isLink_iff.mpr ⟨link, target, (Disk.find_false_iff_spot hslash).mpr hspot⟩] at hlink
      cases hlink

/-- **A path is removed as promised unless a slash at its end reaches through a link**: then the directory that the link leads
to is emptied, and the removal fails. -/
theorem removeAll_removes (hsound : d.tree.Sound) (p : String) :
    (d.Removes p (eval (removeAll p) d).1 (eval (removeAll p) d).2 ↔
      ∀ link place, d.ThroughLink p link place → ∀ q, q ≠ link → (eval (removeAll p) d).2.tree.get? q = d.tree.get? q) ∧
    ∀ link place, d.ThroughLink p link place → d.Empties p place (eval (removeAll p) d).1 (eval (removeAll p) d).2 := by
  have hempties : ∀ link place, d.ThroughLink p link place →
      d.Empties p place (eval (removeAll p) d).1 (eval (removeAll p) d).2 := fun link place hlink => by
    obtain ⟨hslash, -, mode, hfind⟩ := id hlink
    refine (course_removeAll hsound hfind ?_).empties hsound hlink
    rw [Disk.isLink, Disk.find?, Disk.find_false_of_slash hslash, hfind]
    rfl
  refine ⟨⟨fun h link place hlink => ?_, fun h => ?_⟩, hempties⟩
  · obtain ⟨-, ⟨target, hspot⟩, -⟩ := hlink
    exact h.link link target hspot
  · by_cases htree : (d.isDirectory p && !d.isLink p) = true
    · obtain ⟨hdir, hlink⟩ := Bool.and_eq_true_iff.mp htree
      obtain ⟨place, e, hfind, hdir⟩ := Disk.isDirectory_iff.mp hdir
      cases e with
      | directory mode =>
        have hlink : d.isLink p = false := by simpa using hlink
        rcases spot_or_throughLink hfind hlink with hspot | ⟨link, hthrough⟩
        · exact (course_removeAll hsound hfind hlink).removes hsound hfind hspot
        · exact removes_of_empties hthrough (hempties link place hthrough) (h link place hthrough)
      | file | link | device => cases hdir
    · exact removes_of_not_directory hsound htree

/-! ### A link beside what it leads to -/

/-- A directory with a file in it, and a link to it. -/
def linkedDisk : Disk := ⟨⟨[(["d"], .directory 0o755), (["d", "f"], .file 0o644 [120]), (["l"], .link "d")]⟩, []⟩

theorem sound_linkedDisk : linkedDisk.tree.Sound := Tree.sound_of_entries (by decide) (by decide)

theorem throughLink_linkedDisk : linkedDisk.ThroughLink "l/" ["l"] ["d"] := ⟨by cbv, ⟨"d", by cbv⟩, 0o755, by cbv⟩

/-- The link is removed as promised by its name, and the directory behind it is emptied by the name with a slash. -/
theorem removeAll_removes_linked :
    linkedDisk.tree.Sound ∧
      linkedDisk.Removes "l" (eval (removeAll "l") linkedDisk).1 (eval (removeAll "l") linkedDisk).2 ∧
      linkedDisk.Empties "l/" ["d"] (eval (removeAll "l/") linkedDisk).1 (eval (removeAll "l/") linkedDisk).2 := by
  refine ⟨sound_linkedDisk, (removeAll_removes sound_linkedDisk "l").1.mpr fun link place h => ?_,
    (removeAll_removes sound_linkedDisk "l/").2 ["l"] ["d"] throughLink_linkedDisk⟩
  have hslash : endsInSlash "l" = false := by cbv
  rw [h.1] at hslash
  cases hslash

/-- A file is gone from the directory that a link leads to, and the removal is not as promised. -/
theorem removeAll_reaches_target :
    linkedDisk.tree.Sound ∧ linkedDisk.spot "l/" none = .ok (.entry ["l"] (.link "d")) ∧
      (eval (removeAll "l/") linkedDisk).1 = .error (.refused .notDirectory "l/" none) ∧
      linkedDisk.tree.get? ["d", "f"] = some (.file 0o644 [120]) ∧
      (eval (removeAll "l/") linkedDisk).2.tree.get? ["d", "f"] = none ∧
      ¬linkedDisk.Removes "l/" (eval (removeAll "l/") linkedDisk).1 (eval (removeAll "l/") linkedDisk).2 := by
  have hspot : linkedDisk.spot "l/" none = .ok (.entry ["l"] (.link "d")) := by cbv
  have hbefore : linkedDisk.tree.get? ["d", "f"] = some (.file 0o644 [120]) := by cbv
  have hafter : (eval (removeAll "l/") linkedDisk).2.tree.get? ["d", "f"] = none := by cbv
  refine ⟨sound_linkedDisk, hspot, by cbv, hbefore, hafter, fun h => ?_⟩
  have hsame := h.link ["l"] "d" hspot ["d", "f"] (by decide)
  rw [hafter, hbefore] at hsame
  cases hsame

end Access

end Rehearsal.Files
