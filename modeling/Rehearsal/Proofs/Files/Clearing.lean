import Rehearsal.Proofs.Files.Entries

/-!
# Opening and clearing directories

Before a directory is taken away, the directories below it and it itself are made writable. `Disk.Opens top` says what that
comes to on the whole disk: directories at or below a place have the mode for it, and all else is as it was. A path leads
where it led (`Opens.find`).

The directories are named by paths. What a name in a directory leads to stands in the directory itself, if it is not the name
of a link. So what is made writable below a path is below the place that the path leads to (`Access.opens_openBelow`), and no
link takes it elsewhere.

What is in a directory is taken away in the directory itself: no path is followed. `Disk.Thins top` says what that comes to on
the whole disk: entries below a place are gone, and all else is as it was (`Access.thins_removeContents`). An entry is taken
away only if nothing is below it, so a tree stays whole. When it succeeds nothing is left in the directory
(`Access.children_of_removeContents`), and when it fails then not because something is no directory
(`Access.fails_removeContents`).
-/

namespace Rehearsal.Files

open Step (eval Keeps Fails Lasting)

/-! ## Opened directories -/

/-- The same entry, or a directory that was made writable. -/
inductive Entry.Opens : Entry → Entry → Prop
  | refl (e : Entry) : Opens e e
  | opened (mode : Nat) : Opens (.directory mode) (.directory Access.openMode)

namespace Entry.Opens

variable {e e' e'' : Entry}

theorem trans (h : e.Opens e') (h' : e'.Opens e'') : e.Opens e'' := by
  cases h with
  | refl => exact h'
  | opened mode =>
    cases h' with
    | refl => exact .opened mode
    | opened => exact .opened mode

theorem keepsOpen (h : e.Opens e') : e.KeepsOpen e' := by
  cases h with
  | refl => exact .refl e
  | opened mode => exact ⟨rfl, fun _ _ => by decide, by simp⟩

end Entry.Opens

namespace Disk

/-- A disk on which directories at or below a place were made writable, and nothing else was done. -/
structure Opens (top : List String) (d d' : Disk) : Prop where
  base : d'.base = d.base
  outside : ∀ q, ¬top <+: q → d'.tree.get? q = d.tree.get? q
  entries : ∀ q, Option.Rel Entry.Opens (d.tree.get? q) (d'.tree.get? q)

variable {d d' d'' : Disk} {top : List String} {p name : String} {follow : Bool} {place r : List String} {e here : Entry}

instance : Lasting (Opens top) where
  refl d := by
    refine ⟨rfl, fun _ _ => rfl, fun q => ?_⟩
    cases d.tree.get? q with
    | none => exact .none
    | some e => exact .some (.refl e)
  trans {d d' d''} h h' := by
    refine ⟨h'.base.trans h.base, fun q hq => (h'.outside q hq).trans (h.outside q hq), fun q => ?_⟩
    have hfirst := h.entries q
    have hlast := h'.entries q
    generalize d.tree.get? q = before, d'.tree.get? q = between, d''.tree.get? q = after at hfirst hlast
    cases hfirst with
    | none => exact hlast
    | some hopens =>
      cases hlast with
      | some hopens' => exact .some (hopens.trans hopens')

namespace Opens

theorem mono {upper : List String} (h : d.Opens top d') (hupper : upper <+: top) : d.Opens upper d' :=
  ⟨h.base, fun q hq => h.outside q fun htop => hq (hupper.trans htop), h.entries⟩

theorem exists_get? (h : d.Opens top d') (hget : d.tree.get? r = some e) : ∃ e', d'.tree.get? r = some e' ∧ e.Opens e' := by
  have hentry := h.entries r
  rw [hget] at hentry
  generalize d'.tree.get? r = after at hentry
  cases hentry with
  | some hopens => exact ⟨_, rfl, hopens⟩

theorem exists_get?_of_get? (h : d.Opens top d') (hget : d'.tree.get? r = some e) :
    ∃ e', d.tree.get? r = some e' ∧ e'.Opens e := by
  have hentry := h.entries r
  rw [hget] at hentry
  generalize d.tree.get? r = before at hentry
  cases hentry with
  | some hopens => exact ⟨_, rfl, hopens⟩

theorem keepsOpen (h : d.Opens top d') : d.tree.KeepsOpen d'.tree := fun q e hget => by
  obtain ⟨e', hget', hopens⟩ := h.exists_get? hget
  exact ⟨e', hget', hopens.keepsOpen⟩

theorem sound (h : d.Opens top d') (hsound : d.tree.Sound) : d'.tree.Sound := by
  refine ⟨fun place name e hget => ?_, fun place name e hget => ?_⟩
  · obtain ⟨e', hget', -⟩ := h.exists_get?_of_get? hget
    obtain ⟨mode, hplace⟩ := hsound.whole place name e' hget'
    obtain ⟨here, hplace', hopens⟩ := h.exists_get? hplace
    cases hopens with
    | refl => exact ⟨mode, hplace'⟩
    | opened => exact ⟨_, hplace'⟩
  · obtain ⟨e', hget', -⟩ := h.exists_get?_of_get? hget
    exact hsound.named place name e' hget'

theorem find (h : d.Opens top d') (hfind : d.find follow p = .ok (r, e)) :
    ∃ e', d'.find follow p = .ok (r, e') ∧ e.Opens e' := by
  obtain ⟨e', hfind'⟩ := find_of_keepsOpen h.base h.keepsOpen hfind
  obtain ⟨e'', hget, hopens⟩ := h.exists_get? (get?_of_find hfind)
  obtain rfl := Option.some.inj (hget.symm.trans (get?_of_find hfind'))
  exact ⟨e'', hfind', hopens⟩

end Opens

/-- A disk on which one directory was made writable. -/
theorem opens_putEntry {mode : Nat} (hget : d.tree.get? r = some (.directory mode)) :
    d.Opens r (d.putEntry r (.directory Access.openMode)) := by
  refine ⟨rfl, fun q hq => Tree.get?_put_of_ne (fun h => hq ⟨[], by rw [h, List.append_nil]⟩) _, fun q => ?_⟩
  by_cases hqr : q = r
  · subst hqr
    by_cases hroot : q = []
    · subst hroot
      exact .some (.refl _)
    · rw [putEntry, Tree.get?_put hroot, if_pos rfl, hget]
      exact .some (.opened mode)
  · rw [putEntry, Tree.get?_put_of_ne hqr]
    exact (Lasting.refl d : d.Opens [] d).entries q

end Disk

/-! ## Making directories writable -/

namespace Access

variable {d t : Disk} {top place r : List String} {p full : String} {e : Entry}

theorem eval_look {α : Type} (f : Disk → Except Error α) (d : Disk) : eval (look f) d = (f d, d) := by
  rw [look, Step.eval_get_bind]
  cases f d <;> rfl

theorem mem_directoriesIn (h : full ∈ directoriesIn d p) :
    ∃ place here name, d.find true p = .ok (place, here) ∧ here.isDirectory = true ∧ name ∈ d.tree.children place ∧
      leadsToDirectory d place p name = true ∧ full = Path.join p name := by
  rw [directoriesIn] at h
  split at h
  next => exact absurd h List.not_mem_nil
  next place here hfind =>
    split at h
    next hlist =>
      obtain ⟨name, hname, rfl⟩ := List.mem_map.mp h
      obtain ⟨hchild, hleads⟩ := List.mem_filter.mp hname
      exact ⟨place, here, name, hfind, (Bool.and_eq_true_iff.mp hlist).1, hchild, hleads, rfl⟩
    next => exact absurd h List.not_mem_nil

/-- What is found under the path of a directory in another, if that is no link, is a directory below the place of the other. -/
theorem isPrefix_of_mem_directoriesIn (hsound : d.tree.Sound) (hplace : ∀ r e, d.find true p = .ok (r, e) → top <+: r)
    (hfull : full ∈ directoriesIn d p) (hopens : d.Opens top t) (hlink : t.isLink full = false) :
    ∀ r e, t.find true full = .ok (r, e) → top <+: r ∧ e.isDirectory = true := by
  intro r e h
  obtain ⟨place, here, name, hfind, hdir, hchild, hleads, rfl⟩ := mem_directoriesIn hfull
  obtain ⟨child, hget⟩ := Option.isSome_iff_exists.mp (Tree.mem_children_iff.mp hchild)
  obtain ⟨here', hfind', hhere⟩ := hopens.find hfind
  obtain ⟨child', hget', hchild'⟩ := hopens.exists_get? hget
  obtain ⟨rfl, hplain⟩ := Disk.eq_of_find_join hfind' (hhere.keepsOpen.directory.trans hdir) (hsound.named _ _ _ hget) hlink h
  cases hget'.symm.trans (Disk.get?_of_find h)
  refine ⟨(hplace place here hfind).trans (List.prefix_append place [name]), ?_⟩
  rw [leadsToDirectory, hget] at hleads
  cases hchild' with
  | opened => rfl
  | refl =>
    cases e with
    | directory => rfl
    | link => cases hplain
    | file | device => cases hleads

theorem endsInSlash_of_mem_directoriesIn (hsound : d.tree.Sound) (hfull : full ∈ directoriesIn d p) :
    endsInSlash full = false := by
  obtain ⟨place, here, name, -, -, hchild, -, rfl⟩ := mem_directoriesIn hfull
  obtain ⟨child, hget⟩ := Option.isSome_iff_exists.mp (Tree.mem_children_iff.mp hchild)
  have hname := hsound.named _ _ _ hget
  exact Disk.endsInSlash_join p hname.nonempty hname.slash

/-- A directory below a place is made writable. -/
theorem opens_chmod (h : ∀ r e, d.find true p = .ok (r, e) → top <+: r ∧ e.isDirectory = true) :
    Keeps (Disk.Opens top) (chmod p openMode) d := by
  cases hfind : d.find true p with
  | error why =>
    rw [Keeps, chmod, Step.eval_bind, eval_look, hfind]
    exact Lasting.refl d
  | ok found =>
    obtain ⟨r, e⟩ := found
    obtain ⟨htop, hdir⟩ := h r e hfind
    rw [Keeps, Disk.eval_chmod hfind]
    cases e with
    | directory mode => exact (Disk.opens_putEntry (Disk.get?_of_find hfind)).mono htop
    | file | link | device => cases hdir

section Unlinked

variable {R : Disk → Disk → Prop} [Lasting R] {paths : List String} {act : String → Access Unit}

theorem keeps_forUnlinked (h : ∀ full ∈ paths, ∀ t, R d t → t.isLink full = false → Keeps R (act full) t) :
    Keeps R (forUnlinked paths act) d := by
  refine Step.keeps_bind (Step.keeps_forIn_of_mem fun full hfull _ t hkept => Step.keeps_get_bind ?_) fun _ t _ =>
    Step.keeps_pure _ t
  split
  next => exact Step.keeps_pure _ t
  next hlink => exact Step.keeps_bind (h full hfull t hkept (by simpa using hlink)) fun _ u _ => Step.keeps_pure _ u

theorem fails_forUnlinked {P : Error → Prop}
    (hkeeps : ∀ full ∈ paths, ∀ t, R d t → t.isLink full = false → Keeps R (act full) t)
    (h : ∀ full ∈ paths, ∀ t, R d t → Fails P (act full) t) : Fails P (forUnlinked paths act) d := by
  refine Step.fails_bind (Step.fails_forIn (R := R) (fun full hfull _ t hkept => Step.keeps_get_bind ?_)
    fun full hfull _ t hkept => Step.fails_get_bind ?_) fun _ t _ => Step.fails_pure _ t
  · split
    next => exact Step.keeps_pure _ t
    next hlink => exact Step.keeps_bind (hkeeps full hfull t hkept (by simpa using hlink)) fun _ u _ => Step.keeps_pure _ u
  · split
    next => exact Step.fails_pure _ t
    next => exact Step.fails_bind (h full hfull t hkept) fun _ u _ => Step.fails_pure _ u

end Unlinked

/-- The directories in one are made writable. -/
theorem opens_directoriesIn (hsound : d.tree.Sound) (hplace : ∀ r e, d.find true p = .ok (r, e) → top <+: r) :
    Keeps (Disk.Opens top) (forUnlinked (directoriesIn d p) (chmod · openMode)) d :=
  keeps_forUnlinked fun _ hfull _ hopens hlink =>
    opens_chmod (isPrefix_of_mem_directoriesIn hsound hplace hfull hopens hlink)

/-- **Opening what is below a path changes modes of directories below its place**, and nothing that only a link leads to. -/
theorem opens_openBelow (n : Nat) (hsound : d.tree.Sound) (hplace : ∀ r e, d.find true p = .ok (r, e) → top <+: r) :
    Keeps (Disk.Opens top) (openBelow p n) d := by
  induction n generalizing d p with
  | zero => exact Step.keeps_pure _ d
  | succ n ih =>
    rw [openBelow]
    refine Step.keeps_get_bind (Step.keeps_bind_of_kept (opens_directoriesIn hsound hplace) fun _ u hfirst =>
      keeps_forUnlinked fun full hfull t hopens hlink => ?_)
    have hopens := Lasting.trans hfirst hopens
    have hbelow := isPrefix_of_mem_directoriesIn hsound hplace hfull hopens hlink
    exact ih (hopens.sound hsound) fun r e h => (hbelow r e h).1

/-- Whether the path that an error shows has no slash at its end. -/
def ShowsName (e : Error) : Prop := ∀ why shown link, e = .refused why shown link → endsInSlash shown = false

theorem fails_chmod (hslash : endsInSlash p = false) (mode : Nat) (d : Disk) : Fails ShowsName (chmod p mode) d := by
  cases hfind : d.find true p with
  | ok found =>
    obtain ⟨r, e⟩ := found
    rw [Fails, Disk.eval_chmod hfind]
    intro _ h
    cases h
  | error why =>
    rw [Fails, chmod, Step.eval_bind, eval_look, hfind]
    rintro _ ⟨⟩ refusal shown link rfl
    rw [Disk.find] at hfind
    split at hfind
    · cases hfind
    · split at hfind <;> cases hfind
      exact hslash

/-- What is refused when directories are made writable is refused for a path of names, not for one that ends in a slash. -/
theorem fails_openBelow (n : Nat) (hsound : d.tree.Sound) : Fails ShowsName (openBelow p n) d := by
  induction n generalizing d p with
  | zero => exact Step.fails_pure _ d
  | succ n ih =>
    rw [openBelow]
    have hroot : ∀ {q : String} {t : Disk} r e, t.find true q = .ok (r, e) → [] <+: r := fun r _ _ => List.nil_prefix
    have hfirst : Keeps (Disk.Opens []) (forUnlinked (directoriesIn d p) (chmod · openMode)) d :=
      opens_directoriesIn hsound hroot
    refine Step.fails_get_bind (Step.fails_bind (fails_forUnlinked (R := Disk.Opens []) ?_ ?_) fun _ u hu => ?_)
    · exact fun full hfull t hopens hlink => opens_chmod (isPrefix_of_mem_directoriesIn hsound hroot hfull hopens hlink)
    · exact fun full hfull t _ => fails_chmod (endsInSlash_of_mem_directoriesIn hsound hfull) openMode t
    · have hopened : d.Opens [] u := by rwa [Keeps, hu] at hfirst
      have hlater := fun t (hopens : u.Opens [] t) => (Lasting.trans hopened hopens).sound hsound
      exact fails_forUnlinked (R := Disk.Opens []) (fun full _ t hopens _ => opens_openBelow n (hlater t hopens) hroot)
        fun full _ t hopens => ih (hlater t hopens)

end Access

/-! ## Taking away what is in a directory -/

/-- Whether a place is below another. -/
def Below (top q : List String) : Prop := ∃ below, below ≠ [] ∧ q = top ++ below

theorem Below.of_child {place q : List String} {name : String} (h : Below (place ++ [name]) q) : Below place q := by
  obtain ⟨below, -, rfl⟩ := h
  exact ⟨name :: below, by simp, by simp⟩

theorem Below.isPrefix {top q : List String} (h : Below top q) : top <+: q := by
  obtain ⟨below, -, rfl⟩ := h
  exact List.prefix_append top below

namespace Disk

/-- A disk without the entry of a place. -/
def without (d : Disk) (path : List String) : Disk := { d with tree := d.tree.erase path }

/-- A disk on which entries below a place were taken away, and nothing else was done. -/
structure Thins (top : List String) (d d' : Disk) : Prop where
  base : d'.base = d.base
  outside : ∀ q, ¬Below top q → d'.tree.get? q = d.tree.get? q
  entries : ∀ q e, d'.tree.get? q = some e → d.tree.get? q = some e
  whole : d.tree.Whole → d'.tree.Whole

variable {d d' : Disk} {top place : List String} {name : String}

instance : Lasting (Thins top) where
  refl _ := ⟨rfl, fun _ _ => rfl, fun _ _ h => h, id⟩
  trans h h' := ⟨h'.base.trans h.base, fun q hq => (h'.outside q hq).trans (h.outside q hq),
    fun q e hget => h.entries q e (h'.entries q e hget), fun hwhole => h'.whole (h.whole hwhole)⟩

theorem Thins.of_child (h : d.Thins (place ++ [name]) d') : d.Thins place d' :=
  ⟨h.base, fun q hq => h.outside q fun hbelow => hq hbelow.of_child, h.entries, h.whole⟩

/-- Every path leads where it led before, if it leads anywhere. -/
theorem Thins.keepsOpen (h : d.Thins top d') : d'.tree.KeepsOpen d.tree := fun q e hget =>
  ⟨e, h.entries q e hget, .refl e⟩

theorem get?_without {path : List String} (hne : path ≠ []) (q : List String) :
    (d.without path).tree.get? q = if q = path then none else d.tree.get? q := Tree.get?_erase hne q

theorem entries_without {path q : List String} {e : Entry} (hne : path ≠ [])
    (hget : (d.without path).tree.get? q = some e) : q ≠ path ∧ d.tree.get? q = some e := by
  rw [get?_without hne] at hget
  split at hget
  next => cases hget
  next hq => exact ⟨hq, hget⟩

/-- An entry with nothing below it is taken away. -/
theorem thins_without (hempty : d.tree.children (place ++ [name]) = []) : d.Thins place (d.without (place ++ [name])) := by
  have hne : place ++ [name] ≠ [] := by simp
  refine ⟨rfl, fun q hq => ?_, fun q e h => (entries_without hne h).2, fun hwhole upper last e h => ?_⟩
  · rw [get?_without hne, if_neg]
    rintro rfl
    exact hq ⟨[name], by simp, rfl⟩
  · have hold := (entries_without hne h).2
    obtain ⟨mode, hupper⟩ := hwhole upper last e hold
    refine ⟨mode, ?_⟩
    rw [get?_without hne, if_neg, hupper]
    rintro rfl
    have hmem : last ∈ d.tree.children (place ++ [name]) := Tree.mem_children_iff.mpr (by rw [hold]; rfl)
    rw [hempty] at hmem
    exact List.not_mem_nil hmem

end Disk

namespace Access

variable {d d' : Disk} {place : List String} {name p : String}

/-- A name is taken away where the directory allows it and nothing is below. -/
theorem removeName_cases (place : List String) (name : String) (d : Disk) :
    (∃ why, why ≠ .notDirectory ∧ eval (removeName place name) d = (.error (.refused why name none), d)) ∨
      d.tree.children (place ++ [name]) = [] ∧ eval (removeName place name) d = (.ok (), d.without (place ++ [name])) := by
  rw [removeName, Step.eval_get_bind]
  split
  next => exact .inl ⟨.noAccess, by decide, rfl⟩
  next =>
    split
    next => exact .inl ⟨.notEmpty, by decide, rfl⟩
    next hempty => exact .inr ⟨by simpa using hempty, rfl⟩

theorem thins_removeName (place : List String) (name : String) (d : Disk) :
    Keeps (Disk.Thins place) (removeName place name) d := by
  rw [Keeps]
  rcases removeName_cases place name d with ⟨why, -, hrun⟩ | ⟨hempty, hrun⟩
  · rw [hrun]
    exact Lasting.refl d
  · rw [hrun]
    exact Disk.thins_without hempty

/-- An error that is not about something that is no directory. -/
def NotAboutKind (e : Error) : Prop := ∀ shown link, e ≠ .refused .notDirectory shown link

theorem fails_removeName (place : List String) (name : String) (d : Disk) : Fails NotAboutKind (removeName place name) d := by
  intro e he
  rcases removeName_cases place name d with ⟨why, hwhy, hrun⟩ | ⟨-, hrun⟩
  · rw [hrun] at he
    cases he
    rintro _ _ ⟨⟩
    exact hwhy rfl
  · rw [hrun] at he
    cases he

section Under

variable {clear : List String → Access Unit}

theorem thins_removeUnder (hclear : ∀ place d, Keeps (Disk.Thins place) (clear place) d) (name : String) (d : Disk) :
    Keeps (Disk.Thins place) (removeUnder place clear name) d := by
  refine Step.keeps_get_bind ?_
  split
  next =>
    extract_lets remove cleared
    split
    next => exact Step.keeps_throw_bind _ _ d
    next => exact Step.keeps_bind (hclear (place ++ [name]) d).of_child fun _ t _ => thins_removeName place name t
  next => exact thins_removeName place name d

theorem fails_removeUnder (hclear : ∀ place d, Fails NotAboutKind (clear place) d) (name : String) (d : Disk) :
    Fails NotAboutKind (removeUnder place clear name) d := by
  refine Step.fails_get_bind ?_
  split
  next =>
    extract_lets remove cleared
    split
    next => exact Step.fails_throw_bind (fun _ _ h => nomatch h) _ d
    next => exact Step.fails_bind (hclear (place ++ [name]) d) fun _ t _ => fails_removeName place name t
  next => exact fails_removeName place name d

/-- What was under a name is not there when it was taken away. -/
theorem get?_of_removeName (h : eval (removeName place name) d = (.ok (), d')) : d'.tree.get? (place ++ [name]) = none := by
  rcases removeName_cases place name d with ⟨why, -, hrun⟩ | ⟨-, hrun⟩
  · rw [hrun] at h
    cases h
  · rw [hrun] at h
    cases h
    exact (Tree.get?_erase (by simp) _).trans (if_pos rfl)

theorem get?_of_removeUnder (h : eval (removeUnder place clear name) d = (.ok (), d')) :
    d'.tree.get? (place ++ [name]) = none := by
  rw [removeUnder, Step.eval_get_bind] at h
  split at h
  next =>
    extract_lets remove cleared at h
    split at h
    next => cases h
    next =>
      obtain ⟨_, t, -, hlast⟩ := Step.eval_bind_eq_ok h
      exact get?_of_removeName hlast
  next => exact get?_of_removeName h

end Under

theorem thins_removeContents (place : List String) (n : Nat) (d : Disk) :
    Keeps (Disk.Thins place) (removeContents place n) d := by
  induction n generalizing place d with
  | zero => exact Step.keeps_pure _ d
  | succ n ih =>
    refine Step.keeps_get_bind (Step.keeps_bind (Step.keeps_forIn (fun name _ t => ?_) d) fun _ t _ => Step.keeps_pure _ t)
    exact Step.keeps_bind (thins_removeUnder ih name t) fun _ u _ => Step.keeps_pure _ u

theorem fails_removeContents (place : List String) (n : Nat) (d : Disk) :
    Fails NotAboutKind (removeContents place n) d := by
  induction n generalizing place d with
  | zero => exact Step.fails_pure _ d
  | succ n ih =>
    refine Step.fails_get_bind (Step.fails_bind (Step.fails_forIn (R := Disk.Thins place)
      (fun name _ _ t _ => ?_) fun name _ _ t _ => ?_) fun _ t _ => Step.fails_pure _ t)
    · exact Step.keeps_bind (thins_removeUnder (thins_removeContents · n) name t) fun _ u _ => Step.keeps_pure _ u
    · exact Step.fails_bind (fails_removeUnder ih name t) fun _ u _ => Step.fails_pure _ u

/-- **A directory whose contents were taken away has nothing in it.** -/
theorem children_of_removeContents {n : Nat} (h : eval (removeContents place (n + 1)) d = (.ok (), d')) :
    d'.tree.children place = [] := by
  have hthins : d.Thins place d' := by
    have hkept := thins_removeContents place (n + 1) d
    rwa [Keeps, h] at hkept
  rw [removeContents, Step.eval_get_bind] at h
  obtain ⟨_, t, hloop, hend⟩ := Step.eval_bind_eq_ok h
  cases hend
  have hgone := Step.forall_of_forIn_ok (R := Disk.Thins place) (Q := fun name t => t.tree.get? (place ++ [name]) = none)
    hloop (fun name _ => thins_removeUnder (thins_removeContents · n) name) (fun _ _ _ => get?_of_removeUnder)
    fun name t u hnone hthins => Option.eq_none_iff_forall_ne_some.mpr fun e hget => by
      rw [hthins.entries _ e hget] at hnone
      cases hnone
  rw [List.eq_nil_iff_forall_not_mem]
  intro name hname
  obtain ⟨e, hget⟩ := Option.isSome_iff_exists.mp (Tree.mem_children_iff.mp hname)
  have hbefore : name ∈ d.tree.children place := Tree.mem_children_iff.mpr (by rw [hthins.entries _ e hget]; rfl)
  rw [hgone name hbefore] at hget
  cases hget

end Access

end Rehearsal.Files
