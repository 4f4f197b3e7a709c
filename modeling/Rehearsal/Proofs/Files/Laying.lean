import Rehearsal.Proofs.Files.Growth
import Rehearsal.Proofs.Files.Place

/-!
# What is laid on a disk

Directories are made and files are written under paths. `Disk.Lays P` says what that comes to on the whole disk: it has
grown, and every entry of it stood there as it is, or is one that `P` allows under a path that leads to it. Making
directories and putting a file in a place lays nothing but the directories in front and the file (`lays_place`), whatever was
there before; so a directory holds nothing else exactly if it held nothing at any other place before
(`Lays.holdsOnly_iff`).

What this does not decide: which of two paths that lead to one place was written last.
-/

namespace Rehearsal.Files

open Step (eval Keeps Lasting)

/-- The mode of an entry that was made new. -/
def Entry.newMode (e : Entry) : Nat := if e.isDirectory then newDirectoryMode else newFileMode

namespace Disk

variable {P Q : String → Entry → Prop} {d d' : Disk} {p : String} {e : Entry}

/-- A disk that nothing was laid on but what is allowed under a path. What is new has the mode of what is new. -/
structure Lays (P : String → Entry → Prop) (d d' : Disk) : Prop where
  grows : d.Grows d'
  only : ∀ r e, d'.tree.get? r = some e → d.tree.get? r = some e ∨ ∃ p, P p e ∧ d'.find true p = .ok (r, e)
  modes : ∀ r e, d.tree.get? r = none → d'.tree.get? r = some e → e.mode = e.newMode

/-- What a path leads to is what stands there. -/
theorem eq_of_find {r : List String} {e e' : Entry} (h : d.find true p = .ok (r, e)) (hget : d.tree.get? r = some e') :
    e = e' :=
  Option.some.inj ((get?_of_find h).symm.trans hget)

theorem Lays.mono (h : d.Lays P d') (hPQ : ∀ p e, P p e → Q p e) : d.Lays Q d' := by
  refine ⟨h.grows, fun r e hget => ?_, h.modes⟩
  rcases h.only r e hget with hold | ⟨p, hp, hfind⟩
  · exact .inl hold
  · exact .inr ⟨p, hPQ p e hp, hfind⟩

instance : Lasting (Lays P) where
  refl d := by
    refine ⟨Lasting.refl d, fun r e hget => .inl hget, fun r e hnone hget => ?_⟩
    rw [hnone] at hget
    cases hget
  trans {d d' d''} h h' := by
    refine ⟨Lasting.trans h.grows h'.grows, fun r e hget => ?_, fun r e hnone hget => ?_⟩
    · rcases h'.only r e hget with hold | hlaid
      · rcases h.only r e hold with hold | ⟨p, hp, hfind⟩
        · exact .inl hold
        · -- What was laid first and stands there still is found there still.
          obtain ⟨e', hfind', -⟩ := h'.grows.find hfind
          obtain rfl := eq_of_find hfind' hget
          exact .inr ⟨p, hp, hfind'⟩
      · exact .inr hlaid
    · cases hmid : d'.tree.get? r with
      | none => exact h'.modes r e hmid hget
      | some e' =>
        have hmode := h.modes r e' hnone hmid
        obtain ⟨e'', hget', hsame⟩ := h'.grows.tree r e' hmid
        cases hget.symm.trans hget'
        cases hsame with
        | refl => exact hmode
        | file => exact hmode

/-! ## One entry -/

/-- A path to a free name leads to what is put there. -/
theorem find_putEntry_free {follow : Bool} {place : List String} {name : String} (hnull : p.contains '\x00' = false)
    (hlocate : locate d.tree d.base follow p = .ok (.free place name)) (hslash : endsInSlash p = true → e.isDirectory = true)
    (hlink : e.isLink = false) :
    (d.putEntry (place ++ [name]) e).find true p = .ok (place ++ [name], e) := by
  obtain ⟨hempty, hlong, hwalk⟩ := locate_eq_ok_iff.mp hlocate
  have hfree := (get?_of_walk_free hwalk).1
  have hnew : (d.putEntry (place ++ [name]) e).tree.get? (place ++ [name]) = some e := by
    rw [putEntry, Tree.get?_put (by simp), if_pos rfl]
  refine find_eq_ok_iff.mpr ⟨hnull, hslash, locate_eq_ok_iff.mpr ⟨hempty, hlong, ?_⟩⟩
  exact (grows_putEntry_free hfree e).tree.walk_free hnew hlink hwalk

/-- What stands on a disk with something put on it. -/
theorem get?_putEntry {path r : List String} {old : Entry} (hpath : path ≠ [])
    (hget : (d.putEntry path e).tree.get? r = some old) : d.tree.get? r = some old ∨ (r = path ∧ old = e) := by
  rw [putEntry, Tree.get?_put hpath] at hget
  by_cases hr : r = path
  · rw [if_pos hr] at hget
    cases hget
    exact .inr ⟨hr, rfl⟩
  · rw [if_neg hr] at hget
    exact .inl hget

/-- What is put under a path in a free place is laid there. -/
theorem lays_putEntry_free {follow : Bool} {place : List String} {name : String} (hnull : p.contains '\x00' = false)
    (hlocate : locate d.tree d.base follow p = .ok (.free place name)) (hslash : endsInSlash p = true → e.isDirectory = true)
    (hlink : e.isLink = false) (hmode : e.mode = e.newMode) (hp : P p e) :
    d.Lays P (d.putEntry (place ++ [name]) e) := by
  have hfree := (get?_of_walk_free (locate_eq_ok_iff.mp hlocate).2.2).1
  refine ⟨grows_putEntry_free hfree e, fun r e' hget => ?_, fun r e' hnone hget => ?_⟩
  · rcases get?_putEntry (by simp) hget with hold | ⟨rfl, rfl⟩
    · exact .inl hold
    · exact .inr ⟨p, hp, find_putEntry_free hnull hlocate hslash hlink⟩
  · rcases get?_putEntry (by simp) hget with hold | ⟨-, rfl⟩
    · rw [hnone] at hold
      cases hold
    · exact hmode

/-- New contents of a file are laid under every path that leads to it. -/
theorem lays_putEntry_file {path : List String} {mode : Nat} {old data : Bytes}
    (hfind : d.find true p = .ok (path, .file mode old)) (hp : P p (.file mode data)) :
    d.Lays P (d.putEntry path (.file mode data)) := by
  have hget := get?_of_find hfind
  have hne : path ≠ [] := by
    rintro rfl
    cases hget
  have hgrows := grows_putEntry_file hget data
  refine ⟨hgrows, fun r e hnew => ?_, fun r e hnone hnew => ?_⟩
  · rcases get?_putEntry hne hnew with hold | ⟨rfl, rfl⟩
    · exact .inl hold
    · obtain ⟨e', hfind', -⟩ := hgrows.find hfind
      obtain rfl := eq_of_find hfind' hnew
      exact .inr ⟨p, hp, hfind'⟩
  · rcases get?_putEntry hne hnew with hold | ⟨rfl, -⟩
    · rw [hnone] at hold
      cases hold
    · rw [hnone] at hget
      cases hget

/-! ## What a directory holds -/

/-- Whether there is nothing below a place but what is allowed under a path that leads to it. -/
def HoldsOnly (P : String → Entry → Prop) (top : List String) (d : Disk) : Prop :=
  ∀ below e, below ≠ [] → d.tree.get? (top ++ below) = some e → ∃ p, P p e ∧ d.find true p = .ok (top ++ below, e)

/-- **Below a place there is nothing but what was laid exactly if there was nothing at any other place before.** -/
theorem Lays.holdsOnly_iff (h : d.Lays P d') (top : List String) :
    d'.HoldsOnly P top ↔
      ∀ below old, below ≠ [] → d.tree.get? (top ++ below) = some old →
        ∃ p e, P p e ∧ d'.find true p = .ok (top ++ below, e) := by
  constructor
  · intro honly below old hbelow hold
    obtain ⟨e, hget, -⟩ := h.grows.tree _ _ hold
    obtain ⟨p, hp, hfind⟩ := honly below e hbelow hget
    exact ⟨p, e, hp, hfind⟩
  · intro hbefore below e hbelow hget
    rcases h.only _ _ hget with hold | hlaid
    · obtain ⟨p, e', hp, hfind⟩ := hbefore below e hbelow hold
      obtain rfl := eq_of_find hfind hget
      exact ⟨p, hp, hfind⟩
    · exact hlaid

end Disk

namespace Access

variable {P : String → Entry → Prop} {d d' : Disk} {p : String}

/-! ## Making directories -/

/-- A directory is made in a free place, or nothing is done. -/
theorem makeDirectory_cases (p : String) (d : Disk) :
    (∃ e, eval (makeDirectory p) d = (.error e, d)) ∨
      ∃ place name, p.contains '\x00' = false ∧ locate d.tree d.base false p = .ok (.free place name) ∧
        eval (makeDirectory p) d = (.ok (), d.putEntry (place ++ [name]) (.directory newDirectoryMode)) := by
  rw [makeDirectory, look, Step.eval_bind, Step.eval_get_bind, Disk.spot, Option.any_none, Bool.or_false]
  cases hnull : p.contains '\x00' with
  | true => exact .inl ⟨_, rfl⟩
  | false =>
    rw [if_neg Bool.false_ne_true]
    rcases hlocate : locate d.tree d.base false p with why | ⟨place, e⟩ | ⟨place, name⟩
    · exact .inl ⟨_, rfl⟩
    · exact .inl ⟨_, rfl⟩
    · cases hchange : d.changeable place with
      | true =>
        refine .inr ⟨place, name, rfl, rfl, ?_⟩
        simp only [Step.eval_pure, Step.eval_get_bind, hchange]
        rfl
      | false =>
        refine .inl ⟨.refused .noAccess p none, ?_⟩
        simp only [Step.eval_pure, Step.eval_get_bind, hchange]
        rfl

theorem lays_makeDirectory (hp : P p (.directory newDirectoryMode)) (d : Disk) :
    Keeps (Disk.Lays P) (makeDirectory p) d := by
  rw [Keeps]
  rcases makeDirectory_cases p d with ⟨e, hrun⟩ | ⟨place, name, hnull, hlocate, hrun⟩
  · rw [hrun]
    exact Lasting.refl d
  · rw [hrun]
    exact Disk.lays_putEntry_free hnull hlocate (fun _ => rfl) rfl rfl hp

theorem lays_ensureDirectory (hp : P p (.directory newDirectoryMode)) (d : Disk) :
    Keeps (Disk.Lays P) (ensureDirectory p) d := by
  refine Step.keeps_tryCatch (lays_makeDirectory hp d) fun e t _ => Step.keeps_get_bind ?_
  split
  · exact Step.keeps_pure _ t
  · exact Step.keeps_throw _ t

/-- What was made sure to be a directory is one. -/
theorem isDirectory_of_ensureDirectory (h : eval (ensureDirectory p) d = (.ok (), d')) : d'.isDirectory p = true := by
  rw [ensureDirectory, Step.eval_tryCatch] at h
  rcases makeDirectory_cases p d with ⟨e, hrun⟩ | ⟨place, name, hnull, hlocate, hrun⟩
  · rw [hrun] at h
    dsimp only at h
    rw [Step.eval_get_bind] at h
    cases hdir : d.isDirectory p with
    | true =>
      rw [hdir] at h
      cases h
      exact hdir
    | false =>
      rw [hdir] at h
      cases h
  · rw [hrun] at h
    cases h
    exact Disk.isDirectory_iff.mpr ⟨_, _, Disk.find_putEntry_free hnull hlocate (fun _ => rfl) rfl, rfl⟩

/-- A path and what stands in front of its names. -/
inductive Fronts (p : String) : String → Prop
  | whole : Fronts p p
  | front {q : String} (h : Fronts p q) : Fronts p (splitLastName q).1

theorem Fronts.of_front {q : String} (h : Fronts (splitLastName p).1 q) : Fronts p q := by
  induction h with
  | whole => exact .front .whole
  | front _ ih => exact .front ih

theorem lays_makeDirectoriesIn (n : Nat) (hp : ∀ q, Fronts p q → P q (.directory newDirectoryMode)) (d : Disk) :
    Keeps (Disk.Lays P) (makeDirectoriesIn p n) d := by
  induction n generalizing p d with
  | zero => exact lays_ensureDirectory (hp p .whole) d
  | succ n ih =>
    rw [makeDirectoriesIn]
    split
    next head tail hsplit =>
      refine Step.keeps_get_bind ?_
      extract_lets making
      split
      · refine Step.keeps_bind (Step.keeps_tryCatch (ih (fun q hq => ?_) d) fun e t _ => ?_) fun _ t _ => ?_
        · apply hp
          apply Fronts.of_front
          rwa [hsplit]
        · split
          · exact Step.keeps_pure _ t
          · exact Step.keeps_throw _ t
        · split
          · exact Step.keeps_pure _ t
          · exact lays_ensureDirectory (hp p .whole) t
      · exact lays_ensureDirectory (hp p .whole) d

/-- The directories that are made are those of the path. -/
theorem lays_makeDirectories (hp : ∀ q, Fronts p q → P q (.directory newDirectoryMode)) (d : Disk) :
    Keeps (Disk.Lays P) (makeDirectories p) d :=
  lays_makeDirectoriesIn p.length hp d

/-- Making directories takes nothing away. -/
theorem grows_makeDirectories (p : String) (d : Disk) : Keeps Disk.Grows (makeDirectories p) d :=
  (lays_makeDirectories (P := fun _ _ => True) (fun _ _ => trivial) d).grows

/-- What was made with all that is above it is a directory, unless its name is a single dot. -/
theorem isDirectory_of_makeDirectories (hname : (splitLastName p).2 ≠ ".")
    (h : eval (makeDirectories p) d = (.ok (), d')) : d'.isDirectory p = true := by
  rw [makeDirectories] at h
  cases hn : p.length with
  | zero =>
    rw [hn] at h
    exact isDirectory_of_ensureDirectory h
  | succ n =>
    rw [hn, makeDirectoriesIn] at h
    split at h
    next head tail hsplit =>
      rw [hsplit] at hname
      have htail : (tail == ".") = false := by simpa using hname
      rw [Step.eval_get_bind] at h
      extract_lets making at h
      split at h
      · obtain ⟨_, t, -, hrest⟩ := Step.eval_bind_eq_ok h
        rw [htail] at hrest
        exact isDirectory_of_ensureDirectory hrest
      · exact isDirectory_of_ensureDirectory h

/-! ## Writing -/

/-- What a write that went well has done. -/
inductive Written (p : String) (data : Bytes) (d : Disk) : Disk → Prop
  /-- A file that was there has new contents. -/
  | replaced {path : List String} {mode : Nat} {old : Bytes} (find : d.find true p = .ok (path, .file mode old)) :
    Written p data d (d.putEntry path (.file mode data))
  /-- What was there is neither a file nor a directory, and is left as it is. -/
  | swallowed {path : List String} {e : Entry} (find : d.find true p = .ok (path, e)) (directory : e.isDirectory = false)
    (file : e.isFile = false) : Written p data d d
  /-- There is a new file. -/
  | made {place : List String} {name : String} (null : p.contains '\x00' = false) (slash : endsInSlash p = false)
    (locate : locate d.tree d.base true p = .ok (.free place name)) :
    Written p data d (d.putEntry (place ++ [name]) (.file newFileMode data))

theorem written_of_eval {data : Bytes} (h : eval (write p data) d = (.ok (), d')) : Written p data d d' := by
  rw [write, Step.eval_get_bind] at h
  extract_lets place slash empty at h
  split at h
  next => cases h
  next hnull =>
  simp only [empty] at h
  split at h
  next => cases h
  simp only [slash] at h
  split at h
  next => split at h <;> cases h
  next hslash =>
  have hnull : p.contains '\x00' = false := by simpa using hnull
  have hslash : endsInSlash p = false := by simpa using hslash
  have hfind : ∀ {path e}, locate d.tree d.base true p = .ok (.entry path e) → d.find true p = .ok (path, e) :=
    fun hlocate => Disk.find_eq_ok_iff.mpr ⟨hnull, fun hend => absurd hend (by rw [hslash]; decide), hlocate⟩
  simp only [place] at h
  split at h
  next => cases h
  next path e hlocate =>
    split at h
    next => cases h
    next hdir =>
      split at h
      next => cases h
      split at h
      next mode old =>
        cases h
        exact .replaced (hfind hlocate)
      next hfile =>
        cases h
        refine .swallowed (hfind hlocate) ?_ ?_
        · cases e with
          | directory mode => exact absurd rfl (hdir mode)
          | _ => rfl
        · cases e with
          | file mode old => exact absurd rfl (hfile mode old)
          | _ => rfl
  next directory name hlocate =>
    split at h
    next => cases h
    next =>
      cases h
      exact .made hnull hslash hlocate

variable {data : Bytes}

/-- A missing file is made where its directory allows it. -/
theorem eval_write_of_free {place : List String} {name : String} (hnull : p.contains '\x00' = false)
    (hslash : endsInSlash p = false) (hlocate : locate d.tree d.base true p = .ok (.free place name))
    (hchange : d.changeable place = true) :
    eval (write p data) d = (.ok (), d.putEntry (place ++ [name]) (.file newFileMode data)) := by
  have hempty : p.isEmpty = false := by simpa using (locate_eq_ok_iff.mp hlocate).1
  rw [write, Step.eval_get_bind]
  extract_lets placing slash empty
  simp only [hnull, Bool.false_eq_true, if_false, empty, hempty, slash, hslash, placing, hlocate, hchange, Bool.not_true]
  rfl

theorem lays_write (hp : ∀ mode, P p (.file mode data)) (d : Disk) : Keeps (Disk.Lays P) (write p data) d := by
  rw [Keeps]
  rcases hrun : eval (write p data) d with ⟨e | u, d'⟩
  · rw [write_refused hrun]
    exact Lasting.refl d
  · cases written_of_eval hrun with
    | replaced hfind => exact Disk.lays_putEntry_file hfind (hp _)
    | swallowed => exact Lasting.refl d
    | made hnull hslash hlocate =>
      exact Disk.lays_putEntry_free hnull hlocate (fun hend => absurd hend (by rw [hslash]; decide)) rfl rfl (hp _)

/-- What was written is found under the path of it, unless there is something that is no file, which was there before. -/
theorem find_of_write (h : eval (write p data) d = (.ok (), d')) :
    ∃ r e, d'.find true p = .ok (r, e) ∧ e.isDirectory = false ∧ (∀ mode old, e = .file mode old → old = data) ∧
      (e.isFile = false → d.find true p = .ok (r, e)) := by
  cases written_of_eval h with
  | @replaced path mode old hfind =>
    refine ⟨path, _, Disk.find_putEntry_file hfind mode data, rfl, ?_, fun hfile => nomatch hfile⟩
    rintro _ _ ⟨⟩
    rfl
  | @swallowed path e hfind hdir hfile =>
    refine ⟨path, e, hfind, hdir, ?_, fun _ => hfind⟩
    rintro mode old rfl
    cases hfile
  | made hnull hslash hlocate =>
    have hfind := Disk.find_putEntry_free hnull hlocate (e := .file newFileMode data)
      (fun hend => absurd hend (by rw [hslash]; decide)) rfl
    refine ⟨_, _, hfind, rfl, ?_, fun hfile => nomatch hfile⟩
    rintro _ _ ⟨⟩
    rfl

/-! ## Both -/

/-- **Putting a file in a place lays the directories in front of it and the file.** -/
theorem lays_place {path : String} (hfront : ∀ q, Fronts (Path.parent path) q → P q (.directory newDirectoryMode))
    (hfile : ∀ mode, P (Path.clean path) (.file mode data)) (d : Disk) : Keeps (Disk.Lays P) (place path data) d :=
  Step.keeps_bind (lays_makeDirectories hfront d) fun _ t _ => lays_write hfile t

/-- A file that was put in its place is found there, unless there is something that is no file. -/
theorem find_of_place {path : String} (h : eval (place path data) d = (.ok (), d')) :
    ∃ r e, d'.find true (Path.clean path) = .ok (r, e) ∧ e.isDirectory = false ∧
      ∀ mode old, e = .file mode old → old = data := by
  obtain ⟨_, t, -, hwrite⟩ := Step.eval_bind_eq_ok h
  obtain ⟨r, e, hfind, hdir, hdata, -⟩ := find_of_write hwrite
  exact ⟨r, e, hfind, hdir, hdata⟩

end Access

/-! ## What stands in front of a path -/

variable {t : Tree} {follow : Bool} {links : Nat}

/-- Steps are taken from a directory. -/
theorem isDirectory_of_walk {start : List String} {name : String} {rest : List String} {spot : Spot}
    (h : walk t follow links start (name :: rest) = .ok spot) :
    ∃ here, t.get? start = some here ∧ here.isDirectory = true := by
  rw [walk] at h
  split at h
  next => cases h
  next here hhere =>
    split at h
    next => cases h
    next hdir => exact ⟨here, hhere, by simpa using hdir⟩

/-- Steps that lead somewhere lead to a directory before the last. -/
theorem exists_directory_of_walk {start xs : List String} {y : String} {ys : List String} {spot : Spot}
    (h : walk t follow links start (xs ++ y :: ys) = .ok spot) :
    ∃ r e, walk t true links start xs = .ok (.entry r e) ∧ e.isDirectory = true := by
  have hmore : ∀ zs : List String, (zs ++ y :: ys).isEmpty = false := fun zs => by simp
  fun_induction walk t true links start xs
  case case1 hhere =>
    obtain ⟨here, hget, hdir⟩ := isDirectory_of_walk h
    cases hhere.symm.trans hget
    exact ⟨_, _, rfl, hdir⟩
  case case2 hhere =>
    obtain ⟨here, hget, -⟩ := isDirectory_of_walk h
    cases hhere.symm.trans hget
  all_goals rw [List.cons_append, walk] at h
  case case6 hhere hdir hmode hname ih =>
    simp only [hhere, hdir, hmode, hname, if_true, Bool.false_eq_true, if_false] at h
    exact ih h
  case case7 hhere hdir hmode hdot hdots ih =>
    simp only [hhere, hdir, hmode, hdot, hdots, if_true, Bool.false_eq_true, if_false] at h
    exact ih h
  case case13 hhere hdir hmode hdot hdots hlong target hlink hstop links ih =>
    simp only [hhere, hdir, hmode, hdot, hdots, hlong, hlink, hmore, Bool.false_and, Bool.false_eq_true, if_false] at h
    rw [← List.append_assoc] at h
    exact ih h
  case case14 hhere hdir hmode hdot hdots hlong e hnolink hentry hstop =>
    simp only [hhere, hdir, hmode, hdot, hdots, hlong, hentry, hmore, Bool.false_eq_true, if_false] at h
    refine ⟨_, e, rfl, ?_⟩
    cases e with
    | directory => rfl
    | link target => exact absurd rfl (hnolink target)
    | _ => cases h
  case case15 hhere hdir hmode hdot hdots hlong e hnolink hentry hstop hnext ih =>
    simp only [hhere, hdir, hmode, hdot, hdots, hlong, hentry, hmore, Bool.false_eq_true, if_false, hnext, if_true] at h
    exact ih h
  -- On all other ways the steps lead nowhere.
  all_goals grind

/-- Steps on from the directory that others lead to are steps from there. -/
theorem exists_walk_append {start xs r : List String} {e : Entry} (h : walk t true links start xs = .ok (.entry r e))
    (hdir : e.isDirectory = true) :
    ∃ left, ∀ follow ys, ys ≠ [] → walk t follow links start (xs ++ ys) = walk t follow left r ys := by
  have hmore : ∀ zs ys : List String, ys ≠ [] → (zs ++ ys).isEmpty = false := fun zs ys hys => by simp [hys]
  fun_induction walk t true links start xs
  case case1 =>
    cases h
    exact ⟨_, fun follow ys _ => rfl⟩
  case case6 hhere hisDir hmode hname ih =>
    obtain ⟨left, hleft⟩ := ih h
    refine ⟨left, fun follow ys hys => ?_⟩
    rw [List.cons_append, walk]
    simp only [hhere, hisDir, hmode, hname, if_true, Bool.false_eq_true, if_false]
    exact hleft follow ys hys
  case case7 hhere hisDir hmode hdot hdots ih =>
    obtain ⟨left, hleft⟩ := ih h
    refine ⟨left, fun follow ys hys => ?_⟩
    rw [List.cons_append, walk]
    simp only [hhere, hisDir, hmode, hdot, hdots, if_true, Bool.false_eq_true, if_false]
    exact hleft follow ys hys
  case case11 hlink hstop => simp at hstop
  case case13 hhere hisDir hmode hdot hdots hlong target hlink hstop links ih =>
    obtain ⟨left, hleft⟩ := ih h
    refine ⟨left, fun follow ys hys => ?_⟩
    rw [List.cons_append, walk]
    simp only [hhere, hisDir, hmode, hdot, hdots, hlong, hlink, hmore _ _ hys, Bool.false_and, Bool.false_eq_true, if_false]
    rw [← List.append_assoc]
    exact hleft follow ys hys
  case case14 links directory name rest here hhere hisDir hmode hdot hdots hlong e' hnolink hentry hstop =>
    cases h
    obtain rfl := List.isEmpty_iff.mp hstop
    refine ⟨links, fun follow ys hys => ?_⟩
    rw [List.cons_append, List.nil_append, walk]
    simp only [hhere, hisDir, hmode, hdot, hdots, hlong, hentry, Bool.false_eq_true, if_false]
    cases e with
    | directory => simp [hys, Entry.isDirectory]
    | file | link | device => cases hdir
  case case15 hhere hisDir hmode hdot hdots hlong e' hnolink hentry hstop hnext ih =>
    obtain ⟨left, hleft⟩ := ih h
    refine ⟨left, fun follow ys hys => ?_⟩
    rw [List.cons_append, walk]
    simp only [hhere, hisDir, hmode, hdot, hdots, hlong, hentry, hmore _ _ hys, Bool.false_eq_true, if_false, hnext, if_true]
    exact hleft follow ys hys
  -- On all other ways the steps lead nowhere.
  all_goals cases h

/-- What something is looked up in is a directory. -/
theorem Disk.exists_directory_of_locate_join {d : Disk} {p name : String} {spot : Spot} (hp : p ≠ "") (hname : name ≠ "")
    (hslash : '/' ∉ name.toList) (hnull : (Path.join p name).contains '\x00' = false)
    (h : locate d.tree d.base follow (Path.join p name) = .ok spot) : ∃ r mode, d.find true p = .ok (r, .directory mode) := by
  obtain ⟨-, hlong, hwalk⟩ := locate_eq_ok_iff.mp h
  obtain ⟨rest, hjoin⟩ := Path.exists_join_eq_append p hslash
  rw [Path.pieces_join hp hname hslash] at hwalk
  rw [hjoin, Path.isAbsolute_append hp] at hwalk
  rw [hjoin, String.utf8ByteSize_append] at hlong
  obtain ⟨r', e', hwalk', hdir⟩ := exists_directory_of_walk hwalk
  have hplain : p.contains '\x00' = false := by
    rw [String.contains_char_eq, decide_eq_false_iff_not] at hnull ⊢
    rw [hjoin, String.toList_append, List.mem_append] at hnull
    exact fun hmem => hnull (.inl hmem)
  have hfind' : d.find true p = .ok (r', e') :=
    find_eq_ok_iff.mpr ⟨hplain, fun _ => hdir, locate_eq_ok_iff.mpr ⟨hp, by omega, hwalk'⟩⟩
  cases e' with
  | directory mode => exact ⟨r', mode, hfind'⟩
  | _ => cases hdir

/-- What a directory is in is a directory. -/
theorem Disk.exists_directory_of_join {d : Disk} {p name : String} (hp : p ≠ "") (hname : name ≠ "")
    (hslash : '/' ∉ name.toList) (h : d.isDirectory (Path.join p name) = true) :
    ∃ r mode, d.find true p = .ok (r, .directory mode) := by
  obtain ⟨r, e, hfind, -⟩ := isDirectory_iff.mp h
  obtain ⟨hnull, -, hlocate⟩ := find_eq_ok_iff.mp hfind
  exact exists_directory_of_locate_join hp hname hslash hnull hlocate

end Rehearsal.Files
