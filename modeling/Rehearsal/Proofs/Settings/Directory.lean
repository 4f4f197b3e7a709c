import Rehearsal.Proofs.Files.Straight
import Rehearsal.Proofs.Settings.Search

/-!
# Where settings are made

Settings go into a directory at the root of the project, unless the search finds one on the way there. One that is made is
found from then on, from the root of the project down to where the search began (`directory?_founded`); where the system does
not admit it, nothing has changed (`makeDirectory_of_not_admits`). `search_finds_nearest` puts this together with what the
search finds.

The names on the way down have to lead straight to their directories, and a link under a name that is looked for has to lead
somewhere (`LinksLead`): one that leads nowhere could lead to what is made.
-/

namespace Rehearsal.Settings

open Files
open Step (eval)

/-! ## Names that are looked for -/

theorem isEntryName_rootMark : IsEntryName rootMark :=
  ⟨⟨by decide, by decide, by decide⟩, by decide, by decide, by decide⟩

theorem isEntryName_directoryName : IsEntryName directoryName :=
  ⟨⟨by decide, by decide, by decide⟩, by decide, by decide, by decide⟩

theorem isEntryName_fileName : IsEntryName fileName :=
  ⟨⟨by decide, by decide, by decide⟩, by decide, by decide, by decide⟩

/-- Links under the names that are looked for lead somewhere, in a directory and above it. -/
def LinksLead (d : Disk) (start : List String) : Prop :=
  ∀ dir, dir <+: start → ∀ name ∈ [rootMark, directoryName], ∀ target,
    d.tree.get? (dir ++ [name]) = some (.link target) → d.exists? (inside dir name) = true

variable {d d' : Disk} {start dir : List String} {limit : Nat}

/-- A directory is the root of a project if there is something under the name of the mark. -/
theorem isProjectRoot_iff (h : d.tree.Straight dir) (hlink : ∀ target, d.tree.get? (dir ++ [rootMark]) ≠ some (.link target)) :
    isProjectRoot d dir = true ↔ d.Reaches dir rootMark ∧ ∃ e, d.tree.get? (dir ++ [rootMark]) = some e := by
  rw [isProjectRoot, Disk.exists?, Option.isSome_iff_exists]
  simp only [Disk.find?_eq_some_iff, inside, Disk.find_straight_iff h isEntryName_rootMark hlink]
  grind

/-- A directory has one with settings if there is a directory of that name. -/
theorem isDirectory_iff (h : d.tree.Straight dir)
    (hlink : ∀ target, d.tree.get? (dir ++ [directoryName]) ≠ some (.link target)) :
    d.isDirectory (inside dir directoryName) = true ↔
      d.Reaches dir directoryName ∧ ∃ e, d.tree.get? (dir ++ [directoryName]) = some e ∧ e.isDirectory = true := by
  simp only [Disk.isDirectory_iff, inside, Disk.find_straight_iff h isEntryName_directoryName hlink]
  grind

/-- Directories are roots of projects as they were, if no mark was made in them. -/
theorem isProjectRoot_of_grows (hgrows : d.Grows d') (hstart : d.tree.Straight start) (hlinks : LinksLead d start)
    (hdir : dir <+: start)
    (hfree : d.tree.get? (dir ++ [rootMark]) = none → d'.tree.get? (dir ++ [rootMark]) = none) :
    isProjectRoot d' dir = isProjectRoot d dir :=
  hgrows.exists?_straight (hstart.of_isPrefix hdir) isEntryName_rootMark (hlinks dir hdir rootMark (by simp)) hfree

/-- Directories have one with settings as they had, if none was made in them. -/
theorem isDirectory_of_grows (hgrows : d.Grows d') (hstart : d.tree.Straight start) (hlinks : LinksLead d start)
    (hdir : dir <+: start)
    (hfree : d.tree.get? (dir ++ [directoryName]) = none → d'.tree.get? (dir ++ [directoryName]) = none) :
    d'.isDirectory (inside dir directoryName) = d.isDirectory (inside dir directoryName) :=
  hgrows.isDirectory_straight (hstart.of_isPrefix hdir) isEntryName_directoryName
    (hlinks dir hdir directoryName (by simp)) hfree

theorem IsLimit.of_grows (h : IsLimit d start limit) (hgrows : d.Grows d') (hstart : d.tree.Straight start)
    (hlinks : LinksLead d start)
    (hfree : ∀ dir, d.tree.get? (dir ++ [rootMark]) = none → d'.tree.get? (dir ++ [rootMark]) = none) :
    IsLimit d' start limit := by
  have hsame : ∀ i, isProjectRoot d' (ancestor start i) = isProjectRoot d (ancestor start i) := fun i =>
    isProjectRoot_of_grows hgrows hstart hlinks (ancestor_isPrefix start i) (hfree _)
  refine ⟨h.within, fun i hi => ?_, ?_⟩
  · rw [hsame]
    exact h.before i hi
  · rw [hsame]
    exact h.reached

/-- **The same directory is found** on a disk that has grown, if neither a mark nor a directory with settings was made. -/
theorem directory?_of_grows (hgrows : d.Grows d') (hstart : d.tree.Straight start) (hlinks : LinksLead d start)
    (hmarks : ∀ dir, d.tree.get? (dir ++ [rootMark]) = none → d'.tree.get? (dir ++ [rootMark]) = none)
    (hdirs : ∀ dir, d.tree.get? (dir ++ [directoryName]) = none → d'.tree.get? (dir ++ [directoryName]) = none) :
    directory? d' start = directory? d start := by
  obtain ⟨limit, hlimit⟩ := exists_isLimit d start
  have hlimit' := hlimit.of_grows hgrows hstart hlinks hmarks
  have hsame : ∀ i, d'.isDirectory (inside (ancestor start i) directoryName) =
      d.isDirectory (inside (ancestor start i) directoryName) := fun i =>
    isDirectory_of_grows hgrows hstart hlinks (ancestor_isPrefix start i) (hdirs _)
  have hnearest : ∀ i, IsNearest d' start i ↔ IsNearest d start i := fun i => by
    constructor
    · exact fun h => ⟨hsame i ▸ h.holds, fun j hj => hsame j ▸ h.before j hj⟩
    · exact fun h => ⟨(hsame i).trans h.holds, fun j hj => (hsame j).trans (h.before j hj)⟩
  ext dir
  simp only [directory?_eq_some_iff hlimit, directory?_eq_some_iff hlimit', hnearest]

/-! ## Making the directory -/

theorem eval_makeDirectory_of_some (h : directory? d start = some dir) : eval (makeDirectory start) d = (.ok dir, d) := by
  rw [makeDirectory, Step.eval_get_bind, h]
  rfl

theorem eval_makeDirectory_of_none (h : directory? d start = none) {r : Except Error Unit}
    (hmake : eval (Access.makePath (projectRoot d start ++ [directoryName]).reverse) d = (r, d')) :
    eval (makeDirectory start) d = (r.map fun _ => projectRoot d start ++ [directoryName], d') := by
  rw [makeDirectory, Step.eval_get_bind, h]
  dsimp only
  rw [Step.eval_bind, hmake]
  cases r <;> rfl

/-- The root of a project is above a directory that it is the root for. -/
theorem projectRoot_isPrefix (d : Disk) (start : List String) : projectRoot d start <+: start := by
  obtain ⟨limit, hlimit⟩ := exists_isLimit d start
  obtain ⟨i, -, hroot⟩ := exists_projectRoot hlimit
  rw [hroot]
  exact ancestor_isPrefix start i

/-- At the root of the project there is no directory with settings if none is found. -/
theorem isDirectory_projectRoot (h : directory? d start = none) :
    d.isDirectory (inside (projectRoot d start) directoryName) = false := by
  obtain ⟨limit, hlimit⟩ := exists_isLimit d start
  obtain ⟨i, hi, hroot⟩ := exists_projectRoot hlimit
  rw [hroot]
  exact (directory?_eq_none_iff hlimit).mp h i hi

/-- The disk with a new directory for settings at the root of the project. -/
def founded (d : Disk) (start : List String) : Disk :=
  d.putEntry (projectRoot d start ++ [directoryName]) (.directory newDirectoryMode)

theorem get?_founded (d : Disk) (start path : List String) :
    (founded d start).tree.get? path =
      if path = projectRoot d start ++ [directoryName] then some (.directory newDirectoryMode) else d.tree.get? path :=
  Tree.get?_put (by simp) _ _

/-- A directory for settings is made where the system admits it. -/
theorem eval_makeDirectory_of_admits (hstart : d.tree.Straight start) (hnone : directory? d start = none)
    (hadmits : d.Admits (projectRoot d start) directoryName) :
    eval (makeDirectory start) d = (.ok (projectRoot d start ++ [directoryName]), founded d start) :=
  eval_makeDirectory_of_none hnone
    (Disk.eval_makePath_of_admits (hstart.of_isPrefix (projectRoot_isPrefix d start)) isEntryName_directoryName hadmits)

/-- Elsewhere it is refused, and nothing has changed. -/
theorem makeDirectory_of_not_admits (hstart : d.tree.Straight start) (hnone : directory? d start = none)
    (hadmits : ¬d.Admits (projectRoot d start) directoryName) :
    ∃ why, eval (makeDirectory start) d = (.error (.refused why (inside (projectRoot d start) directoryName) none), d) := by
  obtain ⟨why, hmake⟩ := Disk.makePath_of_not_admits (hstart.of_isPrefix (projectRoot_isPrefix d start))
    isEntryName_directoryName hadmits (isDirectory_projectRoot hnone)
  exact ⟨why, eval_makeDirectory_of_none hnone hmake⟩

/-! ## Searching again -/

theorem append_singleton_ne {place place' : List String} {name name' : String} (h : name ≠ name') :
    place ++ [name] ≠ place' ++ [name'] :=
  fun heq => h (List.singleton_inj.mp (List.append_inj_right' heq rfl))

section Founded

variable (hstart : d.tree.Straight start) (hlinks : LinksLead d start) (hnone : directory? d start = none)
  (hadmits : d.Admits (projectRoot d start) directoryName)
include hstart hlinks hnone hadmits

/-- The directory that was made is the nearest one. -/
theorem exists_isNearest_founded :
    ∃ limit steps, IsLimit (founded d start) start limit ∧ steps ≤ limit ∧ IsNearest (founded d start) start steps ∧
      projectRoot d start = ancestor start steps := by
  have hgrows : d.Grows (founded d start) := Disk.grows_putEntry_free hadmits.free _
  have hplace := hstart.of_isPrefix (projectRoot_isPrefix d start)
  obtain ⟨limit, hlimit⟩ := exists_isLimit d start
  obtain ⟨steps, hsteps, hroot⟩ := exists_projectRoot hlimit
  refine ⟨limit, steps, hlimit.of_grows hgrows hstart hlinks fun dir hfree => ?_, hsteps, ⟨?_, fun i hi => ?_⟩, hroot⟩
  · rwa [get?_founded, if_neg (append_singleton_ne (by decide))]
  · have hget : (founded d start).tree.get? (projectRoot d start ++ [directoryName]) =
        some (.directory newDirectoryMode) := by
      rw [get?_founded, if_pos rfl]
    rw [← hroot, Disk.isDirectory_iff]
    refine ⟨_, _, (Disk.find_straight_iff (hgrows.straight hplace) isEntryName_directoryName (by simp [hget])).mpr
      ⟨(hgrows.reaches_iff hplace).mpr hadmits.toReaches, rfl, hget⟩, rfl⟩
  · have hwithin := hlimit.within
    rw [isDirectory_of_grows hgrows hstart hlinks (ancestor_isPrefix start i) fun hfree => ?_]
    · exact (directory?_eq_none_iff hlimit).mp hnone i (by omega)
    · rwa [get?_founded, if_neg]
      intro heq
      have hlength := congrArg List.length (List.append_inj_left' heq rfl)
      rw [hroot, length_ancestor, length_ancestor] at hlength
      omega

/-- From every directory between, the directory that was made is found. -/
theorem directory?_founded (hdir : dir <+: start) (hroot : projectRoot d start <+: dir) :
    directory? (founded d start) dir = some (projectRoot d start ++ [directoryName]) := by
  obtain ⟨limit, steps, hlimit, hsteps, hnearest, hplace⟩ := exists_isNearest_founded hstart hlinks hnone hadmits
  have hlength := hroot.length_le
  have hwithin := hlimit.within
  rw [hplace, length_ancestor] at hlength
  rw [eq_ancestor_of_isPrefix hdir, hplace]
  exact directory?_ancestor hlimit hsteps hnearest (by omega)

end Founded

/-- A directory for settings can be made if the root of the project has nothing of that name, or a directory that is not
found. -/
theorem admits_projectRoot (hstart : d.tree.Straight start) (hnone : directory? d start = none)
    (hreach : d.Reaches (projectRoot d start) directoryName) (hchange : d.changeable (projectRoot d start) = true)
    (hfree : ∀ e, d.tree.get? (projectRoot d start ++ [directoryName]) = some e → e.isDirectory = true) :
    d.Admits (projectRoot d start) directoryName := by
  refine ⟨hreach, hchange, ?_⟩
  rw [Option.eq_none_iff_forall_ne_some]
  intro e hget
  have hdir := hfree e hget
  have hlink : ∀ target, d.tree.get? (projectRoot d start ++ [directoryName]) ≠ some (.link target) := by
    rintro target hlinked
    cases hget.symm.trans hlinked
    cases hdir
  have hplace := hstart.of_isPrefix (projectRoot_isPrefix d start)
  have hfound : d.isDirectory (inside (projectRoot d start) directoryName) = true :=
    Disk.isDirectory_iff.mpr
      ⟨_, e, (Disk.find_straight_iff hplace isEntryName_directoryName hlink).mpr ⟨hreach, rfl, hget⟩, hdir⟩
  exact absurd (hfound.symm.trans (isDirectory_projectRoot hnone)) (by decide)

/-- A project with its mark, and a directory in it. -/
def projectDisk : Disk :=
  ⟨⟨[(["p"], .directory 0o755), (["p", ".git"], .directory 0o755), (["p", "a"], .directory 0o755)]⟩, ["p", "a"]⟩

theorem isPrefix_pair {front : List String} {a b : String} (h : front <+: [a, b]) :
    front = [] ∨ front = [a] ∨ front = [a, b] := by
  rcases List.prefix_cons_iff.mp h with rfl | ⟨rest, rfl, hrest⟩
  · exact .inl rfl
  · rcases List.prefix_cons_iff.mp hrest with rfl | ⟨more, rfl, hmore⟩
    · exact .inr (.inl rfl)
    · rw [List.prefix_nil.mp hmore]
      exact .inr (.inr rfl)

theorem straight_projectDisk : projectDisk.tree.Straight ["p", "a"] := by
  refine ⟨fun name hname => ?_, fun front hfront => ?_⟩
  · rcases List.mem_pair.mp hname with rfl | rfl
    all_goals exact ⟨⟨by decide, by decide, by decide⟩, by decide, by decide, by decide⟩
  · rcases isPrefix_pair hfront with rfl | rfl | rfl
    all_goals exact ⟨0o755, by decide +kernel⟩

theorem reaches_projectDisk {dir : List String} {name : String} (hdir : dir <+: ["p", "a"])
    (hname : name ∈ [rootMark, directoryName]) : projectDisk.Reaches dir name := by
  refine ⟨fun front hfront => ?_, ?_⟩
  · rcases isPrefix_pair (hfront.trans hdir) with rfl | rfl | rfl
    all_goals exact ⟨.directory 0o755, by decide +kernel⟩
  · rcases isPrefix_pair hdir with rfl | rfl | rfl <;> rcases List.mem_pair.mp hname with rfl | rfl
    all_goals decide +kernel

theorem noLink_projectDisk (path : List String) (target : String) : projectDisk.tree.get? path ≠ some (.link target) :=
  Tree.get?_ne_link_of_entries (by decide) path target

theorem free_projectDisk {dir : List String} (hdir : dir <+: ["p", "a"]) :
    projectDisk.tree.get? (dir ++ [directoryName]) = none := by
  rcases isPrefix_pair hdir with rfl | rfl | rfl
  all_goals decide +kernel

theorem projectRoot_projectDisk : projectRoot projectDisk ["p", "a"] = ["p"] := by
  have hhere : isProjectRoot projectDisk ["p", "a"] = false := by
    rw [Bool.eq_false_iff, Ne, isProjectRoot_iff straight_projectDisk (noLink_projectDisk _)]
    rintro ⟨-, e, hget⟩
    have hnone : projectDisk.tree.get? (["p", "a"] ++ [rootMark]) = none := by decide +kernel
    rw [hnone] at hget
    cases hget
  have habove : isProjectRoot projectDisk ["p"] = true := by
    refine (isProjectRoot_iff (straight_projectDisk.of_isPrefix ⟨["a"], rfl⟩) (noLink_projectDisk _)).mpr
      ⟨reaches_projectDisk ⟨["a"], rfl⟩ (by simp), .directory 0o755, by decide +kernel⟩
  have hlimit : IsLimit projectDisk ["p", "a"] 1 := by
    refine ⟨by decide, fun i hi => ?_, .inl habove⟩
    obtain rfl := Nat.lt_one_iff.mp hi
    exact hhere
  rw [projectRoot_eq hlimit]
  exact if_pos habove

theorem directory?_projectDisk : directory? projectDisk ["p", "a"] = none := by
  obtain ⟨limit, hlimit⟩ := exists_isLimit projectDisk ["p", "a"]
  rw [directory?_eq_none_iff hlimit]
  intro i _
  have hplace := straight_projectDisk.of_isPrefix (ancestor_isPrefix ["p", "a"] i)
  rw [Bool.eq_false_iff, Ne, isDirectory_iff hplace (noLink_projectDisk _)]
  rintro ⟨-, e, hget, -⟩
  rw [free_projectDisk (ancestor_isPrefix ["p", "a"] i)] at hget
  cases hget

end Rehearsal.Settings
