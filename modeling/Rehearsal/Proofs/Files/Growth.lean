import Rehearsal.Proofs.Files.Access

/-!
# Disks that grow

A disk grows where entries are added and the contents of files are replaced, and nothing is taken away or put in the place
of something else. A path that leads to an entry leads there still on a disk that has grown (`Disk.Grows.find`), and one
that led to a free name leads to what was put there (`Tree.Grows.walk_free`).
-/

namespace Rehearsal.Files

/-- The same entry, up to the contents of a file. -/
inductive Entry.Same : Entry → Entry → Prop
  | refl (e : Entry) : Same e e
  | file (mode : Nat) (data data' : Bytes) : Same (.file mode data) (.file mode data')

namespace Entry.Same

variable {e e' e'' : Entry}

theorem trans (h : e.Same e') (h' : e'.Same e'') : e.Same e'' := by
  cases h with
  | refl => exact h'
  | file mode data =>
    cases h' with
    | refl => exact .file mode data _
    | file => exact .file mode data _

theorem isDirectory_eq (h : e.Same e') : e'.isDirectory = e.isDirectory := by cases h <;> rfl

theorem eq_of_isDirectory (h : e.Same e') (he : e.isDirectory = true) : e' = e := by
  cases h with
  | refl => rfl
  | file => cases he

theorem eq_link {target : String} (h : (Entry.link target).Same e') : e' = .link target := by
  cases h
  rfl

theorem keepsOpen (h : e.Same e') : e.KeepsOpen e' := by
  cases h with
  | refl => exact .refl e
  | file => exact .of_isEnd rfl rfl

end Entry.Same

/-! ## Trees -/

/-- A tree that has what another has, up to the contents of files. -/
def Tree.Grows (t t' : Tree) : Prop := ∀ path e, t.get? path = some e → ∃ e', t'.get? path = some e' ∧ e.Same e'

variable {t t' : Tree} {follow : Bool} {links : Nat} {start path : List String}

/-- A directory that was there is there. -/
theorem Tree.Grows.get?_directory (h : t.Grows t') {here : Entry} (hget : t.get? path = some here)
    (hdir : ¬(!here.isDirectory) = true) : t'.get? path = some here := by
  obtain ⟨e, he, hsame⟩ := h path here hget
  rw [he, hsame.eq_of_isDirectory (by simpa using hdir)]

/-- A link that was there is there. -/
theorem Tree.Grows.get?_link (h : t.Grows t') {target : String} (hget : t.get? path = some (.link target)) :
    t'.get? path = some (.link target) := by
  obtain ⟨e, he, hsame⟩ := h path _ hget
  rw [he, hsame.eq_link]

theorem Tree.Grows.keepsOpen (hgrows : t.Grows t') : t.KeepsOpen t' := fun q e hget => by
  obtain ⟨e', hget', hsame⟩ := hgrows q e hget
  exact ⟨e', hget', hsame.keepsOpen⟩

/-- What a path led to, it leads to in a tree that has grown. -/
theorem Tree.Grows.walk (hgrows : t.Grows t') {p : List String} {e : Entry}
    (h : walk t follow links start path = .ok (.entry p e)) :
    ∃ e', Files.walk t' follow links start path = .ok (.entry p e') ∧ e.Same e' := by
  obtain ⟨e', hwalk⟩ := hgrows.keepsOpen.walk h
  obtain ⟨e'', hget, hsame⟩ := hgrows p e (get?_of_walk h)
  obtain rfl := Option.some.inj (hget.symm.trans (get?_of_walk hwalk))
  exact ⟨e'', hwalk, hsame⟩

/-- A path that leads to a free name leads past directories that are there to a name that is not there, in one of
them. -/
theorem get?_of_walk_free {place : List String} {name : String}
    (h : walk t follow links start path = .ok (.free place name)) :
    t.get? (place ++ [name]) = none ∧ ∃ here, t.get? place = some here ∧ here.isDirectory = true := by
  fun_induction Files.walk t follow links start path
  case case6 ih => exact ih h
  case case7 ih => exact ih h
  case case9 hhere hdir _ _ _ _ hnone _ =>
    cases h
    exact ⟨hnone, _, hhere, by simpa using hdir⟩
  case case13 ih => exact ih h
  case case15 ih => exact ih h
  all_goals cases h

/-- Where a path led to a free name, it leads to what is put there, unless that is a link. -/
theorem Tree.Grows.walk_free (hgrows : t.Grows t') {place : List String} {name : String} {e : Entry}
    (hnew : t'.get? (place ++ [name]) = some e) (hlink : e.isLink = false)
    (h : Files.walk t follow links start path = .ok (.free place name)) :
    Files.walk t' true links start path = .ok (.entry (place ++ [name]) e) := by
  fun_induction Files.walk t follow links start path
  case case6 hhere hdir hmode hname ih =>
    rw [Files.walk, hgrows.get?_directory hhere hdir]
    simp only [hdir, hmode, hname, if_true]
    exact ih h
  case case7 hhere hdir hmode hdot hdots ih =>
    rw [Files.walk, hgrows.get?_directory hhere hdir]
    simp only [hdir, hmode, hdot, hdots, if_true]
    exact ih h
  case case9 hhere hdir hmode hdot hdots hlong hnone hstop =>
    cases h
    rw [Files.walk, hgrows.get?_directory hhere hdir, hnew]
    simp only [hdir, hmode, hdot, hdots, hlong, hstop, if_false, if_true]
    cases e with
    | link => cases hlink
    | _ => rfl
  case case13 hhere hdir hmode hdot hdots hlong target hlinked hstop links ih =>
    rw [Files.walk, hgrows.get?_directory hhere hdir, hgrows.get?_link hlinked]
    simp only [hdir, hmode, hdot, hdots, hlong, Bool.not_true, Bool.and_false, if_false]
    exact ih h
  case case15 hhere hdir hmode hdot hdots hlong e hnolink hentry hstop hnext ih =>
    rw [Files.walk, hgrows.get?_directory hhere hdir, hgrows.get?_directory hentry (by simp [hnext])]
    simp only [hdir, hmode, hdot, hdots, hlong, hstop, hnext, if_false, if_true]
    exact ih h
  all_goals cases h

/-! ## Disks -/

/-- A disk whose tree has grown. -/
structure Disk.Grows (d d' : Disk) : Prop where
  base : d'.base = d.base
  tree : d.tree.Grows d'.tree

instance : Step.Lasting Disk.Grows where
  refl _ := ⟨rfl, fun _ e h => ⟨e, h, .refl e⟩⟩
  trans h h' := by
    refine ⟨h'.base.trans h.base, fun path e hget => ?_⟩
    obtain ⟨e', hget', hsame⟩ := h.tree path e hget
    obtain ⟨e'', hget'', hsame'⟩ := h'.tree path e' hget'
    exact ⟨e'', hget'', hsame.trans hsame'⟩

/-- What a path leads to is walked to by its names. -/
theorem locate_eq_ok_iff {base : List String} {p : String} {spot : Spot} :
    locate t base follow p = .ok spot ↔
      p ≠ "" ∧ p.utf8ByteSize ≤ maxPath ∧
        walk t follow maxLinks (if Path.isAbsolute p then [] else base) ((p.splitOn "/").filter fun n => !n.isEmpty) =
          .ok spot := by
  rw [locate]
  split
  next hempty =>
    rw [String.isEmpty_iff] at hempty
    exact iff_of_false (fun h => by cases h) (fun h => h.1 hempty)
  next hempty =>
    split
    next hlong => exact iff_of_false (fun h => by cases h) (fun h => absurd h.2.1 (by omega))
    next hlong =>
      rw [String.isEmpty_iff] at hempty
      exact ⟨fun h => ⟨hempty, by omega, h⟩, fun h => h.2.2⟩

namespace Disk

/-- What is found under a path is walked to. Where the path ends in a slash it is a directory, and links are followed. -/
theorem find_eq_ok_iff_locate {d : Disk} {p : String} {r : List String} {e : Entry} :
    d.find follow p = .ok (r, e) ↔
      p.contains '\x00' = false ∧ (endsInSlash p = true → e.isDirectory = true) ∧
        locate d.tree d.base (follow || endsInSlash p) p = .ok (.entry r e) := by
  rw [find, Files.find]
  cases p.contains '\x00' with
  | true => simp
  | false =>
    rw [if_neg Bool.false_ne_true]
    rcases locate d.tree d.base (follow || endsInSlash p) p with why | ⟨place, e'⟩ | ⟨place, name⟩
    · simp
    · cases hslash : endsInSlash p
      · simp
      · by_cases hdir : e'.isDirectory = true
        · simp [hdir]
          rintro rfl rfl
          exact hdir
        · simp [hdir]
          intro he _ heq
          exact hdir (heq ▸ he)
    · simp

theorem find_eq_ok_iff {d : Disk} {p : String} {r : List String} {e : Entry} :
    d.find true p = .ok (r, e) ↔
      p.contains '\x00' = false ∧ (endsInSlash p = true → e.isDirectory = true) ∧
        locate d.tree d.base true p = .ok (.entry r e) := by
  rw [find_eq_ok_iff_locate, Bool.true_or]

/-- What stands where a path leads. -/
theorem get?_of_find {d : Disk} {p : String} {r : List String} {e : Entry} (h : d.find follow p = .ok (r, e)) :
    d.tree.get? r = some e :=
  get?_of_walk (locate_eq_ok_iff.mp (find_eq_ok_iff_locate.mp h).2.2).2.2

variable {d d' : Disk}

/-- Where a path led to an entry, it leads on a disk that keeps open what it goes through. -/
theorem locate_of_keepsOpen (hbase : d'.base = d.base) (hopen : d.tree.KeepsOpen d'.tree) {p : String} {r : List String}
    {e : Entry} (h : locate d.tree d.base follow p = .ok (.entry r e)) :
    ∃ e', locate d'.tree d'.base follow p = .ok (.entry r e') := by
  obtain ⟨hempty, hlong, hwalk⟩ := locate_eq_ok_iff.mp h
  obtain ⟨e', hwalk'⟩ := hopen.walk hwalk
  exact ⟨e', locate_eq_ok_iff.mpr ⟨hempty, hlong, hbase ▸ hwalk'⟩⟩

theorem find_of_keepsOpen (hbase : d'.base = d.base) (hopen : d.tree.KeepsOpen d'.tree) {p : String} {r : List String}
    {e : Entry} (h : d.find follow p = .ok (r, e)) : ∃ e', d'.find follow p = .ok (r, e') := by
  obtain ⟨hnull, hslash, hlocate⟩ := find_eq_ok_iff_locate.mp h
  obtain ⟨e', hlocate'⟩ := locate_of_keepsOpen hbase hopen hlocate
  refine ⟨e', find_eq_ok_iff_locate.mpr ⟨hnull, fun hend => ?_, hlocate'⟩⟩
  obtain ⟨e'', hget, hkeeps⟩ := hopen r e (get?_of_find h)
  obtain rfl := Option.some.inj (hget.symm.trans (get?_of_walk (locate_eq_ok_iff.mp hlocate').2.2))
  exact hkeeps.directory.trans (hslash hend)

/-- A path leads where it led on a disk that has grown. -/
theorem Grows.find (hgrows : d.Grows d') {p : String} {r : List String} {e : Entry} (h : d.find true p = .ok (r, e)) :
    ∃ e', d'.find true p = .ok (r, e') ∧ e.Same e' := by
  obtain ⟨e', hfind⟩ := find_of_keepsOpen hgrows.base hgrows.tree.keepsOpen h
  obtain ⟨e'', hget, hsame⟩ := hgrows.tree r e (get?_of_find h)
  obtain rfl := Option.some.inj (hget.symm.trans (get?_of_find hfind))
  exact ⟨e'', hfind, hsame⟩

theorem isDirectory_iff {p : String} : d.isDirectory p = true ↔ ∃ r e, d.find true p = .ok (r, e) ∧ e.isDirectory = true := by
  rw [isDirectory, find?]
  rcases d.find true p with why | ⟨r, e⟩
  · simp
  · constructor
    · exact fun h => ⟨r, e, rfl, h⟩
    · rintro ⟨_, _, ⟨⟩, h⟩
      exact h

/-- A directory has no contents to be read. -/
theorem read_of_isDirectory {p : String} (h : d.isDirectory p = true) : ∃ e, d.read p = .error e := by
  obtain ⟨r, e, hfind, hdir⟩ := isDirectory_iff.mp h
  rw [read, hfind]
  cases e with
  | directory mode => exact ⟨_, rfl⟩
  | file | link | device => cases hdir

/-- A directory is a directory still. -/
theorem Grows.isDirectory (hgrows : d.Grows d') {p : String} (h : d.isDirectory p = true) : d'.isDirectory p = true := by
  obtain ⟨r, e, hfind, hdir⟩ := isDirectory_iff.mp h
  obtain ⟨e', hfind', hsame⟩ := hgrows.find hfind
  exact isDirectory_iff.mpr ⟨r, e', hfind', by rwa [hsame.isDirectory_eq]⟩

/-- Where something is taken away is walked to, a link at the end not followed. -/
theorem spot_eq_ok_iff {p : String} {spot : Spot} :
    d.spot p none = .ok spot ↔ p.contains '\x00' = false ∧ locate d.tree d.base false p = .ok spot := by
  rw [Disk.spot, Option.any_none, Bool.or_false]
  cases p.contains '\x00' with
  | true => simp
  | false => cases locate d.tree d.base false p <;> simp

/-- A path that names a directory names it still. -/
theorem Grows.spot_directory (hgrows : d.Grows d') {p : String} {path : List String} {mode : Nat}
    (h : d.spot p none = .ok (.entry path (.directory mode))) : d'.spot p none = .ok (.entry path (.directory mode)) := by
  obtain ⟨hnull, hlocate⟩ := spot_eq_ok_iff.mp h
  obtain ⟨hempty, hlong, hwalk⟩ := locate_eq_ok_iff.mp hlocate
  obtain ⟨e, hwalk', hsame⟩ := hgrows.tree.walk hwalk
  obtain rfl := hsame.eq_of_isDirectory rfl
  exact spot_eq_ok_iff.mpr ⟨hnull, locate_eq_ok_iff.mpr ⟨hempty, hlong, hgrows.base ▸ hwalk'⟩⟩

/-- A disk with something in a free place has grown. -/
theorem grows_putEntry_free {place : List String} {name : String} (h : d.tree.get? (place ++ [name]) = none) (e : Entry) :
    d.Grows (d.putEntry (place ++ [name]) e) := by
  have hne : place ++ [name] ≠ [] := by simp
  refine ⟨rfl, fun path old hget => ⟨old, ?_, .refl old⟩⟩
  rw [putEntry, Tree.get?_put hne, if_neg, hget]
  rintro rfl
  rw [h] at hget
  cases hget

/-- A disk with new contents in a file has grown. -/
theorem grows_putEntry_file {path : List String} {mode : Nat} {old : Bytes}
    (h : d.tree.get? path = some (.file mode old)) (data : Bytes) : d.Grows (d.putEntry path (.file mode data)) := by
  have hne : path ≠ [] := by
    rintro rfl
    cases h
  refine ⟨rfl, fun q e hget => ?_⟩
  rw [putEntry, Tree.get?_put hne]
  by_cases hq : q = path
  · subst hq
    rw [if_pos rfl]
    cases hget.symm.trans h
    exact ⟨_, rfl, .file mode old data⟩
  · rw [if_neg hq]
    exact ⟨e, hget, .refl e⟩

end Disk

end Rehearsal.Files
