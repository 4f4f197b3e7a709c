import Mathlib.Data.List.Induction
import Mathlib.Data.List.Nodup
import Rehearsal.Proofs.Files.Straight

/-!
# Entries of directories

A tree that a file system can hold is sound: everything in it stands in a directory, under a name that an entry can have. In
such a tree a name is read from a directory by its path exactly if the directory holds an entry of that name, may be searched,
and the path is not too long (`Disk.present_join_iff`).

What the name leads to stands in the directory itself, if it is not the name of a link (`Disk.eq_of_find_join`).
-/

namespace Rehearsal.Files

/-! ## Sound trees -/

/-- A tree that a file system can hold: everything in it stands in a directory, under a name that an entry can have. -/
structure Tree.Sound (t : Tree) : Prop where
  whole : t.Whole
  named : ∀ place name e, t.get? (place ++ [name]) = some e → IsEntryName name

instance (name : String) : Decidable (IsEntryName name) :=
  decidable_of_iff ((name ≠ "." ∧ name ≠ ".." ∧ name.utf8ByteSize ≤ maxName) ∧
      name ≠ "" ∧ '/' ∉ name.toList ∧ '\x00' ∉ name.toList)
    ⟨fun ⟨⟨hdot, hdots, hshort⟩, hne, hslash, hnull⟩ => ⟨⟨hdot, hdots, hshort⟩, hne, hslash, hnull⟩,
      fun h => ⟨⟨h.dot, h.dots, h.short⟩, h.nonempty, h.slash, h.null⟩⟩

theorem Tree.sound_of_entries {t : Tree} (hwhole : ∀ pair ∈ t.entries, (t.get? pair.1.dropLast).any Entry.isDirectory = true)
    (hnames : ∀ pair ∈ t.entries, ∀ name ∈ pair.1, IsEntryName name) : t.Sound :=
  ⟨Tree.whole_of_entries hwhole, fun _ name _ hget =>
    hnames _ (Tree.mem_entries_of_get? (by simp) hget) name (by simp)⟩

theorem Tree.Sound.isEntryName {t : Tree} (h : t.Sound) {place : List String} {name : String}
    (hentry : (t.get? (place ++ [name])).isSome = true) : IsEntryName name := by
  obtain ⟨e, hget⟩ := Option.isSome_iff_exists.mp hentry
  exact h.named place name e hget

/-- Nothing stands below a place that has nothing in it. -/
theorem Tree.Whole.get?_append_eq_none {t : Tree} (h : t.Whole) {place : List String} (hempty : t.children place = [])
    {below : List String} (hbelow : below ≠ []) : t.get? (place ++ below) = none := by
  induction below using List.reverseRecOn with
  | nil => exact absurd rfl hbelow
  | append_singleton front name ih =>
    rw [← List.append_assoc]
    by_cases hfront : front = []
    · rw [hfront, List.append_nil, ← Option.not_isSome_iff_eq_none, ← Tree.mem_children_iff, hempty]
      exact List.not_mem_nil
    · exact h.free (ih hfront) name

/-- Nothing stands in what is no directory. -/
theorem Tree.Whole.children_eq_nil {t : Tree} (h : t.Whole) {place : List String} {e : Entry} (hget : t.get? place = some e)
    (hdir : e.isDirectory = false) : t.children place = [] := by
  rw [List.eq_nil_iff_forall_not_mem]
  intro name hname
  obtain ⟨child, hchild⟩ := Option.isSome_iff_exists.mp (Tree.mem_children_iff.mp hname)
  obtain ⟨mode, hplace⟩ := h place name child hchild
  cases hget.symm.trans hplace
  cases hdir

/-- A tree with no two entries in one place. -/
def Tree.Keyed (t : Tree) : Prop := (t.entries.map Prod.fst).Nodup

/-- No name is in a directory twice. -/
theorem Tree.Keyed.nodup_children {t : Tree} (h : t.Keyed) (place : List String) : (t.children place).Nodup := by
  have hkeys : t.children place = (t.entries.map Prod.fst).filterMap fun p =>
      if p.length == place.length + 1 && place.isPrefixOf p then p.getLast? else none := by
    rw [List.filterMap_map]
    rfl
  rw [hkeys]
  refine List.Nodup.filterMap (fun p q name hp hq => ?_) h
  rw [Tree.child_iff.mp hp, Tree.child_iff.mp hq]

namespace Disk

variable {d : Disk} {p name : String} {follow : Bool} {place r : List String} {e here : Entry}

/-! ## Names that are read from a directory -/

theorem isLink_iff : d.isLink p = true ↔ ∃ r target, d.find false p = .ok (r, .link target) := by
  rw [isLink, find?]
  rcases d.find false p with why | ⟨r, e⟩
  · simp
  · cases e <;> simp [Entry.isLink]

theorem present_iff : d.present p = true ↔ ∃ r e, d.find false p = .ok (r, e) := by
  rw [present, find?]
  rcases d.find false p with why | ⟨r, e⟩ <;> simp

/-- A name that is read from a directory is looked up in it. -/
theorem exists_locate_join (hfind : d.find true p = .ok (place, here)) (hdir : here.isDirectory = true)
    (hname : name ≠ "") (hslash : '/' ∉ name.toList) :
    ∃ left, ∀ follow spot, locate d.tree d.base follow (Path.join p name) = .ok spot ↔
      (Path.join p name).utf8ByteSize ≤ maxPath ∧ walk d.tree follow left place [name] = .ok spot := by
  obtain ⟨hne, -, hwalk⟩ := locate_eq_ok_iff.mp (find_eq_ok_iff.mp hfind).2.2
  obtain ⟨rest, hjoin⟩ := Path.exists_join_eq_append p hslash
  have habsolute : Path.isAbsolute (Path.join p name) = Path.isAbsolute p := by rw [hjoin, Path.isAbsolute_append hne]
  have hsome : Path.join p name ≠ "" := by
    rw [hjoin]
    exact fun h => hne (String.append_eq_empty_iff.mp h).1
  obtain ⟨left, hleft⟩ := exists_walk_append hwalk hdir
  refine ⟨left, fun follow spot => ?_⟩
  rw [locate_eq_ok_iff, Path.pieces_join hne hname hslash, habsolute, hleft follow [name] (by simp)]
  exact and_iff_right hsome

theorem endsInSlash_join (p : String) (hname : name ≠ "") (hslash : '/' ∉ name.toList) :
    endsInSlash (Path.join p name) = false := by
  rw [Path.join_eq_append (Path.isAbsolute_eq_false hslash)]
  exact Path.endsInSlash_append hname hslash

/-- **What a name in a directory leads to stands in the directory**, if it is not the name of a link. -/
theorem eq_of_find_join (hfind : d.find true p = .ok (place, here)) (hdir : here.isDirectory = true) (hname : IsEntryName name)
    (hlink : d.isLink (Path.join p name) = false) (h : d.find true (Path.join p name) = .ok (r, e)) :
    r = place ++ [name] ∧ e.isLink = false := by
  obtain ⟨left, hleft⟩ := exists_locate_join hfind hdir hname.nonempty hname.slash
  obtain ⟨hnull, -, hlocate⟩ := find_eq_ok_iff.mp h
  obtain ⟨hshort, hwalk⟩ := (hleft true _).mp hlocate
  have hsearch := searchable_of_walk hwalk
  have hplain : ∀ target, d.tree.get? (place ++ [name]) ≠ some (.link target) := by
    intro target hget
    have hself : walk d.tree false left place [name] = .ok (.entry (place ++ [name]) (.link target)) := by
      rw [walk_last hsearch hname.toIsName (by simp), hget]
    have hthere : d.isLink (Path.join p name) = true := by
      have hslash := endsInSlash_join p hname.nonempty hname.slash
      refine isLink_iff.mpr ⟨place ++ [name], target, find_eq_ok_iff_locate.mpr ⟨hnull, by simp [hslash], ?_⟩⟩
      rw [hslash]
      exact (hleft false _).mpr ⟨hshort, hself⟩
    rw [hlink] at hthere
    cases hthere
  rw [walk_last hsearch hname.toIsName fun _ => hplain] at hwalk
  cases hget : d.tree.get? (place ++ [name]) with
  | none =>
    rw [hget] at hwalk
    cases hwalk
  | some e' =>
    rw [hget] at hwalk
    cases hwalk
    refine ⟨rfl, ?_⟩
    cases e with
    | link target => exact absurd hget (hplain target)
    | _ => rfl

/-- A name that is looked up, other than a dot or a pair of dots, is one that can be. -/
theorem isName_of_walk {t : Tree} {links : Nat} {spot : Spot} (hdot : name ≠ ".") (hdots : name ≠ "..")
    (h : walk t follow links place [name] = .ok spot) : IsName name := by
  refine ⟨hdot, hdots, ?_⟩
  by_contra hlong
  obtain ⟨here, hhere, hdir, hsearch⟩ := searchable_of_walk h
  rw [walk, hhere] at h
  simp only [hdir, hsearch, beq_eq_false_iff_ne.mpr hdot, beq_eq_false_iff_ne.mpr hdots, Nat.not_le.mp hlong, Bool.not_true,
    Bool.false_eq_true, if_false, if_true] at h
  cases h

theorem contains_null_join (p : String) (hslash : '/' ∉ name.toList) :
    (Path.join p name).contains '\x00' = false ↔ p.contains '\x00' = false ∧ name.contains '\x00' = false := by
  have hfront : '\x00' ∈ (Path.frontOf p).toList ↔ '\x00' ∈ p.toList := by
    rw [Path.frontOf]
    split <;> simp
  rw [Path.join_eq_append (Path.isAbsolute_eq_false hslash)]
  simp only [String.contains_char_eq, decide_eq_false_iff_not, String.toList_append, List.mem_append, not_or, hfront]

/-- What is looked up in a directory by its name is there exactly if the directory may be searched and holds it. -/
theorem present_iff_of_lookup {left : Nat} (hslash : endsInSlash p = false) (hdot : name ≠ ".") (hdots : name ≠ "..")
    (hlook : ∀ spot, locate d.tree d.base false p = .ok spot ↔
      p.utf8ByteSize ≤ maxPath ∧ walk d.tree false left place [name] = .ok spot) :
    d.present p = true ↔
      p.contains '\x00' = false ∧ IsName name ∧ d.tree.Searchable place ∧ (d.tree.get? (place ++ [name])).isSome = true ∧
        p.utf8ByteSize ≤ maxPath := by
  rw [present_iff]
  simp only [find_eq_ok_iff_locate, hslash, Bool.or_false, hlook]
  constructor
  · rintro ⟨r, e, hnull, -, hshort, hwalk⟩
    have hsearch := searchable_of_walk hwalk
    have hname := isName_of_walk hdot hdots hwalk
    refine ⟨hnull, hname, hsearch, ?_, hshort⟩
    rw [walk_last hsearch hname (by simp)] at hwalk
    cases hget : d.tree.get? (place ++ [name]) with
    | none =>
      rw [hget] at hwalk
      cases hwalk
    | some e => rfl
  · rintro ⟨hnull, hname, hsearch, hsome, hshort⟩
    obtain ⟨e, hget⟩ := Option.isSome_iff_exists.mp hsome
    refine ⟨place ++ [name], e, hnull, fun h => (nomatch h), hshort, ?_⟩
    rw [walk_last hsearch hname (by simp), hget]

theorem searchable_iff {mode : Nat} (hget : d.tree.get? place = some (.directory mode)) :
    d.tree.Searchable place ↔ (Entry.directory mode).allows searchBit = true := by
  constructor
  · rintro ⟨here, hhere, -, hsearch⟩
    cases hget.symm.trans hhere
    exact hsearch
  · exact fun hsearch => ⟨_, hget, rfl, hsearch⟩

/-- **A name is found in a directory by its path exactly if the directory holds an entry of that name**, may be searched, and
the path is not too long. -/
theorem present_join_iff (hsound : d.tree.Sound) (hp : p ≠ "") (hname : name ≠ "") (hslash : '/' ∉ name.toList)
    (hdot : name ≠ ".") (hdots : name ≠ "..") :
    d.present (Path.join p name) = true ↔
      ∃ place mode, d.find true p = .ok (place, .directory mode) ∧ (d.tree.get? (place ++ [name])).isSome = true ∧
        (Entry.directory mode).allows searchBit = true ∧ (Path.join p name).utf8ByteSize ≤ maxPath := by
  have hend := endsInSlash_join p hname hslash
  constructor
  · intro hpresent
    obtain ⟨r, e, hfind⟩ := present_iff.mp hpresent
    obtain ⟨hnull, -, hlocate⟩ := find_eq_ok_iff_locate.mp hfind
    obtain ⟨place, mode, hdirectory⟩ := exists_directory_of_locate_join hp hname hslash hnull hlocate
    obtain ⟨left, hleft⟩ := exists_locate_join hdirectory rfl hname hslash
    obtain ⟨-, -, hsearch, hsome, hshort⟩ := (present_iff_of_lookup hend hdot hdots (hleft false)).mp hpresent
    exact ⟨place, mode, hdirectory, hsome, (searchable_iff (get?_of_find hdirectory)).mp hsearch, hshort⟩
  · rintro ⟨place, mode, hdirectory, hsome, hsearch, hshort⟩
    have hentry := hsound.isEntryName hsome
    obtain ⟨left, hleft⟩ := exists_locate_join hdirectory rfl hname hslash
    have hnull : (Path.join p name).contains '\x00' = false :=
      (contains_null_join p hslash).mpr
        ⟨(find_eq_ok_iff.mp hdirectory).1, by simpa [String.contains_char_eq] using hentry.null⟩
    exact (present_iff_of_lookup hend hdot hdots (hleft false)).mpr
      ⟨hnull, hentry.toIsName, (searchable_iff (get?_of_find hdirectory)).mpr hsearch, hsome, hshort⟩

/-- Slashes at the end of a path leave the directory that it leads to, unless they make it too long. -/
theorem find_of_slashes {q : String} {slashes : List Char} {mode : Nat} (h : p.toList = q.toList ++ slashes)
    (hslashes : ∀ c ∈ slashes, c = '/') (hne : q ≠ "") (hshort : p.utf8ByteSize ≤ maxPath) :
    d.find true p = .ok (place, .directory mode) ↔ d.find true q = .ok (place, .directory mode) := by
  obtain rfl : p = q ++ String.ofList slashes := String.toList_injective (by simp [h])
  have hfront : q.utf8ByteSize ≤ maxPath := by
    rw [String.utf8ByteSize_append] at hshort
    omega
  have hsome : q ++ String.ofList slashes ≠ "" := fun hempty => hne (String.append_eq_empty_iff.mp hempty).1
  have hnull : (q ++ String.ofList slashes).contains '\x00' = q.contains '\x00' := by
    have hno : '\x00' ∉ slashes := fun hmem => absurd (hslashes _ hmem) (by decide)
    simp [String.contains_char_eq, hno]
  rw [find_eq_ok_iff, find_eq_ok_iff, locate_eq_ok_iff, locate_eq_ok_iff, Path.pieces_append_slashes h hslashes,
    Path.isAbsolute_append hne, hnull]
  simp only [hsome, hne, hshort, hfront, true_and, ne_eq, not_false_eq_true, Entry.isDirectory, implies_true]

/-- The directory that paths start from is opened by a dot. -/
theorem find_dot_iff {mode : Nat} :
    d.find true "." = .ok (place, .directory mode) ↔
      place = d.base ∧ d.tree.get? d.base = some (.directory mode) ∧ (Entry.directory mode).allows searchBit = true := by
  have hpieces : (String.splitOn "." "/").filter (fun n => !n.isEmpty) = ["."] :=
    Path.pieces_of_name (by decide) (by decide)
  have habsolute : Path.isAbsolute "." = false := by decide +kernel
  have hnull : String.contains "." '\x00' = false := by simp [String.contains_char_eq]
  rw [find_eq_ok_iff, locate_eq_ok_iff, hpieces, habsolute, if_neg Bool.false_ne_true]
  constructor
  · rintro ⟨-, -, -, -, hwalk⟩
    have hsearch := searchable_of_walk hwalk
    rw [walk_dot hsearch, walk] at hwalk
    split at hwalk
    next here hhere =>
      cases hwalk
      exact ⟨rfl, hhere, (searchable_iff hhere).mp hsearch⟩
    next => cases hwalk
  · rintro ⟨rfl, hget, hsearch⟩
    refine ⟨hnull, fun _ => rfl, by decide, by decide, ?_⟩
    rw [walk_dot ((searchable_iff hget).mpr hsearch), walk, hget]

/-- A name alone is read from the directory that paths start from. -/
theorem present_name_iff (hsound : d.tree.Sound) (hname : name ≠ "") (hslash : '/' ∉ name.toList) (hdot : name ≠ ".")
    (hdots : name ≠ "..") :
    d.present name = true ↔
      ∃ place mode, d.find true "." = .ok (place, .directory mode) ∧ (d.tree.get? (place ++ [name])).isSome = true ∧
        (Entry.directory mode).allows searchBit = true ∧ name.utf8ByteSize ≤ maxPath := by
  have hpieces := Path.pieces_of_name hname hslash
  rw [Path.pieces] at hpieces
  have hend : endsInSlash name = false := by
    rw [← String.empty_append (s := name)]
    exact Path.endsInSlash_append hname hslash
  have hlook : ∀ spot, locate d.tree d.base false name = .ok spot ↔
      name.utf8ByteSize ≤ maxPath ∧ walk d.tree false maxLinks d.base [name] = .ok spot := fun spot => by
    rw [locate_eq_ok_iff, hpieces, Path.isAbsolute_eq_false hslash, if_neg Bool.false_ne_true]
    exact and_iff_right hname
  rw [present_iff_of_lookup hend hdot hdots hlook]
  simp only [find_dot_iff]
  constructor
  · rintro ⟨-, -, hsearch, hsome, hshort⟩
    obtain ⟨here, hget, hdir, hmode⟩ := id hsearch
    cases here with
    | directory mode => exact ⟨d.base, mode, ⟨rfl, hget, hmode⟩, hsome, hmode, hshort⟩
    | file | link | device => cases hdir
  · rintro ⟨_, mode, ⟨rfl, hget, hsearch⟩, hsome, -, hshort⟩
    have hentry := hsound.isEntryName hsome
    have hnull : name.contains '\x00' = false := by simpa [String.contains_char_eq] using hentry.null
    exact ⟨hnull, hentry.toIsName, (searchable_iff hget).mpr hsearch, hsome, hshort⟩

end Disk

end Rehearsal.Files
