import Rehearsal.Proofs.Files.Laying
import Rehearsal.Proofs.Files.Resolution

/-!
# Directories under their own names

The names of a directory lead to it straight if each of them is the name of a directory in the one before: no link is on the
way. What a path comes to that has one more name behind those is what the tree holds there, if that is no link and the system
lets the path be followed (`Disk.find_straight_iff`).

A disk that has grown may hold more under such a path. It holds the same if nothing was put there and no link at its end led
nowhere before (`Disk.Grows.find?_straight`): a link to nothing leads to something as soon as that is made.
-/

namespace Rehearsal

/-! ## Paths of names -/

/-- A name that an entry of a directory can have. -/
structure Files.IsEntryName (name : String) : Prop extends Files.IsName name where
  nonempty : name ≠ ""
  slash : '/' ∉ name.toList
  null : '\x00' ∉ name.toList

namespace Path

open Files

variable {ns place : List String} {name : String}

theorem pieces_ofNames (h : ∀ n ∈ ns, n ≠ "" ∧ '/' ∉ n.toList) : pieces (ofNames ns) = ns := by
  rw [ofNames, root, pieces_slash_append, pieces_intercalate h]

theorem isAbsolute_ofNames (ns : List String) : isAbsolute (ofNames ns) = true := by
  rw [ofNames, isAbsolute_append (by decide)]
  decide +kernel

theorem ofNames_ne_empty (ns : List String) : ofNames ns ≠ "" := by
  intro h
  have habsolute := isAbsolute_ofNames ns
  rw [h] at habsolute
  exact absurd habsolute (by decide +kernel)

theorem null_not_mem_ofNames (h : ∀ n ∈ ns, '\x00' ∉ n.toList) : (ofNames ns).contains '\x00' = false := by
  rw [String.contains_char_eq, decide_eq_false_iff_not, ofNames, String.toList_append, List.mem_append,
    String.toList_intercalate, mem_intercalate_iff (by decide)]
  rintro (hroot | ⟨cs, hcs, hnull⟩)
  · exact absurd hroot (by decide)
  · obtain ⟨n, hn, rfl⟩ := List.mem_map.mp hcs
    exact h n hn hnull

theorem endsInSlash_ofNames (hne : name ≠ "") (hslash : '/' ∉ name.toList) :
    endsInSlash (ofNames (place ++ [name])) = false := by
  obtain ⟨front, hfront⟩ : ∃ front, ofNames (place ++ [name]) = front ++ name := by
    rw [ofNames]
    by_cases hplace : place = []
    · exact ⟨root, by rw [hplace, List.nil_append, String.intercalate_singleton]⟩
    · refine ⟨root ++ ("/".intercalate place ++ "/"), ?_⟩
      rw [String.intercalate_append_of_ne_nil hplace (by simp), String.intercalate_singleton]
      simp only [String.append_assoc]
  rw [hfront]
  exact endsInSlash_append hne hslash

end Path

namespace Files

/-! ## Names that lead straight to a directory -/

/-- The names of a directory, each of them that of a directory in the one before. -/
structure Tree.Straight (t : Tree) (place : List String) : Prop where
  names : ∀ name ∈ place, IsEntryName name
  directories : ∀ front, front <+: place → ∃ mode, t.get? front = some (.directory mode)

/-- Whether everything in a tree stands in a directory. -/
def Tree.Whole (t : Tree) : Prop :=
  ∀ place name e, t.get? (place ++ [name]) = some e → ∃ mode, t.get? place = some (.directory mode)

/-- What stands under names is one of the entries. -/
theorem Tree.mem_entries_of_get? {t : Tree} {path : List String} {e : Entry} (hne : path ≠ []) (h : t.get? path = some e) :
    (path, e) ∈ t.entries := by
  rw [get?, if_neg (by simpa using hne)] at h
  obtain ⟨front, rest, hentries, -⟩ := List.lookup_eq_some_iff.mp h
  rw [hentries]
  exact List.mem_append_right _ List.mem_cons_self

theorem Tree.whole_of_entries {t : Tree}
    (h : ∀ pair ∈ t.entries, (t.get? pair.1.dropLast).any Entry.isDirectory = true) : t.Whole := by
  intro place name e hget
  have hplace := h _ (mem_entries_of_get? (by simp) hget)
  rw [List.dropLast_concat, Option.any_eq_true] at hplace
  obtain ⟨here, hhere, hdir⟩ := hplace
  cases here with
  | directory mode => exact ⟨mode, hhere⟩
  | file | link | device => cases hdir

theorem Tree.get?_ne_link_of_entries {t : Tree} (h : ∀ pair ∈ t.entries, pair.2.isLink = false) (path : List String)
    (target : String) : t.get? path ≠ some (.link target) := by
  intro hget
  by_cases hne : path = []
  · rw [hne] at hget
    cases hget
  · cases h _ (mem_entries_of_get? hne hget)

section Walks

variable {t : Tree} {follow : Bool} {links : Nat} {front names rest : List String} {name : String}

theorem Tree.Straight.of_isPrefix {place : List String} (h : t.Straight place) (hfront : front <+: place) :
    t.Straight front :=
  ⟨fun name hname => h.names name (hfront.subset hname), fun ns hns => h.directories ns (hns.trans hfront)⟩

/-- Nothing stands in what is not there. -/
theorem Tree.Whole.free {place : List String} (h : t.Whole) (hplace : t.get? place = none) (name : String) :
    t.get? (place ++ [name]) = none := by
  rw [Option.eq_none_iff_forall_ne_some]
  intro e hget
  obtain ⟨mode, hdir⟩ := h place name e hget
  cases hplace.symm.trans hdir

/-- A name with more behind it that is the name of a directory leads into that. -/
theorem walk_into (h : t.Searchable front) (hname : IsName name) (hrest : rest ≠ []) {e : Entry}
    (hget : t.get? (front ++ [name]) = some e) (hdir : e.isDirectory = true) :
    walk t follow links front (name :: rest) = walk t follow links (front ++ [name]) rest := by
  obtain ⟨here, hhere, hheredir, hsearch⟩ := h
  have hdot : (name == ".") = false := beq_eq_false_iff_ne.mpr hname.dot
  have hdots : (name == "..") = false := beq_eq_false_iff_ne.mpr hname.dots
  have hshort : ¬maxName < name.utf8ByteSize := Nat.not_lt.mpr hname.short
  rw [walk, hhere]
  simp only [hheredir, hsearch, hdot, hdots, hshort, Bool.not_true, Bool.false_eq_true, if_false, hget]
  cases e with
  | directory mode => simp [hrest, Entry.isDirectory]
  | file | link | device => cases hdir

/-- Names of directories that may be searched are passed. -/
theorem walk_append_of_searchable (hrest : rest ≠ []) (hnames : ∀ n ∈ names, IsName n)
    (hopen : ∀ ns, ns <+: names → t.Searchable (front ++ ns)) :
    walk t follow links front (names ++ rest) = walk t follow links (front ++ names) rest := by
  induction names generalizing front with
  | nil => rw [List.nil_append, List.append_nil]
  | cons name names ih =>
    have hhere : t.Searchable front := by simpa using hopen [] List.nil_prefix
    obtain ⟨e, hget, hdir, -⟩ := hopen [name] (by simp)
    have hmore : names ++ rest ≠ [] := by simp [hrest]
    rw [List.cons_append, walk_into hhere (hnames name List.mem_cons_self) hmore hget hdir]
    rw [ih (fun n hn => hnames n (List.mem_cons_of_mem _ hn)), List.append_assoc, List.singleton_append]
    intro ns hns
    rw [List.append_assoc, List.singleton_append]
    exact hopen (name :: ns) (List.cons_prefix_cons.mpr ⟨rfl, hns⟩)

/-- A directory that may not be searched is not passed. -/
theorem walk_append_of_not_searchable (hrest : rest ≠ []) (hnames : ∀ n ∈ names, IsName n)
    (hdirs : ∀ ns, ns <+: names → ∃ mode, t.get? (front ++ ns) = some (.directory mode))
    (hclosed : ∃ ns, ns <+: names ∧ ¬t.Searchable (front ++ ns)) :
    walk t follow links front (names ++ rest) = .error .noAccess := by
  induction names generalizing front with
  | nil =>
    obtain ⟨ns, hns, hclosed⟩ := hclosed
    obtain rfl := List.prefix_nil.mp hns
    obtain ⟨mode, hget⟩ := hdirs [] hns
    rw [List.append_nil] at hclosed hget
    obtain ⟨name, more, rfl⟩ := List.exists_cons_of_ne_nil hrest
    have hsearch : (Entry.directory mode).allows searchBit = false := by
      rw [Bool.eq_false_iff]
      exact fun hsearch => hclosed ⟨_, hget, rfl, hsearch⟩
    rw [List.nil_append, walk, hget]
    simp [hsearch, Entry.isDirectory]
  | cons name names ih =>
    obtain ⟨mode, hget⟩ := hdirs [] List.nil_prefix
    rw [List.append_nil] at hget
    by_cases hhere : t.Searchable front
    · obtain ⟨mode', hnext⟩ := hdirs [name] (by simp)
      have hmore : names ++ rest ≠ [] := by simp [hrest]
      rw [List.cons_append, walk_into hhere (hnames name List.mem_cons_self) hmore hnext rfl]
      refine ih (fun n hn => hnames n (List.mem_cons_of_mem _ hn)) (fun ns hns => ?_) ?_
      · rw [List.append_assoc, List.singleton_append]
        exact hdirs (name :: ns) (List.cons_prefix_cons.mpr ⟨rfl, hns⟩)
      · obtain ⟨ns, hns, hclosed⟩ := hclosed
        cases ns with
        | nil => exact absurd hhere (by simpa using hclosed)
        | cons n ns =>
          obtain ⟨rfl, hmore⟩ := List.cons_prefix_cons.mp hns
          refine ⟨ns, hmore, ?_⟩
          rwa [List.append_assoc, List.singleton_append]
    · have hsearch : (Entry.directory mode).allows searchBit = false := by
        rw [Bool.eq_false_iff]
        exact fun hsearch => hhere ⟨_, hget, rfl, hsearch⟩
      rw [List.cons_append, walk, hget]
      simp [hsearch, Entry.isDirectory]

/-- The last name of a path is looked up in the directory. -/
theorem walk_last (h : t.Searchable front) (hname : IsName name)
    (hlink : follow = true → ∀ target, t.get? (front ++ [name]) ≠ some (.link target)) :
    walk t follow links front [name] =
      match t.get? (front ++ [name]) with
      | none => .ok (.free front name)
      | some e => .ok (.entry (front ++ [name]) e) := by
  obtain ⟨here, hhere, hheredir, hsearch⟩ := h
  have hdot : (name == ".") = false := beq_eq_false_iff_ne.mpr hname.dot
  have hdots : (name == "..") = false := beq_eq_false_iff_ne.mpr hname.dots
  have hshort : ¬maxName < name.utf8ByteSize := Nat.not_lt.mpr hname.short
  rw [walk, hhere]
  simp only [hheredir, hsearch, hdot, hdots, hshort, Bool.not_true, Bool.false_eq_true, if_false]
  cases hget : t.get? (front ++ [name]) with
  | none => rfl
  | some e =>
    cases e with
    | link target =>
      cases follow with
      | false => rfl
      | true => exact absurd hget (hlink rfl target)
    | file | directory | device => rfl

/-- Names are looked up in directories that may be searched. -/
theorem searchable_of_walk {spot : Spot} (h : walk t follow links front (name :: rest) = .ok spot) : t.Searchable front := by
  rw [walk] at h
  split at h
  next => cases h
  next here hhere =>
    split at h
    next => cases h
    next hdir =>
      split at h
      next => cases h
      next hsearch => exact searchable_of hhere hdir hsearch

/-- Names that lead past the last of them, links followed, to a name that is free end with that name, or there is a link under
it. -/
theorem eq_of_walk_free {place : List String} {last : String} (hname : IsName name)
    (h : walk t true links front (names ++ [name]) = .ok (.free place last)) :
    last = name ∨ ∃ r target, walk t false links front (names ++ [name]) = .ok (.entry r (.link target)) := by
  obtain ⟨r, e, hfront, hdir⟩ := exists_directory_of_walk h
  obtain ⟨left, happend⟩ := exists_walk_append hfront hdir
  rw [happend true [name] (by simp)] at h
  rw [happend false [name] (by simp)]
  have hsearch := searchable_of_walk h
  have hlast : walk t false left r [name] = _ := walk_last hsearch hname (by simp)
  rw [hlast]
  by_cases hlink : ∃ target, t.get? (r ++ [name]) = some (.link target)
  · obtain ⟨target, hlink⟩ := hlink
    exact .inr ⟨r ++ [name], target, by rw [hlink]⟩
  · push Not at hlink
    rw [walk_last hsearch hname fun _ => hlink] at h
    split at h
    next =>
      cases h
      exact .inl rfl
    next => cases h

end Walks

/-! ## Disks -/

open Step (eval)

namespace Disk

/-- Whether the system follows the path of a name in a directory: what is on the way may be searched, and the path is not too
long. -/
structure Reaches (d : Disk) (place : List String) (name : String) : Prop where
  searchable : ∀ front, front <+: place → d.tree.Searchable front
  short : (Path.ofNames (place ++ [name])).utf8ByteSize ≤ maxPath

/-- Whether the system lets an entry be made under a name in a directory. -/
structure Admits (d : Disk) (place : List String) (name : String) : Prop extends d.Reaches place name where
  changeable : d.changeable place = true
  free : d.tree.get? (place ++ [name]) = none

section Straight

variable {d d' : Disk} {follow : Bool} {place r : List String} {name : String} {e : Entry}

theorem pieces_of_straight (h : d.tree.Straight place) (hname : IsEntryName name) :
    Path.pieces (Path.ofNames (place ++ [name])) = place ++ [name] := by
  refine Path.pieces_ofNames fun n hn => ?_
  rcases List.mem_append.mp hn with hplace | hlast
  · exact ⟨(h.names n hplace).nonempty, (h.names n hplace).slash⟩
  · rw [List.mem_singleton.mp hlast]
    exact ⟨hname.nonempty, hname.slash⟩

theorem null_of_straight (h : d.tree.Straight place) (hname : IsEntryName name) :
    (Path.ofNames (place ++ [name])).contains '\x00' = false := by
  refine Path.null_not_mem_ofNames fun n hn => ?_
  rcases List.mem_append.mp hn with hplace | hlast
  · exact (h.names n hplace).null
  · rw [List.mem_singleton.mp hlast]
    exact hname.null

/-- The path of a name in a directory is walked by its names. -/
theorem locate_of_short (h : d.tree.Straight place) (hname : IsEntryName name)
    (hshort : (Path.ofNames (place ++ [name])).utf8ByteSize ≤ maxPath) :
    locate d.tree d.base follow (Path.ofNames (place ++ [name])) =
      walk d.tree follow maxLinks [] (place ++ [name]) := by
  have hpieces := pieces_of_straight h hname
  rw [Path.pieces] at hpieces
  rw [locate, if_neg (mt String.isEmpty_iff.mp (Path.ofNames_ne_empty _)), if_neg (Nat.not_lt.mpr hshort),
    Path.isAbsolute_ofNames, if_pos rfl, hpieces]

/-- A path that the system follows ends with the last name of it. -/
theorem locate_of_reaches (h : d.tree.Straight place) (hname : IsEntryName name) (hreach : d.Reaches place name) :
    locate d.tree d.base follow (Path.ofNames (place ++ [name])) = walk d.tree follow maxLinks place [name] := by
  rw [locate_of_short h hname hreach.short,
    walk_append_of_searchable (by simp) (fun n hn => (h.names n hn).toIsName) (by simpa using hreach.searchable),
    List.nil_append]

theorem locate_of_not_reaches (follow : Bool) (h : d.tree.Straight place) (hname : IsEntryName name) (hreach : ¬d.Reaches place name) :
    ∃ why, why ≠ .notFound ∧ locate d.tree d.base follow (Path.ofNames (place ++ [name])) = .error why := by
  by_cases hshort : (Path.ofNames (place ++ [name])).utf8ByteSize ≤ maxPath
  · have hclosed : ∃ front, front <+: place ∧ ¬d.tree.Searchable front := by
      by_contra hopen
      push Not at hopen
      exact hreach ⟨hopen, hshort⟩
    refine ⟨.noAccess, by decide, ?_⟩
    rw [locate_of_short h hname hshort]
    exact walk_append_of_not_searchable (by simp) (fun n hn => (h.names n hn).toIsName) (by simpa using h.directories)
      (by simpa using hclosed)
  · refine ⟨.nameTooLong, by decide, ?_⟩
    rw [locate, if_neg (mt String.isEmpty_iff.mp (Path.ofNames_ne_empty _)), if_pos (Nat.not_le.mp hshort)]

/-- **What is found under a name in a directory is what the tree holds there**, if that is no link and the system follows the
path. -/
theorem find_straight_iff (h : d.tree.Straight place) (hname : IsEntryName name)
    (hlink : ∀ target, d.tree.get? (place ++ [name]) ≠ some (.link target)) :
    d.find follow (Path.ofNames (place ++ [name])) = .ok (r, e) ↔
      d.Reaches place name ∧ r = place ++ [name] ∧ d.tree.get? (place ++ [name]) = some e := by
  have hslash : endsInSlash (Path.ofNames (place ++ [name])) = false :=
    Path.endsInSlash_ofNames hname.nonempty hname.slash
  rw [find, null_of_straight h hname, if_neg Bool.false_ne_true, Files.find, hslash, Bool.or_false]
  by_cases hreach : d.Reaches place name
  · rw [locate_of_reaches h hname hreach, walk_last (hreach.searchable place List.prefix_rfl) hname.toIsName fun _ => hlink]
    cases d.tree.get? (place ++ [name]) with
    | none => simp
    | some e' => simp [hreach, eq_comm]
  · obtain ⟨why, -, hlocate⟩ := locate_of_not_reaches follow h hname hreach
    rw [hlocate]
    simp [hreach]

/-- A disk that has grown lets the same paths be followed. -/
theorem Grows.reaches_iff (hgrows : d.Grows d') (h : d.tree.Straight place) : d'.Reaches place name ↔ d.Reaches place name := by
  have hsame : ∀ front, front <+: place → (d'.tree.Searchable front ↔ d.tree.Searchable front) := fun front hfront => by
    obtain ⟨mode, hget⟩ := h.directories front hfront
    have hget' := hgrows.tree.get?_directory hget (by simp [Entry.isDirectory])
    rw [Tree.Searchable, Tree.Searchable, hget, hget']
  constructor
  · exact fun hreach => ⟨fun front hfront => (hsame front hfront).mp (hreach.searchable front hfront), hreach.short⟩
  · exact fun hreach => ⟨fun front hfront => (hsame front hfront).mpr (hreach.searchable front hfront), hreach.short⟩

theorem Grows.straight (hgrows : d.Grows d') (h : d.tree.Straight place) : d'.tree.Straight place := by
  refine ⟨h.names, fun front hfront => ?_⟩
  obtain ⟨mode, hget⟩ := h.directories front hfront
  exact ⟨mode, hgrows.tree.get?_directory hget (by simp [Entry.isDirectory])⟩

theorem find?_eq_some_iff {p : String} : d.find? follow p = some e ↔ ∃ r, d.find follow p = .ok (r, e) := by
  rw [find?]
  rcases d.find follow p with why | ⟨r, e'⟩ <;> simp

/-- What was found is found on a disk that has grown. -/
theorem Grows.exists?_mono (hgrows : d.Grows d') {p : String} (h : d.exists? p = true) : d'.exists? p = true := by
  obtain ⟨e, hfind⟩ := Option.isSome_iff_exists.mp h
  obtain ⟨r, hfind⟩ := find?_eq_some_iff.mp hfind
  obtain ⟨e', hfind', -⟩ := hgrows.find hfind
  exact Option.isSome_iff_exists.mpr ⟨e', find?_eq_some_iff.mpr ⟨r, hfind'⟩⟩

/-- A path that leads to a free name leads to the last name of it, if there is not even a link. -/
theorem eq_of_locate_free {p last : String} (hpieces : Path.pieces p = place ++ [name]) (hname : IsName name)
    (hnull : p.contains '\x00' = false) (hslash : endsInSlash p = false) (hpresent : d.present p = false)
    (h : locate d.tree d.base true p = .ok (.free r last)) : last = name := by
  obtain ⟨hne, hshort, hwalk⟩ := locate_eq_ok_iff.mp h
  rw [Path.pieces] at hpieces
  rw [hpieces] at hwalk
  rcases eq_of_walk_free hname hwalk with hlast | ⟨place', target, hlink⟩
  · exact hlast
  · have hlocate : locate d.tree d.base false p = .ok (.entry place' (.link target)) :=
      locate_eq_ok_iff.mpr ⟨hne, hshort, by rwa [hpieces]⟩
    rw [present, find?, find, hnull, if_neg Bool.false_ne_true, Files.find, hslash, Bool.or_false, hlocate] at hpresent
    cases hpresent

/-- **Under a name in a directory there is what was there**, on a disk that has grown, if nothing was put there and no link
that stands there led nowhere. -/
theorem Grows.find?_straight (hgrows : d.Grows d') (h : d.tree.Straight place) (hname : IsEntryName name)
    (hlink : ∀ target, d.tree.get? (place ++ [name]) = some (.link target) →
      d.exists? (Path.ofNames (place ++ [name])) = true)
    (hfree : d.tree.get? (place ++ [name]) = none → d'.tree.get? (place ++ [name]) = none) :
    Option.Rel Entry.Same (d.find? true (Path.ofNames (place ++ [name])))
      (d'.find? true (Path.ofNames (place ++ [name]))) := by
  cases hfind : d.find? true (Path.ofNames (place ++ [name])) with
  | some e =>
    obtain ⟨r, hfind⟩ := find?_eq_some_iff.mp hfind
    obtain ⟨e', hfind', hsame⟩ := hgrows.find hfind
    rw [find?_eq_some_iff.mpr ⟨r, hfind'⟩]
    exact .some hsame
  | none =>
    have hplain : ∀ target, d.tree.get? (place ++ [name]) ≠ some (.link target) := fun target hget => by
      have hexists := hlink target hget
      rw [exists?, hfind] at hexists
      cases hexists
    -- What the tree holds there now cannot be reached, because what it held could not.
    have hnone : d'.find? true (Path.ofNames (place ++ [name])) = none := by
      rw [Option.eq_none_iff_forall_ne_some]
      intro e' hfind'
      obtain ⟨r, hfind'⟩ := find?_eq_some_iff.mp hfind'
      cases hget : d.tree.get? (place ++ [name]) with
      | none =>
        have hget' := hfree hget
        have hplain' : ∀ target, d'.tree.get? (place ++ [name]) ≠ some (.link target) := by simp [hget']
        have hthere := ((find_straight_iff (hgrows.straight h) hname hplain').mp hfind').2.2
        rw [hget'] at hthere
        cases hthere
      | some e =>
        obtain ⟨e'', hget'', hsame⟩ := hgrows.tree _ _ hget
        have hplain' : ∀ target, d'.tree.get? (place ++ [name]) ≠ some (.link target) := by
          rintro target hlinked
          rw [hget''] at hlinked
          cases hlinked
          cases hsame
          exact hplain target hget
        have hreach := (hgrows.reaches_iff h).mp ((find_straight_iff (hgrows.straight h) hname hplain').mp hfind').1
        have hthere : d.find? true (Path.ofNames (place ++ [name])) = some e :=
          find?_eq_some_iff.mpr ⟨_, (find_straight_iff h hname hplain).mpr ⟨hreach, rfl, hget⟩⟩
        rw [hfind] at hthere
        cases hthere
    rw [hnone]
    exact .none

section Kept

/-- A question that the contents of a file do not bear on has the same answer. -/
theorem any_of_rel {q : Entry → Bool} (hq : ∀ e e' : Entry, e.Same e' → q e' = q e) {before after : Option Entry}
    (h : Option.Rel Entry.Same before after) : after.any q = before.any q := by
  cases h with
  | none => rfl
  | some hsame => exact hq _ _ hsame

variable (hgrows : d.Grows d') (h : d.tree.Straight place) (hname : IsEntryName name)
  (hlink : ∀ target, d.tree.get? (place ++ [name]) = some (.link target) →
    d.exists? (Path.ofNames (place ++ [name])) = true)
  (hfree : d.tree.get? (place ++ [name]) = none → d'.tree.get? (place ++ [name]) = none)
include hgrows h hname hlink hfree

theorem Grows.exists?_straight :
    d'.exists? (Path.ofNames (place ++ [name])) = d.exists? (Path.ofNames (place ++ [name])) := by
  have hany := any_of_rel (q := fun _ => true) (fun _ _ _ => rfl) (hgrows.find?_straight h hname hlink hfree)
  simpa [exists?, Option.any_true] using hany

theorem Grows.isDirectory_straight :
    d'.isDirectory (Path.ofNames (place ++ [name])) = d.isDirectory (Path.ofNames (place ++ [name])) :=
  any_of_rel (fun _ _ hsame => hsame.isDirectory_eq) (hgrows.find?_straight h hname hlink hfree)

end Kept

/-! ## Making a directory -/

/-- Where something is made under a name in a directory. -/
theorem spot_of_reaches (h : d.tree.Straight place) (hname : IsEntryName name) (hreach : d.Reaches place name) :
    d.spot (Path.ofNames (place ++ [name])) none =
      match d.tree.get? (place ++ [name]) with
      | none => .ok (.free place name)
      | some e => .ok (.entry (place ++ [name]) e) := by
  have hfollow : ∀ target, false = true → d.tree.get? (place ++ [name]) ≠ some (.link target) := fun _ h => nomatch h
  rw [spot, Option.any_none, Bool.or_false, null_of_straight h hname, if_neg Bool.false_ne_true,
    locate_of_reaches h hname hreach,
    walk_last (hreach.searchable place List.prefix_rfl) hname.toIsName fun h target => hfollow target h]
  cases d.tree.get? (place ++ [name]) <;> rfl

theorem spot_of_not_reaches (h : d.tree.Straight place) (hname : IsEntryName name) (hreach : ¬d.Reaches place name) :
    ∃ why, why ≠ .notFound ∧ d.spot (Path.ofNames (place ++ [name])) none =
      .error (.refused why (Path.ofNames (place ++ [name])) none) := by
  obtain ⟨why, hwhy, hlocate⟩ := locate_of_not_reaches false h hname hreach
  refine ⟨why, hwhy, ?_⟩
  rw [spot, Option.any_none, Bool.or_false, null_of_straight h hname, if_neg Bool.false_ne_true, hlocate]

theorem eval_makeDirectory_of_entry {p : String} (hspot : d.spot p none = .ok (.entry r e)) :
    eval (Access.makeDirectory p) d = (.error (.refused .exists p none), d) := by
  rw [Access.makeDirectory, Access.look, Step.eval_bind, Step.eval_get_bind, hspot]
  rfl

theorem eval_makeDirectory_of_free {p : String} (hspot : d.spot p none = .ok (.free place name)) :
    eval (Access.makeDirectory p) d =
      if d.changeable place then (.ok (), d.putEntry (place ++ [name]) (.directory newDirectoryMode))
      else (.error (.refused .noAccess p none), d) := by
  rw [Access.makeDirectory, Access.look, Step.eval_bind, Step.eval_get_bind, hspot]
  simp only [Step.eval_pure, Step.eval_get_bind]
  cases d.changeable place <;> rfl

theorem eval_makeDirectory_of_admits (h : d.tree.Straight place) (hname : IsEntryName name) (hadmits : d.Admits place name) :
    eval (Access.makeDirectory (Path.ofNames (place ++ [name]))) d =
      (.ok (), d.putEntry (place ++ [name]) (.directory newDirectoryMode)) := by
  have hspot := spot_of_reaches h hname hadmits.toReaches
  rw [hadmits.free] at hspot
  rw [eval_makeDirectory_of_free hspot, if_pos hadmits.changeable]

/-- A directory that is not made is refused for another reason than that the one it would be in is missing. -/
theorem makeDirectory_of_not_admits (h : d.tree.Straight place) (hname : IsEntryName name)
    (hadmits : ¬d.Admits place name) :
    ∃ why, why ≠ .notFound ∧ eval (Access.makeDirectory (Path.ofNames (place ++ [name]))) d =
      (.error (.refused why (Path.ofNames (place ++ [name])) none), d) := by
  by_cases hreach : d.Reaches place name
  · have hspot := spot_of_reaches h hname hreach
    cases hget : d.tree.get? (place ++ [name]) with
    | some e =>
      rw [hget] at hspot
      exact ⟨.exists, by decide, eval_makeDirectory_of_entry hspot⟩
    | none =>
      rw [hget] at hspot
      have hchange : ¬d.changeable place = true := fun hchange => hadmits ⟨hreach, hchange, hget⟩
      refine ⟨.noAccess, by decide, ?_⟩
      rw [eval_makeDirectory_of_free hspot, if_neg hchange]
  · obtain ⟨why, hwhy, hspot⟩ := spot_of_not_reaches h hname hreach
    refine ⟨why, hwhy, ?_⟩
    rw [Access.makeDirectory, Access.look, Step.eval_bind, Step.eval_get_bind, hspot]
    rfl

/-- A directory is made with those above it, which are there. -/
theorem eval_makePath_of_admits (h : d.tree.Straight place) (hname : IsEntryName name) (hadmits : d.Admits place name) :
    eval (Access.makePath (place ++ [name]).reverse) d =
      (.ok (), d.putEntry (place ++ [name]) (.directory newDirectoryMode)) := by
  have hmake := eval_makeDirectory_of_admits h hname hadmits
  have hback : (name :: place.reverse).reverse = place ++ [name] := by simp
  rw [List.reverse_append, List.reverse_singleton, List.singleton_append, Access.makePath, hback, Step.eval_tryCatch, hmake]

/-- A directory that is refused, and not for want of the one above it, is refused with those above it. -/
theorem eval_makePath_of_refused {why : Refusal} (hwhy : why ≠ .notFound)
    (hmake : eval (Access.makeDirectory (Path.ofNames (place ++ [name]))) d =
      (.error (.refused why (Path.ofNames (place ++ [name])) none), d))
    (hdir : d.isDirectory (Path.ofNames (place ++ [name])) = false) :
    eval (Access.makePath (place ++ [name]).reverse) d =
      (.error (.refused why (Path.ofNames (place ++ [name])) none), d) := by
  have hback : (name :: place.reverse).reverse = place ++ [name] := by simp
  rw [List.reverse_append, List.reverse_singleton, List.singleton_append, Access.makePath, hback, Step.eval_tryCatch, hmake]
  dsimp only
  split
  next heq => exact absurd (Error.refused.inj heq).1 hwhy
  next =>
    rw [Step.eval_get_bind, hdir]
    rfl

/-- A directory that is neither there nor made leaves the disk as it was. -/
theorem makePath_of_not_admits (h : d.tree.Straight place) (hname : IsEntryName name) (hadmits : ¬d.Admits place name)
    (hdir : d.isDirectory (Path.ofNames (place ++ [name])) = false) :
    ∃ why, eval (Access.makePath (place ++ [name]).reverse) d =
      (.error (.refused why (Path.ofNames (place ++ [name])) none), d) := by
  obtain ⟨why, hwhy, hmake⟩ := makeDirectory_of_not_admits h hname hadmits
  exact ⟨why, eval_makePath_of_refused hwhy hmake hdir⟩

end Straight

end Disk

end Files

end Rehearsal
