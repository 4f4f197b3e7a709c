import Rehearsal.Proofs.Files.Laying

/-!
# Where a cleaned path leads

A path is cleaned by taking repeated slashes, single dots and slashes at its end out of it. What it leads to, it leads to
afterwards (`Disk.find_clean`): a single dot on the way is a step that stays where it is.

What this does not decide: where the path of a directory leads. A path that is nothing but dots is cleaned to one of them.
-/

namespace Rehearsal

namespace Path

/-- The names between the slashes of a path, dots among them. -/
def pieces (p : String) : List String := (p.splitOn "/").filter fun n => !n.isEmpty

theorem names_eq (p : String) : names p = (pieces p).filter (· != ".") := by
  rw [names, pieces, List.filter_filter]
  simp only [Bool.and_comm]

theorem mem_pieces {p name : String} (h : name ∈ pieces p) : name ≠ "" ∧ '/' ∉ name.toList := by
  rw [pieces, filter_splitOn] at h
  obtain ⟨piece, hpiece, rfl⟩ := List.mem_map.mp h
  obtain ⟨hcut, hne⟩ := List.mem_filter.mp hpiece
  exact ⟨by simpa using hne, by simpa using Line.not_mem_of_mem_splitOn hcut⟩

theorem mem_names {p name : String} (h : name ∈ names p) : name ≠ "" ∧ '/' ∉ name.toList := by
  rw [names_eq] at h
  exact mem_pieces (List.mem_filter.mp h).1

/-- A path without names is made of slashes. -/
theorem isAbsolute_of_pieces_eq_nil {p : String} (hne : p ≠ "") (h : pieces p = []) : isAbsolute p = true := by
  obtain ⟨c, rest, hp⟩ := List.exists_cons_of_ne_nil (mt String.toList_eq_nil_iff.mp hne)
  by_cases hc : c = '/'
  · rw [isAbsolute, String.startsWith_string_iff, hp, hc]
    exact ⟨rest, rfl⟩
  · obtain ⟨first, more, hrest⟩ := List.exists_cons_of_ne_nil (List.splitOn_ne_nil '/' rest)
    rw [pieces, filter_splitOn, hp, List.splitOn_cons_eq_if_modifyHead, if_neg (by simpa using hc), hrest] at h
    simp at h

/-- A slash in front adds no name. -/
theorem pieces_slash_append (q : String) : pieces ("/" ++ q) = pieces q := by
  have hcut : ("/" ++ q).toList.splitOn '/' = [] :: q.toList.splitOn '/' := by
    rw [String.toList_append]
    exact List.splitOn_append_cons_self_of_not_mem List.not_mem_nil _
  rw [pieces, pieces, filter_splitOn, filter_splitOn, hcut]
  simp

/-- Names that are put together are found again. -/
theorem pieces_intercalate {ns : List String} (h : ∀ n ∈ ns, n ≠ "" ∧ '/' ∉ n.toList) :
    pieces ("/".intercalate ns) = ns := by
  rw [pieces, filter_splitOn, String.toList_intercalate]
  cases ns with
  | nil => simp
  | cons n more =>
    have hslash : ∀ l ∈ (n :: more).map String.toList, '/' ∉ l := by
      intro l hl
      obtain ⟨name, hname, rfl⟩ := List.mem_map.mp hl
      exact (h name hname).2
    have hnonempty : ∀ l ∈ (n :: more).map String.toList, (!l.isEmpty) = true := by
      intro l hl
      obtain ⟨name, hname, rfl⟩ := List.mem_map.mp hl
      simpa using (h name hname).1
    rw [show "/".toList = ['/'] from rfl, List.splitOn_intercalate '/' hslash (by simp),
      List.filter_eq_self.mpr hnonempty, List.map_map]
    simp

/-- A name is the one name of itself. -/
theorem pieces_of_name {name : String} (hne : name ≠ "") (hslash : '/' ∉ name.toList) : pieces name = [name] := by
  have hpieces : pieces ("/".intercalate [name]) = [name] := pieces_intercalate (by simpa using ⟨hne, hslash⟩)
  rwa [String.intercalate_singleton] at hpieces

/-- A list with less in it comes to less of a text. -/
theorem intercalate_sublist {α : Type} (sep : List α) {ls ls' : List (List α)} (h : ls.Sublist ls') :
    (sep.intercalate ls).Sublist (sep.intercalate ls') := by
  induction h with
  | slnil => exact List.Sublist.refl _
  | @cons ls ls' l hrest ih =>
    cases ls' with
    | nil =>
      obtain rfl := List.sublist_nil.mp hrest
      simp
    | cons next more =>
      rw [List.intercalate_cons_cons]
      exact ih.trans (List.sublist_append_right _ _)
  | @cons_cons ls ls' l hrest ih =>
    cases ls with
    | nil =>
      cases ls' with
      | nil => exact List.Sublist.refl _
      | cons next more =>
        rw [List.intercalate_cons_cons, List.intercalate_singleton, List.append_assoc]
        exact List.sublist_append_left _ _
    | cons first rest =>
      cases ls' with
      | nil => cases hrest
      | cons next more =>
        rw [List.intercalate_cons_cons, List.intercalate_cons_cons]
        exact (List.Sublist.refl _).append ih

/-- The names of a path put together are no longer than the path. -/
theorem utf8ByteSize_intercalate_names (p : String) : ("/".intercalate (names p)).utf8ByteSize ≤ p.utf8ByteSize := by
  have hcut : p.splitOn "/" = (p.toList.splitOn '/').map String.ofList := by
    rw [← Line.splitOn_eq]
    exact Line.splitOn_singleton '/' p
  have hback : ((p.toList.splitOn '/').map String.ofList).map String.toList = p.toList.splitOn '/' := by simp
  have hsub : ((names p).map String.toList).Sublist (p.toList.splitOn '/') := by
    rw [← hback, ← hcut, names]
    exact List.filter_sublist.map _
  have hless := intercalate_sublist ['/'] hsub
  rw [List.intercalate_splitOn] at hless
  have hsize : ∀ q : String, q.utf8ByteSize = String.utf8Len q.toList := fun q => by
    rw [← String.utf8ByteSize_ofList, String.ofList_toList]
  rw [hsize, hsize, String.toList_intercalate]
  exact String.utf8Len_le_of_sublist hless

theorem names_slash_append (q : String) : names ("/" ++ q) = names q := by
  rw [names_eq, names_eq, pieces_slash_append]

theorem exists_eq_append_of_startsWith {p front : String} (h : p.startsWith front = true) : ∃ rest, p = front ++ rest := by
  obtain ⟨rest, hrest⟩ := String.startsWith_string_iff.mp h
  exact ⟨String.ofList rest, by rw [← String.toList_inj, String.toList_append, String.toList_ofList, hrest]⟩

/-- A path that has names is cleaned to what it begins with at the root, and its names. -/
theorem clean_cases {p : String} (h : names p ≠ []) :
    ∃ root rest, p = root ++ rest ∧ names p = names rest ∧ (root = "" ∧ isAbsolute p = false ∨ root = "/" ∨ root = "//") ∧
      clean p = root ++ "/".intercalate (names p) := by
  have hbody : ("/".intercalate (names p)).isEmpty = false := by
    rw [Bool.eq_false_iff, Ne, String.isEmpty_iff]
    intro hempty
    have hpieces := pieces_intercalate fun _ => mem_names (p := p)
    rw [hempty, pieces, filter_splitOn] at hpieces
    exact h (by simpa using hpieces.symm)
  rw [clean, hbody]
  simp only [Bool.and_false, Bool.false_eq_true, if_false]
  split
  next hdouble =>
    obtain ⟨rest, rfl⟩ := exists_eq_append_of_startsWith (Bool.and_eq_true_iff.mp hdouble).1
    refine ⟨"//", rest, rfl, ?_, .inr (.inr rfl), rfl⟩
    rw [show "//" = "/" ++ "/" from rfl, String.append_assoc, names_slash_append, names_slash_append]
  split
  next habsolute =>
    obtain ⟨rest, rfl⟩ := exists_eq_append_of_startsWith habsolute
    exact ⟨"/", rest, rfl, names_slash_append rest, .inr (.inl rfl), rfl⟩
  next hrelative => exact ⟨"", p, by simp, rfl, .inl ⟨rfl, by simpa using hrelative⟩, by simp⟩

/-- A name in the directory that paths are relative to is cleaned to itself. -/
theorem clean_join_dot {name : String} (hne : name ≠ "") (hslash : '/' ∉ name.toList) (hdot : name ≠ ".") :
    clean (join "." name) = name := by
  have hnames : names (join "." name) = [name] := by
    have hpieces := pieces_join (p := ".") (by decide) hne hslash
    have hdots : pieces "." = ["."] := pieces_of_name (by decide) (by decide)
    rw [pieces] at hdots
    rw [names_eq, pieces, hpieces, hdots]
    simp [hdot]
  have hjoin : join "." name = "./" ++ name := by
    rw [join_eq_append (isAbsolute_eq_false hslash), show frontOf "." = "./" by decide +kernel]
  have hrelative : isAbsolute ("./" ++ name) = false := by
    rw [isAbsolute_append (by decide)]
    decide +kernel
  have hdouble : ("./" ++ name).startsWith "//" = false := by
    rw [String.startsWith_string_eq_false_iff, String.toList_append]
    rintro ⟨more, hmore⟩
    cases hmore
  rw [clean, hnames, hjoin, hrelative, hdouble, String.intercalate_singleton]
  simp [hne]

/-- Names that are put together end in the last of them. -/
theorem exists_intercalate_eq_append {ns : List String} (hne : ns ≠ []) :
    ∃ front, ∃ last ∈ ns, "/".intercalate ns = front ++ last := by
  obtain ⟨front, last, rfl⟩ := (List.eq_nil_or_concat ns).resolve_left hne
  rw [List.concat_eq_append]
  by_cases hfront : front = []
  · exact ⟨"", last, by simp, by simp [hfront]⟩
  · refine ⟨"/".intercalate front ++ "/", last, by simp, ?_⟩
    rw [String.intercalate_append_of_ne_nil hfront (by simp), String.intercalate_singleton]

/-- Names that are put together do not begin at the root. -/
theorem isAbsolute_intercalate {ns : List String} (h : ∀ n ∈ ns, n ≠ "" ∧ '/' ∉ n.toList) :
    isAbsolute ("/".intercalate ns) = false := by
  cases ns with
  | nil => exact isAbsolute_eq_false (by simp)
  | cons n more =>
    obtain ⟨hne, hslash⟩ := h n List.mem_cons_self
    obtain ⟨rest, hrest⟩ : ∃ rest, "/".intercalate (n :: more) = n ++ rest := by
      cases more with
      | nil => exact ⟨"", by simp⟩
      | cons next more =>
        refine ⟨"/" ++ "/".intercalate (next :: more), ?_⟩
        rw [String.intercalate_cons_cons, String.append_assoc]
    rw [hrest, isAbsolute_append hne, isAbsolute_eq_false hslash]

/-- A path that ends in a name does not end in a slash. -/
theorem endsInSlash_append {front name : String} (hne : name ≠ "") (hslash : '/' ∉ name.toList) :
    Files.endsInSlash (front ++ name) = false := by
  rw [Files.endsInSlash, Bool.eq_false_iff]
  intro hend
  rw [endsWith_iff, String.toList_append] at hend
  have hone : "/".toList.length ≤ name.toList.length := by
    have hpos : name.toList.length ≠ 0 := by simpa using hne
    show 1 ≤ _
    omega
  have hsuffix := List.suffix_of_suffix_length_le hend (List.suffix_append _ _) hone
  exact hslash (hsuffix.subset (by decide))

/-- What a cleaned path is: as absolute as the path, no longer, without a slash at its end, and of the same names without
dots. -/
structure Cleans (p q : String) : Prop where
  pieces : pieces q = names p
  absolute : isAbsolute q = isAbsolute p
  size : q.utf8ByteSize ≤ p.utf8ByteSize
  slash : Files.endsInSlash q = false

theorem cleans_clean {p : String} (h : names p ≠ []) : Cleans p (clean p) := by
  obtain ⟨root, rest, hp, hnames, hroot, hclean⟩ := clean_cases h
  obtain ⟨front, last, hlast, hbody⟩ := exists_intercalate_eq_append h
  obtain ⟨hnonempty, hslash⟩ := mem_names hlast
  refine ⟨?_, ?_, ?_, ?_⟩
  · rw [hclean]
    rcases hroot with ⟨rfl, -⟩ | rfl | rfl
    · rw [String.empty_append, pieces_intercalate fun _ => mem_names]
    · rw [pieces_slash_append, pieces_intercalate fun _ => mem_names]
    · rw [show "//" = "/" ++ "/" from rfl, String.append_assoc, pieces_slash_append, pieces_slash_append,
        pieces_intercalate fun _ => mem_names]
  · have happend : root ≠ "" → isAbsolute (clean p) = isAbsolute p := fun hne => by
      rw [hclean, congrArg isAbsolute hp, isAbsolute_append hne, isAbsolute_append hne]
    rcases hroot with ⟨rfl, hrelative⟩ | rfl | rfl
    · rw [hclean, String.empty_append, hrelative]
      exact isAbsolute_intercalate fun _ => mem_names
    · exact happend (by decide)
    · exact happend (by decide)
  · have hless := utf8ByteSize_intercalate_names rest
    rw [hclean, hnames, congrArg String.utf8ByteSize hp, String.utf8ByteSize_append, String.utf8ByteSize_append]
    omega
  · rw [hclean, hbody, ← String.append_assoc]
    exact endsInSlash_append hnonempty hslash

end Path

namespace Files

/-- Steps without some of the single dots among them. -/
inductive DropsDots : List String → List String → Prop
  | nil : DropsDots [] []
  | keep {steps steps' : List String} (name : String) (h : DropsDots steps steps') :
    DropsDots (name :: steps) (name :: steps')
  | drop {steps steps' : List String} (h : DropsDots steps steps') : DropsDots ("." :: steps) steps'

namespace DropsDots

variable {steps steps' : List String}

theorem append_left (front : List String) (h : DropsDots steps steps') : DropsDots (front ++ steps) (front ++ steps') := by
  induction front with
  | nil => exact h
  | cons name front ih => exact .keep name ih

theorem filter (steps : List String) : DropsDots steps (steps.filter (· != ".")) := by
  induction steps with
  | nil => exact .nil
  | cons name steps ih =>
    by_cases hdot : name = "."
    · subst hdot
      rw [List.filter_cons_of_neg (by decide)]
      exact .drop ih
    · rw [List.filter_cons_of_pos (by simpa using hdot)]
      exact .keep name ih

/-- A single dot is a step that stays where it is. -/
theorem walk {t : Tree} {links : Nat} {start r : List String} {e : Entry} (hdrops : DropsDots steps steps')
    (h : walk t true links start steps = .ok (.entry r e)) : Files.walk t true links start steps' = .ok (.entry r e) := by
  fun_induction Files.walk t true links start steps generalizing steps'
  case case1 hhere =>
    cases hdrops
    rw [Files.walk, hhere]
    exact h
  case case6 hhere hdir hmode hname ih =>
    cases hdrops with
    | keep _ hrest =>
      rw [Files.walk]
      simp only [hhere, hdir, hmode, hname, if_true, Bool.false_eq_true, if_false]
      exact ih hrest h
    | drop hrest => exact ih hrest h
  case case7 hhere hdir hmode hdot hdots ih =>
    cases hdrops with
    | keep _ hrest =>
      rw [Files.walk]
      simp only [hhere, hdir, hmode, hdot, hdots, if_true, Bool.false_eq_true, if_false]
      exact ih hrest h
    | drop => exact absurd rfl hdot
  case case13 hhere hdir hmode hdot hdots hlong target hlink hstop links ih =>
    cases hdrops with
    | keep _ hrest =>
      rw [Files.walk]
      simp only [hhere, hdir, hmode, hdot, hdots, hlong, hlink, Bool.not_true, Bool.and_false, Bool.false_eq_true, if_false]
      exact ih (hrest.append_left _) h
    | drop => exact absurd rfl hdot
  case case14 hhere hdir hmode hdot hdots hlong e hnolink hentry hstop =>
    obtain rfl := List.isEmpty_iff.mp hstop
    cases hdrops with
    | keep _ hrest =>
      cases hrest
      rw [Files.walk]
      simp only [hhere, hdir, hmode, hdot, hdots, hlong, hentry, List.isEmpty_nil, Bool.false_eq_true, if_false, if_true]
      cases e with
      | link target => exact absurd rfl (hnolink target)
      | _ => exact h
    | drop => exact absurd rfl hdot
  case case15 hhere hdir hmode hdot hdots hlong e hnolink hentry hstop hnext ih =>
    cases hdrops with
    | @keep _ steps' _ hrest =>
      have hgoes := ih hrest h
      rw [Files.walk]
      simp only [hhere, hdir, hmode, hdot, hdots, hlong, hentry, Bool.false_eq_true, if_false]
      cases e with
      | directory mode =>
        -- The directory may be the last step now.
        cases steps' with
        | nil =>
          rw [Files.walk, hentry] at hgoes
          exact hgoes
        | cons next more => exact hgoes
      | link target => exact absurd rfl (hnolink target)
      | _ => cases hnext
    | drop => exact absurd rfl hdot
  case case11 hhere hdir hmode hdot hdots hlong target hlink hstop =>
    -- A link at the end is followed.
    simp at hstop
  all_goals cases h

end DropsDots

/-- **What a path leads to, it leads to when it is cleaned**, unless that is a directory. -/
theorem Disk.find_clean {d : Disk} {p : String} {r : List String} {e : Entry} (h : d.find true p = .ok (r, e))
    (he : e.isDirectory = false) : d.find true (Path.clean p) = .ok (r, e) := by
  obtain ⟨hnull, -, hlocate⟩ := find_eq_ok_iff.mp h
  obtain ⟨hempty, hlong, hwalk⟩ := locate_eq_ok_iff.mp hlocate
  have hnames : Files.walk d.tree true maxLinks (if Path.isAbsolute p then [] else d.base) (Path.names p) =
      .ok (.entry r e) := by
    rw [Path.names_eq]
    exact (DropsDots.filter _).walk hwalk
  -- Dots alone lead to the directory that they start from, and slashes to the root.
  have hne : Path.names p ≠ [] := by
    intro hnil
    rw [hnil, Files.walk] at hnames
    obtain ⟨here, hhere, hdir⟩ : ∃ here, d.tree.get? (if Path.isAbsolute p then [] else d.base) = some here ∧
        here.isDirectory = true := by
      change Files.walk _ _ _ _ (Path.pieces p) = _ at hwalk
      cases hpieces : Path.pieces p with
      | nil =>
        rw [Path.isAbsolute_of_pieces_eq_nil hempty hpieces]
        exact ⟨_, rfl, rfl⟩
      | cons name rest =>
        rw [hpieces] at hwalk
        exact isDirectory_of_walk hwalk
    rw [hhere] at hnames
    cases hnames
    rw [hdir] at he
    cases he
  obtain ⟨hpieces, habsolute, hsize, hslash⟩ := Path.cleans_clean hne
  have hplain : (Path.clean p).contains '\x00' = false := by
    rw [String.contains_char_eq, decide_eq_false_iff_not] at hnull ⊢
    rwa [Path.mem_clean_iff (by decide) (by decide)]
  refine find_eq_ok_iff.mpr ⟨hplain, fun hend => ?_, locate_eq_ok_iff.mpr ⟨?_, hsize.trans hlong, ?_⟩⟩
  · rw [hslash] at hend
    cases hend
  · intro hnone
    rw [hnone] at hpieces
    exact hne (hpieces.symm.trans (by rw [Path.pieces, Path.filter_splitOn]; simp))
  · rw [habsolute]
    change Files.walk _ _ _ _ (Path.pieces _) = _
    rw [hpieces]
    exact hnames

end Files

end Rehearsal
