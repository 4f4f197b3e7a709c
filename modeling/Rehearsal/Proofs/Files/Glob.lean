import Rehearsal.Files.Glob
import Rehearsal.Proofs.Files.Entries

/-!
# What a pattern of file names selects

A pattern that is a star in front of a text fits the names that end in the text (`fitsName_star_iff`). Where only the last name
of a pattern has marks, the paths that fit it are the names that fit that last name, read from the directory in front
(`paths_eq`).

What a pattern selects in a directory are entries: those that the directory shows and whose names fit (`Selects`). A dot and a
pair of dots lead somewhere too, and are names of no entry (`Picks`).

A name that is read from a directory is one text with it, and the marks in that text are marks of the directory's name too. So
the paths that fit are those of what the name leads to in each of the directories whose paths fit the path in front (`FitsPath`,
`mem_paths_join_iff`), and this is the directory itself where its path has no marks. No path fits twice (`nodup_paths_join`):
directories with marks stand without slashes at their ends, and then the last slash of a path tells the directory from the name.
-/

namespace Rehearsal.Files.Glob

/-! ## Names that fit -/

/-- The marks of a text without any are its characters. -/
theorem marks_of_plain {cs : List Char} (h : ∀ c ∈ cs, c ≠ '*' ∧ c ≠ '?' ∧ c ≠ '[') : marks cs = cs.map .char := by
  induction cs with
  | nil => rw [marks]; rfl
  | cons c rest ih =>
    obtain ⟨hstar, hany, hbracket⟩ := h c List.mem_cons_self
    have hrest := ih fun x hx => h x (List.mem_cons_of_mem _ hx)
    rw [marks, if_neg (by simpa using hstar), if_neg (by simpa using hany), if_neg (by simpa using hbracket), hrest]
    rfl

theorem hasMarks_eq_false_iff {s : String} :
    hasMarks s = false ↔ ∀ c ∈ s.toList, c ≠ '*' ∧ c ≠ '?' ∧ c ≠ '[' := by
  rw [hasMarks, List.any_eq_false]
  simp only [Bool.or_eq_true, beq_iff_eq, not_or, and_assoc]

/-- Characters fit themselves alone. -/
theorem fits_chars_iff {cs name : List Char} : fits (cs.map .char) name = true ↔ name = cs := by
  induction cs generalizing name with
  | nil => cases name <;> simp [fits]
  | cons c rest ih =>
    cases name with
    | nil => simp [fits]
    | cons d more => simp [fits, Mark.fits, ih]

/-- A star fits whatever is in front. -/
theorem fits_star_iff {cs name : List Char} : fits (.star :: cs.map .char) name = true ↔ cs <:+ name := by
  induction name with
  | nil =>
    rw [fits, fits_chars_iff, List.suffix_nil]
    exact eq_comm
  | cons d more ih =>
    rw [fits, Bool.or_eq_true, fits_chars_iff, ih, List.suffix_cons_iff]
    exact or_congr_left eq_comm

/-- A star in front of a text fits the names that end in the text. -/
theorem fitsName_star_iff {text name : String} (h : hasMarks text = false) :
    fitsName ("*" ++ text) name = true ↔ text.toList <:+ name.toList := by
  have hmarks : marks ("*" ++ text).toList = .star :: text.toList.map .char := by
    rw [String.toList_append]
    show marks ('*' :: text.toList) = _
    rw [marks, if_pos (beq_self_eq_true _), marks_of_plain (hasMarks_eq_false_iff.mp h)]
  rw [fitsName, hmarks, fits_star_iff]

/-- A text without marks fits itself alone. -/
theorem fitsName_plain_iff {pattern name : String} (h : hasMarks pattern = false) :
    fitsName pattern name = true ↔ name = pattern := by
  rw [fitsName, marks_of_plain (hasMarks_eq_false_iff.mp h), fits_chars_iff, String.toList_inj]

variable {d : Disk} {folder pattern name p : String} {place : List String}

/-! ## What is selected in a directory -/

/-- The path that a directory is opened by: the one without any names is the directory that paths start from. -/
def opened (folder : String) : String := if folder.isEmpty then "." else folder

/-- Whether a directory shows an entry: to a pattern with marks if it may be listed, to a plain name if it may be searched. -/
def Shows (d : Disk) (folder pattern name : String) : Prop :=
  ∃ place mode, d.find true (opened folder) = .ok (place, .directory mode) ∧ (d.tree.get? (place ++ [name])).isSome = true ∧
    if hasMarks pattern then (Entry.directory mode).allows readBit = true
    else (Entry.directory mode).allows searchBit = true ∧ (Path.join folder name).utf8ByteSize ≤ maxPath

/-- What a pattern without a slash selects in a directory: the entries that are shown whose names fit it, those that begin
with a dot only if it does. -/
structure Selects (d : Disk) (folder pattern name : String) : Prop where
  shown : Shows d folder pattern name
  fits : fitsName pattern name = true
  hidden : isHidden name = true → isHidden pattern = true

/-- A dot or a pair of dots, which leads to a directory and is the name of no entry. -/
def IsDots (name : String) : Prop := name = "." ∨ name = ".."

/-- A name that may stand behind a slash: it is not empty, and has no slash itself. -/
structure IsSingle (name : String) : Prop where
  nonempty : name ≠ ""
  slash : '/' ∉ name.toList

/-- What a pattern without a slash leads to in a directory: the entries that it selects, and dots where the pattern is dots
that lead somewhere. -/
def Picks (d : Disk) (folder pattern name : String) : Prop :=
  Selects d folder pattern name ∨ IsDots pattern ∧ name = pattern ∧ d.present (Path.join folder pattern) = true

/-- The names that are selected in a directory, by a pattern with marks those of directories alone where only these are
asked for. -/
def selected (d : Disk) (onlyDirectories : Bool) (folder pattern : String) : List String :=
  if hasMarks pattern then namesIn d folder pattern onlyDirectories
  else if d.present (Path.join folder pattern) then [pattern] else []

theorem names_eq_ok_iff {ns : List String} :
    d.names p = .ok ns ↔
      ∃ place mode, d.find true p = .ok (place, .directory mode) ∧ (Entry.directory mode).allows readBit = true ∧
        ns = d.tree.children place := by
  rw [Disk.names]
  cases hfind : d.find true p with
  | error why => simp
  | ok found =>
    obtain ⟨place, e⟩ := found
    dsimp only
    constructor
    · intro h
      split at h
      next => cases h
      next hdir =>
        split at h
        next => cases h
        next hread =>
          cases h
          cases e with
          | directory mode => exact ⟨place, mode, rfl, by simpa using hread, rfl⟩
          | file | link | device => simp [Entry.isDirectory] at hdir
    · rintro ⟨place', mode, hfound, hread, rfl⟩
      cases hfound
      rw [hread]
      rfl

theorem mem_namesIn_iff {onlyDirectories : Bool} :
    name ∈ namesIn d folder pattern onlyDirectories ↔
      (∃ place mode, d.find true (opened folder) = .ok (place, .directory mode) ∧
        (Entry.directory mode).allows readBit = true ∧ name ∈ d.tree.children place) ∧
      (onlyDirectories = true → d.isDirectory (Path.join (opened folder) name) = true) ∧
      (isHidden name = true → isHidden pattern = true) ∧ fitsName pattern name = true := by
  rw [namesIn, ← opened]
  cases hnames : d.names (opened folder) with
  | error why =>
    refine iff_of_false List.not_mem_nil fun ⟨⟨place, mode, hfind, hread, _⟩, _⟩ => ?_
    rw [names_eq_ok_iff.mpr ⟨place, mode, hfind, hread, rfl⟩] at hnames
    cases hnames
  | ok ns =>
    obtain ⟨place, mode, hfind, hread, rfl⟩ := names_eq_ok_iff.mp hnames
    have hlisted : name ∈ d.tree.children place ↔ ∃ place mode, d.find true (opened folder) = .ok (place, .directory mode) ∧
        (Entry.directory mode).allows readBit = true ∧ name ∈ d.tree.children place := by
      refine ⟨fun h => ⟨place, mode, hfind, hread, h⟩, fun ⟨place', mode', hfind', _, h⟩ => ?_⟩
      cases hfind.symm.trans hfind'
      exact h
    rw [List.mem_filter, hlisted]
    simp only [Bool.and_eq_true, and_assoc]
    refine and_congr_right fun _ => and_congr ?_ (and_congr_left fun _ => ?_)
    · cases onlyDirectories <;> simp
    · cases isHidden pattern <;> simp

theorem present_opened_iff (hsound : d.tree.Sound) (hname : IsSingle name) (hdots : ¬IsDots name) :
    d.present (Path.join folder name) = true ↔
      ∃ place mode, d.find true (opened folder) = .ok (place, .directory mode) ∧
        (d.tree.get? (place ++ [name])).isSome = true ∧ (Entry.directory mode).allows searchBit = true ∧
        (Path.join folder name).utf8ByteSize ≤ maxPath := by
  rw [IsDots, not_or] at hdots
  by_cases hfolder : folder = ""
  · rw [hfolder, Path.join_empty]
    exact Disk.present_name_iff hsound hname.nonempty hname.slash hdots.1 hdots.2
  · rw [opened, if_neg (by simpa using hfolder)]
    exact Disk.present_join_iff hsound hfolder hname.nonempty hname.slash hdots.1 hdots.2

theorem Selects.isEntryName (h : Selects d folder pattern name) (hsound : d.tree.Sound) : IsEntryName name := by
  obtain ⟨place, mode, -, hentry, -⟩ := h.shown
  exact hsound.isEntryName hentry

theorem selects_iff_of_plain (hsound : d.tree.Sound) (hmarks : hasMarks pattern = false) (hpattern : IsSingle pattern)
    (hdots : ¬IsDots pattern) :
    Selects d folder pattern name ↔ name = pattern ∧ d.present (Path.join folder pattern) = true := by
  rw [present_opened_iff hsound hpattern hdots]
  constructor
  · rintro ⟨⟨place, mode, hfind, hentry, hshown⟩, hfits, -⟩
    obtain rfl := (fitsName_plain_iff hmarks).mp hfits
    rw [hmarks, if_neg Bool.false_ne_true] at hshown
    exact ⟨rfl, place, mode, hfind, hentry, hshown⟩
  · rintro ⟨rfl, place, mode, hfind, hentry, hshown⟩
    refine ⟨⟨place, mode, hfind, hentry, ?_⟩, (fitsName_plain_iff hmarks).mpr rfl, id⟩
    rwa [hmarks, if_neg Bool.false_ne_true]

theorem Picks.isSingle (h : Picks d folder pattern name) (hsound : d.tree.Sound) (hpattern : IsSingle pattern) :
    IsSingle name := by
  rcases h with h | ⟨-, rfl, -⟩
  · have hname := h.isEntryName hsound
    exact ⟨hname.nonempty, hname.slash⟩
  · exact hpattern

theorem IsDots.not_hasMarks (h : IsDots pattern) : hasMarks pattern = false := by
  rcases h with rfl | rfl <;> decide

theorem mem_selected_iff_of_marks {onlyDirectories : Bool} (hmarks : hasMarks pattern = true) :
    name ∈ selected d onlyDirectories folder pattern ↔
      Selects d folder pattern name ∧
        (onlyDirectories = true → d.isDirectory (Path.join (opened folder) name) = true) := by
  rw [selected, if_pos hmarks, mem_namesIn_iff]
  simp only [Tree.mem_children_iff]
  constructor
  · rintro ⟨⟨place, mode, hfind, hread, hentry⟩, hdir, hhidden, hfits⟩
    exact ⟨⟨⟨place, mode, hfind, hentry, by rwa [if_pos hmarks]⟩, hfits, hhidden⟩, hdir⟩
  · rintro ⟨⟨⟨place, mode, hfind, hentry, hread⟩, hfits, hhidden⟩, hdir⟩
    exact ⟨⟨place, mode, hfind, by rwa [if_pos hmarks] at hread, hentry⟩, hdir, hhidden, hfits⟩

theorem mem_selected_iff_of_plain {onlyDirectories : Bool} (hsound : d.tree.Sound) (hmarks : hasMarks pattern = false)
    (hpattern : IsSingle pattern) :
    name ∈ selected d onlyDirectories folder pattern ↔ Picks d folder pattern name := by
  have hmem : name ∈ selected d onlyDirectories folder pattern ↔
      name = pattern ∧ d.present (Path.join folder pattern) = true := by
    rw [selected, hmarks, if_neg Bool.false_ne_true]
    cases d.present (Path.join folder pattern) <;> simp
  rw [hmem, Picks]
  by_cases hdots : IsDots pattern
  · have hnone : ¬Selects d folder pattern name := by
      intro h
      have hentry := h.isEntryName hsound
      obtain rfl := (fitsName_plain_iff hmarks).mp h.fits
      exact hdots.elim hentry.dot hentry.dots
    rw [or_iff_right hnone, and_iff_right hdots]
  · rw [selects_iff_of_plain hsound hmarks hpattern hdots, or_iff_left fun h => hdots h.1]

/-- **The names that are selected in a directory are those that the pattern leads to**, by marks to directories alone where only
these are asked for. -/
theorem mem_selected_iff {onlyDirectories : Bool} (hsound : d.tree.Sound) (hpattern : IsSingle pattern) :
    name ∈ selected d onlyDirectories folder pattern ↔
      Picks d folder pattern name ∧
        (onlyDirectories = true → hasMarks pattern = true → d.isDirectory (Path.join (opened folder) name) = true) := by
  cases hmarks : hasMarks pattern with
  | true =>
    have hdots : ¬IsDots pattern := fun h => by
      rw [h.not_hasMarks] at hmarks
      cases hmarks
    rw [mem_selected_iff_of_marks hmarks, Picks, or_iff_left fun h => hdots h.1]
    simp only [forall_const]
  | false =>
    rw [mem_selected_iff_of_plain hsound hmarks hpattern]
    simp only [Bool.false_eq_true, false_imp_iff, implies_true, and_true]

/-! ## Marks of a path -/

theorem hasMarks_append (s t : String) : hasMarks (s ++ t) = (hasMarks s || hasMarks t) := by
  rw [hasMarks, String.toList_append, List.any_append]
  rfl

theorem hasMarks_frontOf (dir : String) : hasMarks (Path.frontOf dir) = hasMarks dir := by
  have hslash : hasMarks "/" = false := by decide
  rw [Path.frontOf]
  split
  next => rfl
  next => rw [hasMarks_append, hslash, Bool.or_false]

theorem hasMarks_join (dir : String) (hslash : '/' ∉ pattern.toList) :
    hasMarks (Path.join dir pattern) = (hasMarks dir || hasMarks pattern) := by
  rw [Path.join_eq_append (Path.isAbsolute_eq_false hslash), hasMarks_append, hasMarks_frontOf]

/-- A path has marks where what is in front of its last name has some, or the last name. -/
theorem hasMarks_eq (p : String) : hasMarks p = (hasMarks (Path.parent p) || hasMarks (Path.baseName p)) := by
  have hslash : ∀ l : List Char, hasMarks (String.ofList (l.dropWhile (· == Path.separator)).reverse) =
      hasMarks (String.ofList l.reverse) := by
    intro l
    simp only [hasMarks, String.toList_ofList, List.any_reverse]
    induction l with
    | nil => rfl
    | cons c rest ih =>
      rw [List.dropWhile_cons]
      split
      next hc =>
        obtain rfl : c = '/' := by simpa [Path.separator] using hc
        rw [ih]
        rfl
      next => rfl
  have hparent : hasMarks (Path.parent p) =
      hasMarks (String.ofList (p.toList.reverse.dropWhile (· != Path.separator)).reverse) := by
    rw [Path.parent]
    split
    next => rfl
    next => exact hslash _
  rw [hparent, ← hasMarks_append, Path.baseName, Path.baseChars, ← String.ofList_append, ← List.reverse_append,
    List.takeWhile_append_dropWhile, List.reverse_reverse, String.ofList_toList]

/-- Without marks in a directory there are none in front of a name that is read from it. -/
theorem hasMarks_parent_join {dir : String} (hslash : '/' ∉ pattern.toList) (h : hasMarks dir = false) :
    hasMarks (Path.parent (Path.join dir pattern)) = false := by
  rw [← hasMarks_frontOf, hasMarks_eq_false_iff] at h
  rw [Path.parent_join dir hslash, hasMarks_eq_false_iff]
  exact fun c hc => h c (Path.mem_of_mem_parent hc)

/-! ## The paths that are found -/

/-- A directory as it stands in a path that a name is read from: slashes at its end are left out where anything in the path
has marks. -/
def folderOf (dir pattern : String) : String :=
  if hasMarks (Path.join dir pattern) then Path.parent (Path.join dir pattern) else dir

/-- The directories whose paths fit a path: it itself where it has no marks. -/
def fitting (d : Disk) (path : String) (n : Nat) : List String := if hasMarks path then pathsFrom d true path n else [path]

/-- A directory without marks has none in a path either. -/
theorem hasMarks_folderOf {dir : String} (hslash : '/' ∉ pattern.toList) (h : hasMarks dir = false) :
    hasMarks (folderOf dir pattern) = false := by
  rw [folderOf]
  split
  next => exact hasMarks_parent_join hslash h
  next => exact h

/-- **The directory that is searched is the very one** that a name is read from, unless slashes at its end make the path too
long. -/
theorem find_folderOf {dir : String} (hslash : '/' ∉ pattern.toList) (hshort : dir.utf8ByteSize ≤ maxPath) {mode : Nat} :
    d.find true (opened (folderOf dir pattern)) = .ok (place, .directory mode) ↔
      d.find true (opened dir) = .ok (place, .directory mode) := by
  rw [folderOf]
  split
  next =>
    rw [Path.parent_join dir hslash]
    obtain ⟨slashes, hdir, hslashes⟩ := Path.exists_parent_frontOf dir
    by_cases hempty : dir = ""
    · subst hempty
      rfl
    · have hne : Path.parent (Path.frontOf dir) ≠ "" := fun h => hempty (Path.eq_empty_of_parent_frontOf h)
      rw [opened, opened, if_neg (by simpa using hne), if_neg (by simpa using hempty)]
      exact (Disk.find_of_slashes hdir hslashes hne hshort).symm
  next => rfl

/-- The paths that fit one with marks are names that are selected in the directories that fit what is in front. -/
theorem pathsFrom_succ (d : Disk) (onlyDirectories : Bool) (n : Nat) (hmarks : hasMarks p = true)
    (hlast : Path.baseName p ≠ "") :
    pathsFrom d onlyDirectories p (n + 1) =
      (fitting d (Path.parent p) n).flatMap fun folder =>
        (selected d onlyDirectories folder (Path.baseName p)).map (Path.join folder) := by
  have hnonempty : (Path.baseName p).isEmpty = false := by simpa using hlast
  have hself : (Path.parent p != p) = true := bne_iff_ne.mpr (Path.parent_ne_self hlast)
  rw [pathsFrom, fitting]
  simp only [hmarks, hnonempty, hself, Bool.not_true, Bool.false_eq_true, if_false, Bool.true_and]
  split
  next hempty =>
    have hparent := String.isEmpty_iff.mp hempty
    have hnone : hasMarks "" = false := by decide
    rw [hasMarks_eq, hparent, hnone, Bool.false_or] at hmarks
    rw [hparent, hnone, if_neg Bool.false_ne_true, List.flatMap_singleton, selected, hmarks, if_pos rfl, Path.join_empty,
      List.map_id]
  next => rfl

/-- Where only the last name of a pattern has marks, it selects names in the directory in front. -/
theorem paths_eq (hfront : hasMarks (Path.parent pattern) = false) (hlast : hasMarks (Path.baseName pattern) = true) :
    paths d pattern =
      (namesIn d (Path.parent pattern) (Path.baseName pattern) false).map (Path.join (Path.parent pattern)) := by
  have hmarks : hasMarks pattern = true := by rw [hasMarks_eq, hlast, Bool.or_true]
  have hne : Path.baseName pattern ≠ "" := by
    intro hempty
    rw [hempty] at hlast
    exact absurd hlast (by decide)
  rw [paths, pathsFrom_succ d false _ hmarks hne, fitting, hfront, if_neg Bool.false_ne_true, List.flatMap_singleton, selected,
    if_pos hlast]

/-- **The paths that fit a name read from a directory** are the names that are selected in the directories it is searched
in. -/
theorem paths_join (d : Disk) (dir : String) (hpattern : IsSingle pattern) :
    paths d (Path.join dir pattern) =
      (fitting d (folderOf dir pattern) (Path.join dir pattern).length).flatMap fun folder =>
        (selected d false folder pattern).map (Path.join folder) := by
  have hlast : Path.baseName (Path.join dir pattern) = pattern := by
    rw [Path.baseName, Path.baseChars_join dir hpattern.slash, String.ofList_toList]
  rw [paths, folderOf]
  cases hmarks : hasMarks (Path.join dir pattern) with
  | true => rw [pathsFrom_succ d false _ hmarks (hlast.symm ▸ hpattern.nonempty), hlast, if_pos rfl]
  | false =>
    have hjoin := hasMarks_join dir hpattern.slash
    have hnonempty : pattern.isEmpty = false := by simpa using hpattern.nonempty
    rw [hmarks, eq_comm, Bool.or_eq_false_iff] at hjoin
    rw [pathsFrom, fitting]
    simp only [hmarks, hlast, hnonempty, hjoin.1, hjoin.2, selected, Bool.not_false, Bool.false_eq_true, if_true, if_false,
      List.flatMap_singleton]
    cases d.present (Path.join dir pattern) <;> rfl

/-! ## Paths without a slash at the end -/

/-- A path with something in it that does not end in a slash. -/
def IsPlain (p : String) : Prop := p ≠ "" ∧ endsInSlash p = false

theorem IsSingle.isPlain_join (h : IsSingle name) (folder : String) : IsPlain (Path.join folder name) := by
  refine ⟨fun hempty => h.1 ?_, Disk.endsInSlash_join folder h.1 h.2⟩
  rw [Path.join_eq_append (Path.isAbsolute_eq_false h.2)] at hempty
  exact (String.append_eq_empty_iff.mp hempty).2

/-- A plain path and a name are told from the path that the name is read from it by. -/
theorem IsPlain.join_inj {folder folder' name' : String} (h : IsPlain folder) (h' : IsPlain folder') (hname : '/' ∉ name.toList)
    (hname' : '/' ∉ name'.toList) (hjoin : Path.join folder name = Path.join folder' name') :
    folder = folder' ∧ name = name' := by
  have hlast : name = name' := by
    have hbase := congrArg (fun p : String => Path.baseChars p.toList) hjoin
    exact String.toList_injective (by simpa only [Path.baseChars_join _ hname, Path.baseChars_join _ hname'] using hbase)
  have hfront : ∀ {p : String}, IsPlain p → Path.frontOf p = p ++ "/" := fun hp => by
    have hends : (String.endsWith _ "/") = false := hp.2
    rw [Path.frontOf, hends, Bool.or_false, if_neg (by simpa using hp.1)]
  subst hlast
  rw [Path.join_eq_append (Path.isAbsolute_eq_false hname), Path.join_eq_append (Path.isAbsolute_eq_false hname), hfront h,
    hfront h'] at hjoin
  exact ⟨String.append_left_inj "/" |>.mp (String.append_left_inj name |>.mp hjoin), rfl⟩

/-- A directory with marks stands without slashes at its end in front of a name. -/
theorem isPlain_parent (h : hasMarks (Path.parent p) = true) : IsPlain (Path.parent p) := by
  refine ⟨fun hempty => ?_, ?_⟩
  · rw [hempty] at h
    exact absurd h (by decide)
  obtain ⟨c, hc, hmark⟩ := List.any_eq_true.mp h
  rw [Path.parent] at hc ⊢
  split at hc
  next hslashes =>
    rw [String.toList_ofList, List.mem_reverse] at hc
    obtain rfl : c = '/' := by simpa [Path.separator] using List.all_eq_true.mp hslashes c hc
    exact absurd hmark (by decide)
  next hother =>
    rw [if_neg hother, endsInSlash, Bool.eq_false_iff, ne_eq, Path.endsWith_iff]
    have hback := List.head?_dropWhile_not (· == Path.separator) (p.toList.reverse.dropWhile (· != Path.separator))
    rintro ⟨front, hfront⟩
    simp only [String.toList_ofList] at hfront
    rw [← List.reverse_eq_iff, List.reverse_append] at hfront
    rw [← hfront] at hback
    cases hback

theorem IsPlain.isSingle_baseName (h : IsPlain p) : IsSingle (Path.baseName p) := by
  obtain ⟨c, rest, hc, hother⟩ := Path.exists_reverse_eq_cons h.1 h.2
  have hne : (c != Path.separator) = true := bne_iff_ne.mpr hother
  constructor
  · rw [Path.baseName, Path.baseChars, hc, List.takeWhile_cons_of_pos (by exact hne)]
    simp
  · rw [Path.baseName, String.toList_ofList]
    exact Path.separator_not_mem_baseChars _

theorem isPlain_folderOf {dir : String} (hslash : '/' ∉ pattern.toList) (h : hasMarks (folderOf dir pattern) = true) :
    IsPlain (folderOf dir pattern) := by
  rw [folderOf] at h ⊢
  split at h
  next hjoin =>
    rw [if_pos hjoin]
    exact isPlain_parent h
  next hjoin =>
    rw [hasMarks_join dir hslash, h] at hjoin
    exact absurd rfl hjoin

/-! ## Directories whose paths fit -/

/-- Whether a directory's path fits a path: without marks it is that path, and with marks it is a name that the last name of the
path leads to, in a directory whose path fits what is in front. -/
inductive FitsPath (d : Disk) : String → String → Prop
  | plain {path : String} (hmarks : hasMarks path = false) : FitsPath d path path
  | name {path folder name : String} (hmarks : hasMarks path = true) (hfront : FitsPath d (Path.parent path) folder)
      (hpicks : Picks d folder (Path.baseName path) name)
      (hdir : hasMarks (Path.baseName path) = true → d.isDirectory (Path.join (opened folder) name) = true) :
      FitsPath d path (Path.join folder name)

theorem fitsPath_iff_of_plain {q : String} (h : hasMarks p = false) : FitsPath d p q ↔ q = p := by
  constructor
  · intro hfits
    cases hfits with
    | plain => rfl
    | name hmarks =>
      rw [h] at hmarks
      cases hmarks
  · rintro rfl
    exact .plain h

theorem fitsPath_iff_of_marks {q : String} (h : hasMarks p = true) :
    FitsPath d p q ↔ ∃ folder, FitsPath d (Path.parent p) folder ∧ ∃ name,
      (Picks d folder (Path.baseName p) name ∧
        (hasMarks (Path.baseName p) = true → d.isDirectory (Path.join (opened folder) name) = true)) ∧
      Path.join folder name = q := by
  constructor
  · intro hfits
    cases hfits with
    | plain hmarks =>
      rw [h] at hmarks
      cases hmarks
    | name hmarks hfront hpicks hdir => exact ⟨_, hfront, _, ⟨hpicks, hdir⟩, rfl⟩
  · rintro ⟨folder, hfront, name, ⟨hpicks, hdir⟩, rfl⟩
    exact .name h hfront hpicks hdir

theorem FitsPath.isPlain {q : String} (h : FitsPath d p q) (hsound : d.tree.Sound) (hplain : IsPlain p) : IsPlain q := by
  cases h with
  | plain => exact hplain
  | name _ _ hpicks _ => exact (hpicks.isSingle hsound hplain.isSingle_baseName).isPlain_join _

/-- The directories that are found are those whose paths fit: the bound is never met, as what is in front of a name is shorter
than the path. -/
theorem mem_fitting_iff (hsound : d.tree.Sound) {n : Nat} {q : String} (hplain : hasMarks p = true → IsPlain p)
    (hbound : p.length ≤ n) : q ∈ fitting d p n ↔ FitsPath d p q := by
  induction n generalizing p q with
  | zero =>
    obtain rfl : p = "" := by simpa using hbound
    have hmarks : hasMarks "" = false := by decide
    rw [fitting, hmarks, if_neg Bool.false_ne_true, List.mem_singleton, fitsPath_iff_of_plain hmarks]
  | succ n ih =>
    cases hmarks : hasMarks p with
    | false => rw [fitting, hmarks, if_neg Bool.false_ne_true, List.mem_singleton, fitsPath_iff_of_plain hmarks]
    | true =>
      have hlast := (hplain hmarks).isSingle_baseName
      have hshorter : (Path.parent p).length ≤ n := by
        have := Path.length_parent_lt hlast.nonempty
        omega
      rw [fitting, if_pos hmarks, pathsFrom_succ d true n hmarks hlast.nonempty, fitsPath_iff_of_marks hmarks, List.mem_flatMap]
      simp only [ih isPlain_parent hshorter, List.mem_map, mem_selected_iff hsound hlast, forall_const]

theorem length_folderOf (dir : String) (hpattern : IsSingle pattern) :
    (folderOf dir pattern).length ≤ (Path.join dir pattern).length := by
  rw [folderOf]
  split
  next =>
    refine (Path.length_parent_lt ?_).le
    rw [Path.baseName, Path.baseChars_join dir hpattern.slash, String.ofList_toList]
    exact hpattern.nonempty
  next =>
    obtain ⟨rest, hrest⟩ := Path.exists_join_eq_append dir hpattern.slash
    rw [hrest, String.length_append]
    omega

/-- **A path fits a name read from a directory** exactly if the name leads to it in a directory whose path fits. -/
theorem mem_paths_join_iff (hsound : d.tree.Sound) (dir : String) (hpattern : IsSingle pattern) :
    p ∈ paths d (Path.join dir pattern) ↔ ∃ folder, FitsPath d (folderOf dir pattern) folder ∧ ∃ name,
      Picks d folder pattern name ∧ p = Path.join folder name := by
  have hfitting : ∀ folder, folder ∈ fitting d (folderOf dir pattern) (Path.join dir pattern).length ↔
      FitsPath d (folderOf dir pattern) folder := fun _ =>
    mem_fitting_iff hsound (isPlain_folderOf hpattern.slash) (length_folderOf dir hpattern)
  rw [paths_join d dir hpattern, List.mem_flatMap]
  simp only [hfitting, List.mem_map, mem_selected_iff hsound hpattern, Bool.false_eq_true, false_imp_iff, and_true, eq_comm]

/-- A path by which a name is read from a directory whose path fits is read from no other. -/
theorem FitsPath.join_inj (hsound : d.tree.Sound) {dir name' : String} (hslash : '/' ∉ pattern.toList)
    (hfits : FitsPath d (folderOf dir pattern) folder) (hname : '/' ∉ name.toList) (hname' : '/' ∉ name'.toList)
    (h : Path.join folder name = Path.join (folderOf dir pattern) name') : folder = folderOf dir pattern ∧ name = name' := by
  cases hmarks : hasMarks (folderOf dir pattern) with
  | true =>
    have hplain := isPlain_folderOf hslash hmarks
    exact (hfits.isPlain hsound hplain).join_inj hplain hname hname' h
  | false =>
    obtain rfl := (fitsPath_iff_of_plain hmarks).mp hfits
    exact ⟨rfl, Path.join_injective (Path.isAbsolute_eq_false hname) (Path.isAbsolute_eq_false hname') h⟩

/-! ## No path twice -/

/-- Paths from which no name is read by the same path. -/
def Separate (p q : String) : Prop :=
  ∀ name name' : String, '/' ∉ name.toList → '/' ∉ name'.toList → Path.join p name ≠ Path.join q name'

theorem pairwise_separate {dirs : List String} (h : dirs.Nodup) (hplain : ∀ p ∈ dirs, IsPlain p) : dirs.Pairwise Separate :=
  List.Pairwise.imp_of_mem (fun hp hq hne _ _ hname hname' hjoin =>
    hne ((hplain _ hp).join_inj (hplain _ hq) hname hname' hjoin).1) h

/-- Names that are read from separate directories make no path twice. -/
theorem nodup_flatMap_join {dirs : List String} {names : String → List String} (hdirs : dirs.Pairwise Separate)
    (hnames : ∀ p ∈ dirs, (names p).Nodup) (hslash : ∀ p ∈ dirs, ∀ name ∈ names p, '/' ∉ name.toList) :
    (dirs.flatMap fun p => (names p).map (Path.join p)).Nodup := by
  rw [List.nodup_flatMap]
  constructor
  · intro p hp
    refine (hnames p hp).map_on fun name hname name' hname' hjoin => ?_
    exact Path.join_injective (Path.isAbsolute_eq_false (hslash p hp name hname))
      (Path.isAbsolute_eq_false (hslash p hp name' hname')) hjoin
  · refine hdirs.imp_of_mem fun {p q} hp hq hseparate => ?_
    intro path hpath hpath'
    obtain ⟨name, hname, rfl⟩ := List.mem_map.mp hpath
    obtain ⟨name', hname', hjoin⟩ := List.mem_map.mp hpath'
    exact hseparate name name' (hslash p hp name hname) (hslash q hq name' hname') hjoin.symm

theorem nodup_selected (hkeyed : d.tree.Keyed) (onlyDirectories : Bool) : (selected d onlyDirectories folder pattern).Nodup := by
  rw [selected]
  split
  next =>
    rw [namesIn, ← opened]
    split
    next => exact List.nodup_nil
    next names hnames =>
      obtain ⟨place, mode, -, -, rfl⟩ := names_eq_ok_iff.mp hnames
      exact (hkeyed.nodup_children place).filter _
  next =>
    split
    next => exact List.nodup_singleton pattern
    next => exact List.nodup_nil

/-- What separate directories select is all different. -/
theorem nodup_flatMap_selected (hsound : d.tree.Sound) (hkeyed : d.tree.Keyed) {onlyDirectories : Bool} {dirs : List String}
    (hdirs : dirs.Pairwise Separate) (hpattern : IsSingle pattern) :
    (dirs.flatMap fun folder => (selected d onlyDirectories folder pattern).map (Path.join folder)).Nodup :=
  nodup_flatMap_join hdirs (fun _ _ => nodup_selected hkeyed onlyDirectories)
    fun _ _ _ hname => (((mem_selected_iff hsound hpattern).mp hname).1.isSingle hsound hpattern).slash

/-- The directories whose paths fit a path are separate. -/
theorem pairwise_fitting (hsound : d.tree.Sound) (hkeyed : d.tree.Keyed) (n : Nat)
    (hplain : hasMarks p = true → IsPlain p) : (fitting d p n).Pairwise Separate := by
  induction n generalizing p with
  | zero =>
    rw [fitting, pathsFrom]
    split
    next => exact .nil
    next => exact List.pairwise_singleton _ _
  | succ n ih =>
    rw [fitting]
    split
    next hmarks =>
      have hlast := (hplain hmarks).isSingle_baseName
      rw [pathsFrom_succ d true n hmarks hlast.nonempty]
      refine pairwise_separate (nodup_flatMap_selected hsound hkeyed (ih isPlain_parent) hlast) fun q hq => ?_
      obtain ⟨folder, -, hq⟩ := List.mem_flatMap.mp hq
      obtain ⟨name, hname, rfl⟩ := List.mem_map.mp hq
      exact (((mem_selected_iff hsound hlast).mp hname).1.isSingle hsound hlast).isPlain_join folder
    next => exact List.pairwise_singleton _ _

/-- **No path fits a name read from a directory twice.** -/
theorem nodup_paths_join (hsound : d.tree.Sound) (hkeyed : d.tree.Keyed) (dir : String) (hpattern : IsSingle pattern) :
    (paths d (Path.join dir pattern)).Nodup := by
  rw [paths_join d dir hpattern]
  exact nodup_flatMap_selected hsound hkeyed (pairwise_fitting hsound hkeyed _ (isPlain_folderOf hpattern.slash)) hpattern

end Rehearsal.Files.Glob
