import Mathlib.Data.List.TakeWhile
import Rehearsal.Files.Path
import Rehearsal.Proofs.Text.Split

/-!
# The characters of a path

Nothing is lost from a path that is cleaned but slashes and single dots (`mem_clean_iff`), and what stands before its last
name was there in the whole (`mem_of_mem_parent`).

The last name of a path that is read from a directory is the name that was read (`baseChars_join`), and two names read from
one directory are two paths (`join_injective`).
-/

namespace Rehearsal.Path

section Pieces

variable {α : Type} {c cut : α}

theorem mem_intercalate_iff {sep : List α} (h : c ∉ sep) (pieces : List (List α)) :
    c ∈ sep.intercalate pieces ↔ ∃ piece ∈ pieces, c ∈ piece := by
  induction pieces with
  | nil => simp
  | cons piece rest ih =>
    cases rest with
    | nil => simp
    | cons next more =>
      rw [List.intercalate_cons_cons, List.mem_append, List.mem_append, ih]
      simp [h]

/-- Cutting loses nothing but the cuts. -/
theorem mem_splitOn_iff [BEq α] [LawfulBEq α] (h : c ≠ cut) (l : List α) : (∃ piece ∈ l.splitOn cut, c ∈ piece) ↔ c ∈ l := by
  have hsep : c ∉ [cut] := by rwa [List.mem_singleton]
  rw [← mem_intercalate_iff hsep, List.intercalate_splitOn]

end Pieces

variable {c : Char}

theorem mem_names_iff (hslash : c ≠ '/') (hdot : c ≠ '.') (p : String) :
    (∃ name ∈ names p, c ∈ name.toList) ↔ c ∈ p.toList := by
  have hcut : p.splitOn "/" = (p.toList.splitOn '/').map String.ofList := by
    rw [← Line.splitOn_eq]
    exact Line.splitOn_singleton '/' p
  rw [← mem_splitOn_iff hslash, names, hcut]
  constructor
  · rintro ⟨name, hname, hc⟩
    obtain ⟨piece, hpiece, rfl⟩ := List.mem_map.mp (List.mem_filter.mp hname).1
    exact ⟨piece, hpiece, by simpa using hc⟩
  · rintro ⟨piece, hpiece, hc⟩
    refine ⟨String.ofList piece, List.mem_filter.mpr ⟨List.mem_map_of_mem hpiece, ?_⟩, by simpa using hc⟩
    -- A name with this character in it is neither empty nor a dot.
    have hempty : piece ≠ [] := List.ne_nil_of_mem hc
    have hdots : piece ≠ ['.'] := by
      rintro rfl
      exact hdot (List.mem_singleton.mp hc)
    have hsingle : String.ofList piece ≠ "." := fun h => hdots (String.ofList_injective h)
    simp [hempty, hsingle]

/-- Cleaning a path loses nothing but slashes and dots. -/
theorem mem_clean_iff (hslash : c ≠ '/') (hdot : c ≠ '.') (p : String) : c ∈ (clean p).toList ↔ c ∈ p.toList := by
  have hbody : c ∈ ("/".intercalate (names p)).toList ↔ c ∈ p.toList := by
    have hsep : c ∉ "/".toList := by simpa using hslash
    rw [String.toList_intercalate, mem_intercalate_iff hsep, ← mem_names_iff hslash hdot]
    simp only [List.mem_map, exists_exists_and_eq_and]
  have hroot : ∀ root : String, c ∉ root.toList →
      (c ∈ (if root.isEmpty && ("/".intercalate (names p)).isEmpty then "." else
        root ++ "/".intercalate (names p)).toList ↔ c ∈ p.toList) := by
    intro root hroot
    rw [← hbody]
    split
    next hnone =>
      simp only [Bool.and_eq_true, String.isEmpty_iff] at hnone
      simp [hnone.2, hdot]
    next => simp [hroot]
  rw [clean]
  split
  · exact hroot "//" (by simpa using hslash)
  split
  · exact hroot "/" (by simpa using hslash)
  · exact hroot "" (by simp)

theorem mem_of_mem_parent {p : String} (h : c ∈ (parent p).toList) : c ∈ p.toList := by
  have hhead : c ∈ p.toList.reverse.dropWhile (· != separator) → c ∈ p.toList := fun hc =>
    List.mem_reverse.mp ((List.dropWhile_sublist _).subset hc)
  rw [parent] at h
  split at h
  · exact hhead (by simpa using h)
  · refine hhead ((List.dropWhile_sublist (· == separator)).subset ?_)
    simpa using h

/-! ## The last name of a path -/

theorem endsWith_iff {p s : String} : p.endsWith s ↔ s.toList <:+ p.toList := by
  rw [← String.endsWith_toSlice, String.Slice.endsWith_string_iff, String.copy_toSlice]

theorem isAbsolute_eq_false {p : String} (h : '/' ∉ p.toList) : isAbsolute p = false := by
  rw [isAbsolute, Bool.eq_false_iff, Ne, String.startsWith_string_iff]
  intro hfront
  exact h (hfront.subset (by decide))

/-- What stands in front of a path that is read from a directory. -/
def frontOf (base : String) : String := if base.isEmpty || base.endsWith "/" then base else base ++ "/"

theorem join_eq_append {p : String} (h : isAbsolute p = false) (base : String) : join base p = frontOf base ++ p := by
  rw [join, h, frontOf, if_neg Bool.false_ne_true]
  split <;> rfl

/-- What is read from nowhere in particular stays as it is. -/
theorem join_empty : join "" = id := by
  funext p
  rw [join]
  split <;> simp

/-- A front is empty or ends in a slash. -/
theorem frontOf_cases (base : String) : (frontOf base).toList = [] ∨ ['/'] <:+ (frontOf base).toList := by
  unfold frontOf
  split
  next h =>
    rcases Bool.or_eq_true_iff.mp h with hempty | hslash
    · exact .inl (by rw [String.isEmpty_iff.mp hempty]; rfl)
    · exact .inr (endsWith_iff.mp hslash)
  next => exact .inr ⟨base.toList, by rw [String.toList_append]; rfl⟩

theorem eq_empty_of_frontOf {base : String} (h : (frontOf base).toList = []) : base = "" := by
  rw [frontOf] at h
  split at h
  · exact String.toList_eq_nil_iff.mp h
  · simp at h

/-- What is read from a directory that has a name has a slash in it. -/
theorem slash_mem_join {base : String} (hne : base ≠ "") (p : String) : '/' ∈ (join base p).toList := by
  cases hp : isAbsolute p with
  | true =>
    rw [join, hp, if_pos rfl]
    by_contra hmem
    rw [isAbsolute_eq_false hmem] at hp
    cases hp
  | false =>
    rw [join_eq_append hp, String.toList_append]
    refine List.mem_append_left _ ?_
    rcases frontOf_cases base with hnil | hslash
    · exact absurd (eq_empty_of_frontOf hnil) hne
    · exact hslash.subset List.mem_cons_self

/-- Two names that are read from one directory are two paths. -/
theorem join_injective {base p q : String} (hp : isAbsolute p = false) (hq : isAbsolute q = false)
    (h : join base p = join base q) : p = q := by
  rw [join_eq_append hp, join_eq_append hq] at h
  exact String.append_right_inj (frontOf base) |>.mp h

theorem all_ne_of_not_mem {c : Char} {cs : List Char} (h : c ∉ cs) : ∀ x ∈ cs.reverse, (x != c) = true := by
  intro x hx
  rw [bne_iff_ne]
  rintro rfl
  exact h (List.mem_reverse.mp hx)

/-- What is read from a directory is cut off it again. -/
theorem baseChars_append {front name : List Char} (hfront : front = [] ∨ ['/'] <:+ front) (hname : '/' ∉ name) :
    baseChars (front ++ name) = name := by
  rw [baseChars, List.reverse_append, List.takeWhile_append_of_pos (all_ne_of_not_mem (c := separator) hname)]
  rcases hfront with rfl | ⟨more, rfl⟩
  · simp
  · simp [separator]

theorem baseChars_join (base : String) {name : String} (h : '/' ∉ name.toList) :
    baseChars (join base name).toList = name.toList := by
  rw [join_eq_append (isAbsolute_eq_false h), String.toList_append]
  exact baseChars_append (frontOf_cases base) h

/-- What is in front of a name depends on the directory alone that it is read from. -/
theorem parent_join (base : String) {name : String} (h : '/' ∉ name.toList) :
    parent (join base name) = parent (frontOf base) := by
  have hhead : (join base name).toList.reverse.dropWhile (· != separator) =
      (frontOf base).toList.reverse.dropWhile (· != separator) := by
    rw [join_eq_append (isAbsolute_eq_false h), String.toList_append, List.reverse_append,
      List.dropWhile_append_of_pos (all_ne_of_not_mem (c := separator) h)]
  rw [parent, parent, hhead]

/-- What is in front of the last name of a path is less than the path. -/
theorem length_parent_lt {p : String} (h : baseName p ≠ "") : (parent p).length < p.length := by
  have hlength := congrArg List.length (List.takeWhile_append_dropWhile (p := (· != separator)) (l := p.toList.reverse))
  have hhead : (parent p).toList.length ≤ (p.toList.reverse.dropWhile (· != separator)).length := by
    rw [parent]
    split
    · simp
    · simpa using (List.dropWhile_sublist (· == separator)).length_le
  have hbase : 0 < (p.toList.reverse.takeWhile (· != separator)).length := by
    rw [List.length_pos_iff]
    intro hnil
    exact h (by rw [baseName, baseChars, hnil]; rfl)
  rw [List.length_append, List.length_reverse] at hlength
  rw [← String.length_toList, ← String.length_toList]
  omega

theorem parent_ne_self {p : String} (h : baseName p ≠ "") : parent p ≠ p :=
  fun hself => (length_parent_lt h).ne (congrArg String.length hself)

/-- Nothing is in front of a name only if it is read from nowhere in particular. -/
theorem eq_empty_of_parent_frontOf {base : String} (h : parent (frontOf base) = "") : base = "" := by
  rcases frontOf_cases base with hnil | ⟨front, hfront⟩
  · exact eq_empty_of_frontOf hnil
  · -- With a slash at its end the front is kept up to slashes, and is kept whole if it has nothing else.
    have hback : (frontOf base).toList.reverse.dropWhile (· != separator) = '/' :: front.reverse := by
      rw [← hfront, List.reverse_append]
      rfl
    rw [parent, hback] at h
    split at h
    next => simp at h
    next hother =>
      rw [← String.toList_eq_nil_iff, String.toList_ofList, List.reverse_eq_nil_iff, List.dropWhile_eq_nil_iff] at h
      exact absurd (List.all_eq_true.mpr h) hother

/-- A path without a slash at its end has another character there. -/
theorem exists_reverse_eq_cons {p : String} (hne : p ≠ "") (hend : p.endsWith "/" = false) :
    ∃ c rest, p.toList.reverse = c :: rest ∧ c ≠ '/' := by
  obtain ⟨c, rest, hc⟩ := List.exists_cons_of_ne_nil (l := p.toList.reverse) (by simpa using hne)
  refine ⟨c, rest, hc, ?_⟩
  rintro rfl
  have hslash : p.endsWith "/" = true := endsWith_iff.mpr ⟨rest.reverse, by rw [← List.reverse_inj, hc]; simp⟩
  rw [hend] at hslash
  cases hslash

/-- A directory that a name is read from stands in front of the name without the slashes at its end. -/
theorem exists_parent_frontOf (base : String) :
    ∃ slashes, base.toList = (parent (frontOf base)).toList ++ slashes ∧ ∀ c ∈ slashes, c = '/' := by
  have hkept : (frontOf base).toList.reverse.dropWhile (· != separator) = (frontOf base).toList.reverse := by
    rcases frontOf_cases base with hnil | ⟨front, hfront⟩
    · rw [hnil]
      rfl
    · rw [← hfront, List.reverse_append]
      rfl
  rw [parent, hkept]
  rw [frontOf]
  split
  next =>
    split
    next => exact ⟨[], by simp, fun _ hc => (nomatch hc)⟩
    next =>
      refine ⟨(base.toList.reverse.takeWhile (· == separator)).reverse, ?_, fun c hc => ?_⟩
      · rw [String.toList_ofList, ← List.reverse_append, List.takeWhile_append_dropWhile, List.reverse_reverse]
      · simpa [separator] using List.mem_takeWhile_imp (List.mem_reverse.mp hc)
  next hplain =>
    -- Here the slash at the end is that of the front: the directory itself has a character other than a slash at its end.
    rw [Bool.or_eq_true, not_or] at hplain
    have hreverse : (base ++ "/").toList.reverse = '/' :: base.toList.reverse := by simp
    obtain ⟨c, rest, hc, hother⟩ := exists_reverse_eq_cons (p := base) (by simpa using hplain.1) (by simpa using hplain.2)
    have hne : (c == separator) = false := beq_eq_false_iff_ne.mpr hother
    refine ⟨[], ?_, fun _ hc => (nomatch hc)⟩
    rw [hreverse, hc, if_neg (by simp [hne]), List.dropWhile_cons_of_pos (by rfl), List.dropWhile_cons_of_neg (by simp [hne]),
      String.toList_ofList, ← hc, List.reverse_reverse, List.append_nil]

/-- A name without its extension, where dots do not begin it. -/
theorem stem_append {front extension : List Char} (hne : front ≠ []) (hfront : front.head? ≠ some '.')
    (hextension : '.' ∉ extension) : stem (front ++ '.' :: extension) = front := by
  obtain ⟨c, more, rfl⟩ := List.exists_cons_of_ne_nil hne
  have hc : (c == '.') = false := by simpa using hfront
  have hback : (c :: more ++ '.' :: extension).reverse.dropWhile (· != '.') = '.' :: (c :: more).reverse := by
    rw [List.reverse_append, List.reverse_cons, List.append_assoc,
      List.dropWhile_append_of_pos (all_ne_of_not_mem hextension)]
    simp
  have hdots : (c :: more ++ '.' :: extension).takeWhile (· == '.') = [] := by
    rw [List.cons_append, List.takeWhile_cons, hc]
    rfl
  have hrest : (c :: more ++ '.' :: extension).dropWhile (· == '.') = c :: more ++ '.' :: extension := by
    rw [List.cons_append, List.dropWhile_cons, hc]
    rfl
  rw [stem, hdots, hrest]
  rw [hback]
  simp

/-- A name without its extension has no character that it did not have. -/
theorem mem_of_mem_stem {name : List Char} (h : c ∈ stem name) : c ∈ name := by
  have hrest : ∀ x ∈ name.dropWhile (· == '.'), x ∈ name := fun x hx => (List.dropWhile_sublist _).subset hx
  rw [stem] at h
  split at h
  next => exact h
  next front heq =>
    rcases List.mem_append.mp h with hdot | hfront
    · exact (List.takeWhile_sublist _).subset hdot
    · apply hrest
      have hmem : c ∈ (name.dropWhile (· == '.')).reverse.dropWhile (· != '.') := by
        rw [heq]
        exact List.mem_cons_of_mem _ (List.mem_reverse.mp hfront)
      exact List.mem_reverse.mp ((List.dropWhile_sublist _).subset hmem)

theorem separator_not_mem_baseChars (cs : List Char) : '/' ∉ baseChars cs := by
  intro h
  have hmem : separator ∈ cs.reverse.takeWhile (· != separator) := List.mem_reverse.mp h
  simpa using List.mem_takeWhile_imp hmem

/-! ## The names of a path -/

/-- The names that are looked up for a path are those between its slashes. -/
theorem filter_splitOn (p : String) :
    ((p.splitOn "/").filter fun n => !n.isEmpty) =
      ((p.toList.splitOn '/').filter fun n => !n.isEmpty).map String.ofList := by
  have hcut : p.splitOn "/" = (p.toList.splitOn '/').map String.ofList := by
    rw [← Line.splitOn_eq]
    exact Line.splitOn_singleton '/' p
  have hempty : ((fun n => !n.isEmpty) ∘ String.ofList) = fun n : List Char => !n.isEmpty := by
    funext n
    cases n <;> simp
  rw [hcut, List.filter_map, hempty]

/-- A name that is read from a directory comes behind the names of that. -/
theorem pieces_join {p name : String} (hp : p ≠ "") (hname : name ≠ "") (hslash : '/' ∉ name.toList) :
    ((join p name).splitOn "/").filter (fun n => !n.isEmpty) =
      (p.splitOn "/").filter (fun n => !n.isEmpty) ++ [name] := by
  have hempty : p.isEmpty = false := by simpa using hp
  have hlast : ((name.toList.splitOn '/').filter fun n => !n.isEmpty) = [name.toList] := by
    rw [List.splitOn_eq_singleton hslash]
    simp [hname]
  have hcut : ∀ front : List Char, ((front ++ '/' :: name.toList).splitOn '/').filter (fun n => !n.isEmpty) =
      (front.splitOn '/').filter (fun n => !n.isEmpty) ++ [name.toList] := fun front => by
    rw [List.splitOn_append_cons_self, List.filter_append, hlast]
  rw [filter_splitOn, filter_splitOn, join, isAbsolute_eq_false hslash, if_neg Bool.false_ne_true, hempty, Bool.false_or]
  cases hend : p.endsWith "/" with
  | true =>
    obtain ⟨front, hfront⟩ := endsWith_iff.mp hend
    have hp : p.toList = front ++ '/' :: [] := hfront.symm
    rw [if_pos rfl, String.toList_append, hp, List.append_assoc, List.cons_append, List.nil_append, hcut,
      List.splitOn_append_cons_self]
    simp
  | false =>
    rw [if_neg Bool.false_ne_true, String.toList_append, String.toList_append, List.append_assoc]
    rw [show "/".toList ++ name.toList = '/' :: name.toList from rfl, hcut]
    simp

/-- Slashes at the end of a path add no names. -/
theorem pieces_append_slashes {p q : String} {slashes : List Char} (h : p.toList = q.toList ++ slashes)
    (hslashes : ∀ c ∈ slashes, c = '/') :
    ((p.splitOn "/").filter fun n => !n.isEmpty) = (q.splitOn "/").filter fun n => !n.isEmpty := by
  have hnone : ∀ rest : List Char, (∀ c ∈ rest, c = '/') → ((rest.splitOn '/').filter fun n => !n.isEmpty) = [] := by
    intro rest hrest
    induction rest with
    | nil => rfl
    | cons c rest ih =>
      obtain rfl := hrest c List.mem_cons_self
      rw [← List.nil_append ('/' :: rest), List.splitOn_append_cons_self, List.filter_append,
        ih fun c hc => hrest c (List.mem_cons_of_mem _ hc)]
      rfl
  rw [filter_splitOn, filter_splitOn, h]
  cases slashes with
  | nil => rw [List.append_nil]
  | cons c rest =>
    obtain rfl := hslashes c List.mem_cons_self
    rw [List.splitOn_append_cons_self, List.filter_append, hnone rest fun c hc => hslashes c (List.mem_cons_of_mem _ hc),
      List.append_nil]

/-- A path that a name is read from stands in front. -/
theorem exists_join_eq_append (p : String) {name : String} (hslash : '/' ∉ name.toList) :
    ∃ rest, join p name = p ++ rest := by
  rw [join_eq_append (isAbsolute_eq_false hslash), frontOf]
  split
  · exact ⟨name, rfl⟩
  · exact ⟨"/" ++ name, String.append_assoc⟩

theorem isAbsolute_append {p : String} (hp : p ≠ "") (rest : String) : isAbsolute (p ++ rest) = isAbsolute p := by
  have hne : p.toList ≠ [] := by simpa using hp
  obtain ⟨c, more, hc⟩ := List.exists_cons_of_ne_nil hne
  rw [isAbsolute, isAbsolute, Bool.eq_iff_iff, String.startsWith_string_iff, String.startsWith_string_iff,
    String.toList_append, hc]
  simp

/-- What is read from a directory at the root is at the root. -/
theorem isAbsolute_join {base : String} (h : isAbsolute base = true) (p : String) : isAbsolute (join base p) = true := by
  have hne : base ≠ "" := by
    rintro rfl
    exact absurd h (by decide)
  unfold join
  split
  next hp => exact hp
  split
  · rwa [isAbsolute_append hne]
  · rwa [String.append_assoc, isAbsolute_append hne]

end Rehearsal.Path
