import Mathlib.Data.List.Nodup
import Mathlib.Data.List.TakeDrop
import Mathlib.Data.List.TakeWhile
import Rehearsal.Environment
import Rehearsal.Proofs.Table

/-!
# The views of an environment

All that is looked up in an environment goes by its assignments, the entries with an equals sign, and by the last one of
a name (`last?`, and `IsLast` on the entries themselves). A search from the end finds it (`get_eq`), a table that the
entries were replayed into has it (`get?_table`), and a program that is started sees it, spelled as it is there, and no
other of the name (`mem_forProcess_iff`, `nodup_names_forProcess`).
-/

namespace Rehearsal.Environment

/-! ## Assignments -/

/-- The name and the value that an entry assigns, if it has an equals sign. -/
def assignment? (e : String) : Option (String × String) :=
  match splitEntry e with
  | (key, some value) => some (key, value)
  | (_, none) => none

/-- What entries assign, in order. -/
def assignments (entries : List String) : List (String × String) := entries.filterMap assignment?

/-- The last of assignments to a name. -/
def last? (p : Platform) (name : String) (entries : List String) : Option (String × String) :=
  (assignments entries).reverse.find? fun a => normalName p a.1 == name

/-- An entry that assigns a value to a name, with none behind it that assigns to the same. -/
def IsLast (p : Platform) (name : String) (entries : List String) (key value : String) : Prop :=
  ∃ before after, entries = before ++ entry key value :: after ∧ '=' ∉ key.toList ∧ normalName p key = name ∧
    ∀ a ∈ assignments after, normalName p a.1 ≠ name

/-- The value that entries give to a name: that of the last assignment to it, or nothing where there is none. -/
def IsValue (p : Platform) (entries : List String) (key value : String) : Prop :=
  (∃ spelled, IsLast p (normalName p key) entries spelled value) ∨
    value = "" ∧ ∀ a ∈ assignments entries, normalName p a.1 ≠ normalName p key

theorem splitEntry_entry {key : String} (h : '=' ∉ key.toList) (value : String) :
    splitEntry (entry key value) = (key, some value) := by
  have hspan : (entry key value).toList.span (· != '=') = (key.toList, '=' :: value.toList) := by
    have hkey : ∀ c ∈ key.toList, (c != '=') = true := fun c hc => bne_iff_ne.mpr fun heq => h (heq ▸ hc)
    have htext : (entry key value).toList = key.toList ++ '=' :: value.toList := by simp [entry, String.toList_append]
    rw [htext, List.span_eq_takeWhile_dropWhile, List.takeWhile_append_of_pos hkey, List.dropWhile_append_of_pos hkey]
    simp
  rw [splitEntry, hspan]
  simp

/-- An entry assigns a value to a name exactly if it is the two with an equals sign between them, the first there is. -/
theorem assignment?_eq_some_iff {e key value : String} :
    assignment? e = some (key, value) ↔ e = entry key value ∧ '=' ∉ key.toList := by
  constructor
  · intro h
    rw [assignment?, splitEntry, List.span_eq_takeWhile_dropWhile] at h
    cases hrest : e.toList.dropWhile (· != '=') with
    | nil =>
      rw [hrest] at h
      cases h
    | cons c rest =>
      rw [hrest] at h
      obtain ⟨rfl, rfl⟩ := Prod.mk.inj (Option.some.inj h)
      have hne : e.toList.dropWhile (· != '=') ≠ [] := by
        rw [hrest]
        exact List.cons_ne_nil c rest
      obtain rfl : c = '=' := by simpa [hrest] using List.head_dropWhile_not _ hne
      refine ⟨String.toList_inj.mp ?_, fun hmem => ?_⟩
      · have hcut := List.takeWhile_append_dropWhile (p := (· != '=')) (l := e.toList)
        rw [hrest] at hcut
        simpa [entry, String.toList_append] using hcut.symm
      · rw [String.toList_ofList] at hmem
        simpa using List.mem_takeWhile_imp hmem
  · rintro ⟨rfl, hkey⟩
    rw [assignment?, splitEntry_entry hkey]

theorem assignments_append (front back : List String) :
    assignments (front ++ back) = assignments front ++ assignments back := List.filterMap_append

theorem assignments_entry {key : String} (h : '=' ∉ key.toList) (value : String) :
    assignments [entry key value] = [(key, value)] := by
  rw [assignments, List.filterMap_cons, assignment?_eq_some_iff.mpr ⟨rfl, h⟩, List.filterMap_nil]

/-- Entries without an equals sign assign nothing. -/
theorem assignments_filter (entries : List String) :
    assignments (entries.filter fun e => e.toList.contains '=') = assignments entries := by
  rw [assignments, List.filterMap_filter]
  refine List.filterMap_congr fun e _ => ?_
  split
  · rfl
  next hplain =>
    cases hassign : assignment? e with
    | none => rfl
    | some a =>
      obtain ⟨rfl, -⟩ := assignment?_eq_some_iff.mp hassign
      exact absurd (by simp [entry, String.toList_append]) hplain

/-- The last assignment to a name is the one that none to the same name stands behind. -/
theorem last?_eq_some_iff {p : Platform} {name : String} {entries : List String} {key value : String} :
    last? p name entries = some (key, value) ↔ IsLast p name entries key value := by
  rw [last?, List.find?_eq_some_iff_append, beq_iff_eq]
  constructor
  · rintro ⟨hname, after, before, hreverse, hafter⟩
    have hcut : assignments entries = before.reverse ++ (key, value) :: after.reverse := by
      rw [← List.reverse_reverse (assignments entries), hreverse]
      simp
    obtain ⟨front, back, rfl, -, hback⟩ := List.filterMap_eq_append_iff.mp hcut
    obtain ⟨none, e, rest, rfl, -, he, hrest⟩ := List.filterMap_eq_cons_iff.mp hback
    obtain ⟨rfl, hkey⟩ := assignment?_eq_some_iff.mp he
    refine ⟨front ++ none, rest, by rw [List.append_assoc], hkey, hname, fun a ha => ?_⟩
    rw [assignments, hrest, List.mem_reverse] at ha
    simpa using hafter a ha
  · rintro ⟨before, after, rfl, hkey, hname, hafter⟩
    refine ⟨hname, (assignments after).reverse, (assignments before).reverse, ?_, fun a ha => ?_⟩
    · rw [← List.singleton_append, assignments_append, assignments_append, assignments_entry hkey]
      simp
    · simpa using hafter a (List.mem_reverse.mp ha)

/-- An assignment at the end is the last one to its name, and no other name has to do with it. -/
theorem last?_append_entry {p : Platform} {key : String} (h : '=' ∉ key.toList) (name value : String)
    (entries : List String) :
    last? p name (entries ++ [entry key value]) = if normalName p key = name then some (key, value) else last? p name entries := by
  rw [last?, assignments_append, assignments_entry h, List.reverse_append, List.reverse_singleton, List.singleton_append,
    List.find?_cons]
  by_cases hname : normalName p key = name
  · rw [if_pos hname, beq_iff_eq.mpr hname]
  · rw [if_neg hname, beq_eq_false_iff_ne.mpr hname]
    rfl

/-! ## The views -/

theorem table_eq (p : Platform) (entries : List String) :
    table p entries = (assignments entries).foldl (fun t a => Table.insert (normalName p a.1) a.2 t) [] := by
  rw [assignments, List.foldl_filterMap, table]
  congr 1
  funext t e
  rw [assignment?]
  rcases splitEntry e with ⟨key, _ | value⟩ <;> rfl

/-- Replaying one more assignment is putting it into the table. -/
theorem table_append_entry {p : Platform} {key : String} (h : '=' ∉ key.toList) (value : String) (entries : List String) :
    table p (entries ++ [entry key value]) = Table.insert (normalName p key) value (table p entries) := by
  rw [table_eq, assignments_append, assignments_entry h, List.foldl_append, ← table_eq]
  rfl

/-- A table that entries were replayed into has the last assignment to each name. -/
theorem get?_table (p : Platform) (name : String) (entries : List String) :
    Table.get? name (table p entries) = (last? p name entries).map (·.2) := by
  rw [table_eq, Table.get?_foldl_insert (fun a : String × String => normalName p a.1) (·.2), Table.get?, Option.or_none, last?]

/-- A search from the end finds the last assignment to a name. -/
theorem get_eq (p : Platform) (entries : List String) (key : String) :
    get p entries key = ((last? p (normalName p key) entries).map (·.2)).getD "" := by
  have hsearch : ∀ l : List String, l.findSome? (sets? p (normalName p key)) =
      ((l.filterMap assignment?).find? fun a => normalName p a.1 == normalName p key).map (·.2) := by
    intro l
    induction l with
    | nil => rfl
    | cons e rest ih =>
      rw [List.findSome?_cons, List.filterMap_cons, sets?, assignment?]
      rcases splitEntry e with ⟨k, _ | value⟩
      · exact ih
      · by_cases hname : normalName p k = normalName p key
        · simp [hname]
        · have hne : (normalName p k == normalName p key) = false := beq_eq_false_iff_ne.mpr hname
          simp only [hne, Bool.false_eq_true, if_false, List.find?_cons]
          exact ih
  rw [get, hsearch, List.filterMap_reverse, last?, assignments]

theorem isValue_get (p : Platform) (entries : List String) (key : String) : IsValue p entries key (get p entries key) := by
  rw [get_eq]
  cases hlast : last? p (normalName p key) entries with
  | some a => exact .inl ⟨a.1, last?_eq_some_iff.mp hlast⟩
  | none =>
    refine .inr ⟨rfl, fun a ha => ?_⟩
    rw [last?, List.find?_eq_none] at hlast
    simpa using hlast a (List.mem_reverse.mpr ha)

/-- The assignments of entries by their names, the last one of each. -/
def byName (p : Platform) (entries : List String) : Table (String × String) :=
  (assignments entries).foldl (fun t a => Table.insert (normalName p a.1) a t) []

theorem nodup_keys_byName (p : Platform) (entries : List String) : (byName p entries).keys.Nodup :=
  Table.nodup_keys_foldl_insert (fun a : String × String => normalName p a.1) (fun a => a) _ List.nodup_nil

theorem mem_byName_iff {p : Platform} {entries : List String} {name key value : String} :
    (name, key, value) ∈ byName p entries ↔ last? p name entries = some (key, value) := by
  rw [Table.mem_iff_get? (nodup_keys_byName p entries), byName,
    Table.get?_foldl_insert (fun a : String × String => normalName p a.1) (fun a => a), Table.get?, Option.or_none, last?,
    Option.map_id']

/-- Each assignment goes by its own name. -/
theorem names_byName (p : Platform) (entries : List String) :
    (byName p entries).map (fun a => normalName p a.2.1) = (byName p entries).keys := by
  refine List.map_congr_left fun a ha => ?_
  obtain ⟨name, key, value⟩ := a
  obtain ⟨-, -, -, -, hname, -⟩ := last?_eq_some_iff.mp (mem_byName_iff.mp ha)
  exact hname

/-- A program that is started sees what is left of the assignments. -/
theorem forProcess_eq (p : Platform) (entries : List String) : forProcess p entries = (byName p entries).map (·.2) := by
  have hfold : forProcess p entries = Table.ofPairs ((byName p entries).map (·.2)) := by
    rw [forProcess, byName, assignments, List.foldl_filterMap]
    congr 3
    funext t e
    rw [assignment?]
    rcases splitEntry e with ⟨key, _ | value⟩ <;> rfl
  rw [hfold]
  refine Table.ofPairs_of_nodup ?_
  -- Names that differ when they are normalised differ as they are spelled.
  have hnames : (((byName p entries).map fun a => a.2.1).map (normalName p)).Nodup := by
    rw [List.map_map]
    exact names_byName p entries ▸ nodup_keys_byName p entries
  rw [Table.keys, List.map_map]
  exact hnames.of_map

/-- A program that is started sees one variable of a name. -/
theorem nodup_names_forProcess (p : Platform) (entries : List String) :
    ((forProcess p entries).map fun v => normalName p v.1).Nodup := by
  have hnames : ((byName p entries).map (·.2)).map (fun v => normalName p v.1) = (byName p entries).keys := by
    rw [List.map_map]
    exact names_byName p entries
  rw [forProcess_eq, hnames]
  exact nodup_keys_byName p entries

/-- A program that is started sees the last assignment to each name, spelled as it is there. -/
theorem mem_forProcess_iff {p : Platform} {entries : List String} {key value : String} :
    (key, value) ∈ forProcess p entries ↔ last? p (normalName p key) entries = some (key, value) := by
  rw [forProcess_eq, List.mem_map]
  constructor
  · rintro ⟨⟨name, k, v⟩, hmem, heq⟩
    cases heq
    have hlast := mem_byName_iff.mp hmem
    obtain ⟨-, -, -, -, rfl, -⟩ := last?_eq_some_iff.mp hlast
    exact hlast
  · intro hlast
    exact ⟨(normalName p key, key, value), mem_byName_iff.mpr hlast, rfl⟩

/-- A program that is started sees a variable for every assignment. -/
theorem exists_mem_forProcess {p : Platform} {entries : List String} {a : String × String} (h : a ∈ assignments entries) :
    ∃ v ∈ forProcess p entries, normalName p v.1 = normalName p a.1 := by
  have hsome : (last? p (normalName p a.1) entries).isSome := by
    rw [last?, List.find?_isSome]
    exact ⟨a, List.mem_reverse.mpr h, beq_self_eq_true _⟩
  obtain ⟨⟨key, value⟩, hlast⟩ := Option.isSome_iff_exists.mp hsome
  obtain ⟨-, -, -, -, hname, -⟩ := last?_eq_some_iff.mp hlast
  exact ⟨(key, value), mem_forProcess_iff.mpr (hname ▸ hlast), hname⟩

/-- What an environment comes to goes by its assignments alone. -/
theorem views_congr {p : Platform} {front back : List String} (h : assignments front = assignments back) (key : String) :
    table p front = table p back ∧ get p front key = get p back key ∧ forProcess p front = forProcess p back := by
  refine ⟨by rw [table_eq, table_eq, h], by rw [get_eq, get_eq, last?, last?, h], ?_⟩
  rw [forProcess_eq, forProcess_eq, byName, byName, h]

end Rehearsal.Environment
