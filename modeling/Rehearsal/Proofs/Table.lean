import Rehearsal.Table

/-!
# Looking things up in tables

A key that is not among the keys of a table has no value there, and a pair of a table whose keys are distinct is the one
that is found under its key. Of values that are put into a table one after the other, the last one under a key is found
(`get?_foldl_insert`).
-/

namespace Rehearsal.Table

variable {α β : Type}

@[simp] theorem get?_nil (key : String) : get? key ([] : Table α) = none := rfl

theorem get?_cons (key k : String) (value : α) (rest : Table α) :
    get? key ((k, value) :: rest) = if k == key then some value else get? key rest := rfl

@[simp] theorem insert_nil (key : String) (value : α) : insert key value [] = [(key, value)] := rfl

theorem insert_cons (key k : String) (value v : α) (rest : Table α) :
    insert key value ((k, v) :: rest) =
      if k == key then (key, value) :: rest else (k, v) :: insert key value rest := rfl

theorem get?_eq_none {key : String} {t : Table α} (h : key ∉ t.keys) : t.get? key = none := by
  induction t with
  | nil => rfl
  | cons pair rest ih =>
    rw [keys, List.map_cons, List.mem_cons, not_or] at h
    have hne : (pair.1 == key) = false := by simpa using Ne.symm h.1
    rw [get?_cons, hne, if_neg Bool.false_ne_true]
    exact ih h.2

/-- What is found under a key stands in the table. -/
theorem mem_of_get? {key : String} {value : α} {t : Table α} (h : t.get? key = some value) : (key, value) ∈ t := by
  induction t with
  | nil => cases h
  | cons pair rest ih =>
    obtain ⟨k, v⟩ := pair
    rw [get?_cons] at h
    split at h
    next hk =>
      cases h
      rw [eq_of_beq hk]
      exact List.mem_cons_self
    next => exact List.mem_cons_of_mem _ (ih h)

/-- The keys of a table with a value under a key. -/
theorem mem_keys_insert {key k : String} {value : α} {t : Table α} :
    k ∈ (Table.insert key value t).keys ↔ k = key ∨ k ∈ t.keys := by
  induction t with
  | nil => simp [keys]
  | cons pair rest ih =>
    obtain ⟨old, v⟩ := pair
    rw [insert_cons]
    by_cases hold : old = key
    · subst hold
      simp [keys]
    · have hne : (old == key) = false := by simpa using hold
      rw [hne, if_neg Bool.false_ne_true]
      simp only [keys, List.map_cons, List.mem_cons] at ih ⊢
      rw [ih]
      exact or_left_comm

/-- Putting a value under a key leaves the keys distinct. -/
theorem nodup_keys_insert {key : String} {value : α} {t : Table α} (h : t.keys.Nodup) :
    (Table.insert key value t).keys.Nodup := by
  induction t with
  | nil => simp [keys]
  | cons pair rest ih =>
    obtain ⟨old, v⟩ := pair
    obtain ⟨hnot, hrest⟩ := List.nodup_cons.mp h
    rw [insert_cons]
    by_cases hold : old = key
    · subst hold
      rw [beq_self_eq_true, if_pos rfl]
      exact List.nodup_cons.mpr ⟨hnot, hrest⟩
    · have hne : (old == key) = false := by simpa using hold
      rw [hne, if_neg Bool.false_ne_true]
      refine List.nodup_cons.mpr ⟨fun hmem => ?_, ih hrest⟩
      rcases mem_keys_insert.mp hmem with heq | hmem
      · exact hold heq
      · exact hnot hmem

/-- What is found after a value was put under a key. -/
theorem get?_insert (key k : String) (value : α) (t : Table α) :
    (Table.insert key value t).get? k = if key = k then some value else t.get? k := by
  induction t with
  | nil => simp [get?_cons]
  | cons pair rest ih =>
    obtain ⟨old, v⟩ := pair
    rw [insert_cons]
    by_cases hold : old = key
    · subst hold
      by_cases hk : old = k <;> simp [get?_cons, hk]
    · have hne : (old == key) = false := by simpa using hold
      rw [hne, if_neg Bool.false_ne_true, get?_cons, get?_cons, ih]
      by_cases hk : old = k
      · subst hk
        simp [Ne.symm hold]
      · have hk' : (old == k) = false := by simpa using hk
        simp only [hk', Bool.false_eq_true, if_false]

/-- What is found after a key was taken away. -/
theorem get?_erase (key k : String) (t : Table α) : (Table.erase key t).get? k = if key = k then none else t.get? k := by
  rw [erase]
  induction t with
  | nil => simp
  | cons pair rest ih =>
    obtain ⟨old, v⟩ := pair
    rw [List.filter_cons]
    by_cases hold : old = key
    · subst hold
      by_cases hk : old = k <;> simp [get?_cons, hk] at ih ⊢ <;> exact ih
    · by_cases hk : old = k
      · subst hk
        simp [get?_cons, hold, Ne.symm hold]
      · simpa [get?_cons, hold, hk] using ih

/-- Of values that were put into a table one after the other, the last one under a key is found. -/
theorem get?_foldl_insert (key : β → String) (value : β → α) (items : List β) (t : Table α) (k : String) :
    Table.get? k (items.foldl (fun t b => Table.insert (key b) (value b) t) t) =
      ((items.reverse.find? fun b => key b == k).map value).or (t.get? k) := by
  induction items generalizing t with
  | nil => rfl
  | cons b rest ih =>
    rw [List.foldl_cons, ih, get?_insert, List.reverse_cons, List.find?_append]
    by_cases hk : key b = k
    · cases rest.reverse.find? fun b => key b == k <;> simp [hk]
    · cases rest.reverse.find? fun b => key b == k <;> simp [hk]

/-- In a table with distinct keys a pair is what is found under its key. -/
theorem mem_iff_get? {t : Table α} (h : t.keys.Nodup) {key : String} {value : α} :
    (key, value) ∈ t ↔ t.get? key = some value := by
  refine ⟨fun hmem => ?_, mem_of_get?⟩
  induction t with
  | nil => cases hmem
  | cons pair rest ih =>
    obtain ⟨k, v⟩ := pair
    obtain ⟨hnot, hrest⟩ := List.nodup_cons.mp h
    rcases List.mem_cons.mp hmem with heq | hmem
    · cases heq
      rw [get?_cons, beq_self_eq_true, if_pos rfl]
    · have hne : (k == key) = false := by
        refine beq_eq_false_iff_ne.mpr fun hk => hnot ?_
        rw [hk]
        exact List.mem_map.mpr ⟨(key, value), hmem, rfl⟩
      rw [get?_cons, hne, if_neg Bool.false_ne_true]
      exact ih hrest hmem

/-- A value under a new key stands at the end. -/
theorem insert_of_not_mem {key : String} {t : Table α} (h : key ∉ t.keys) (value : α) :
    Table.insert key value t = t ++ [(key, value)] := by
  induction t with
  | nil => rfl
  | cons pair rest ih =>
    rw [keys, List.map_cons, List.mem_cons, not_or] at h
    have hne : (pair.1 == key) = false := by simpa using Ne.symm h.1
    rw [insert_cons, hne, if_neg Bool.false_ne_true, ih h.2, List.cons_append]

/-- Values put under new keys stand at the end in their order. -/
theorem foldl_insert_of_nodup {t pairs : Table α} (h : (t.keys ++ pairs.keys).Nodup) :
    pairs.foldl (fun t a => Table.insert a.1 a.2 t) t = t ++ pairs := by
  induction pairs generalizing t with
  | nil => rw [List.foldl_nil, List.append_nil]
  | cons pair rest ih =>
    have hnew : pair.1 ∉ t.keys := fun hmem =>
      (List.nodup_append.mp h).2.2 pair.1 hmem pair.1 (by simp [keys]) rfl
    have hkeys : keys (t ++ [pair]) ++ keys rest = t.keys ++ keys (pair :: rest) := by simp [keys]
    rw [List.foldl_cons, insert_of_not_mem hnew, ih (hkeys ▸ h), List.append_assoc, List.singleton_append]

/-- Pairs with distinct keys are a table. -/
theorem ofPairs_of_nodup {pairs : Table α} (h : pairs.keys.Nodup) : ofPairs pairs = pairs :=
  foldl_insert_of_nodup (t := []) h

/-- Values put into a table leave its keys distinct. -/
theorem nodup_keys_foldl_insert (key : β → String) (value : β → α) (items : List β) {t : Table α} (h : t.keys.Nodup) :
    (items.foldl (fun t b => Table.insert (key b) (value b) t) t).keys.Nodup := by
  induction items generalizing t with
  | nil => exact h
  | cons b rest ih => exact ih (nodup_keys_insert h)

end Rehearsal.Table
