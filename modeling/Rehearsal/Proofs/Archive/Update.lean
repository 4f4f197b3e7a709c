import Mathlib.Data.List.Forall2
import Rehearsal.Proofs.Archive.Quoting
import Rehearsal.Proofs.Table
import Rehearsal.Script.Golden

/-!
# Archives with new contents

`updateAll` puts new contents in the files that updates name and in no others, or refuses. `updated_of_updateAll` says
what it makes of the files, `updateAll_refuses_iff` when it refuses, and `parse_render_updateAll` that the archive it
makes reads back with the same comment and the same names, the new contents in their places.
-/

namespace Rehearsal.Archive

/-! ## What is stored for a text -/

/-- What a file holds that a text was stored in: the text with a final newline, or, where a line of it would mark a file,
the text quoted. -/
def IsStoredAs (text : String) (data : Bytes) : Prop :=
  if IsPlain (Utf8.encode text) then data = fixNewline (Utf8.encode text)
  else quote (Utf8.encode text) = .ok data ∧ unquote data = .ok (Utf8.encode text)

/-- A text is stored as it is if no line of it marks a file, and quoted otherwise. -/
theorem stored_eq (text : String) :
    stored text = if IsPlain (Utf8.encode text) then .ok (Utf8.encode text) else quote (Utf8.encode text) := by
  rw [stored, needsQuote_encode]
  by_cases h : IsPlain (Utf8.encode text)
  · simp only [h, not_true_eq_false, decide_false, if_true]
  · simp only [h, not_false_eq_true, decide_true, if_false]

theorem isPlain_of_stored {text : String} {data : Bytes} (h : stored text = .ok data) : IsPlain data := by
  rw [stored_eq] at h
  split at h
  next hplain =>
    cases h
    exact hplain
  next => exact isPlain_of_quote h

theorem isStoredAs_of_stored {text : String} {data : Bytes} (h : stored text = .ok data) :
    IsStoredAs text (fixNewline data) := by
  rw [stored_eq] at h
  rw [IsStoredAs]
  split at h
  next hplain =>
    cases h
    rw [if_pos hplain]
  next hmarked =>
    rw [if_neg hmarked, fixNewline_of_quote h]
    exact ⟨h, unquote_of_quote h⟩

/-! ## What becomes of the files -/

/-- A file before and after updates, given what a text is stored as: its name stays, and so do its contents unless the
updates have a text for the name. -/
structure Updated (storedAs : String → Bytes → Prop) (updates : Table String) (old new : File) : Prop where
  name : new.name = old.name
  kept : updates.get? old.name = none → new.data = old.data
  stored : ∀ text, updates.get? old.name = some text → storedAs text new.data

/-- Updates that an archive does not take: one is for a name it has no file of, or for a text with a marker line that
cannot be quoted. -/
def Refuses (a : Archive) (updates : Table String) : Prop :=
  ∃ u ∈ updates, (∀ f ∈ a.files, f.name ≠ u.1) ∨
    ¬IsPlain (Utf8.encode u.2) ∧ ∃ e, quote (Utf8.encode u.2) = .error e

theorem stored_eq_error_iff {text : String} :
    (∃ e, stored text = .error e) ↔ ¬IsPlain (Utf8.encode text) ∧ ∃ e, quote (Utf8.encode text) = .error e := by
  rw [stored_eq]
  split
  next hplain => simp [hplain]
  next hmarked => simp [hmarked]

theorem update_eq_ok {a b : Archive} {name text : String} (h : a.update name text = .ok b) :
    (∃ f ∈ a.files, f.name = name) ∧ ∃ data, stored text = .ok data ∧ b = a.replace name data := by
  rw [update] at h
  split at h
  next hany =>
    refine ⟨by simpa using hany, ?_⟩
    split at h
    next data hdata =>
      cases h
      exact ⟨data, hdata, rfl⟩
    next => cases h
  next => cases h

theorem update_eq_error_iff {a : Archive} {name text : String} :
    (∃ e, a.update name text = .error e) ↔
      (∀ f ∈ a.files, f.name ≠ name) ∨ ¬IsPlain (Utf8.encode text) ∧ ∃ e, quote (Utf8.encode text) = .error e := by
  rw [← stored_eq_error_iff, update]
  split
  next hany =>
    have hhere : ¬∀ f ∈ a.files, f.name ≠ name := by simpa using hany
    cases stored text <;> simp [hhere]
  next hany =>
    have hmissing : ∀ f ∈ a.files, f.name ≠ name := by simpa using hany
    exact iff_of_true ⟨_, rfl⟩ (.inl hmissing)

theorem names_replace (name : String) (data : Bytes) (a : Archive) :
    (a.replace name data).files.map (·.name) = a.files.map (·.name) := by
  rw [replace, List.map_map]
  refine List.map_congr_left fun f _ => ?_
  simp only [Function.comp_apply]
  split <;> rfl

/-- Which names are there is all that an archive's files have to do with being refused. -/
theorem refuses_congr {a b : Archive} (h : a.files.map (·.name) = b.files.map (·.name)) (updates : Table String) :
    a.Refuses updates ↔ b.Refuses updates := by
  have hnames : ∀ name, (∀ f ∈ a.files, f.name ≠ name) ↔ ∀ f ∈ b.files, f.name ≠ name := by
    intro name
    have hmem : name ∈ a.files.map (·.name) ↔ name ∈ b.files.map (·.name) := by rw [h]
    simpa using not_congr hmem
  simp only [Refuses, hnames]

/-- **An archive takes updates, unless one of them is refused.** -/
theorem updateAll_refuses_iff {a : Archive} {updates : Table String} :
    (∃ e, a.updateAll updates = .error e) ↔ a.Refuses updates := by
  induction updates generalizing a with
  | nil => simp [updateAll, Refuses]
  | cons u rest ih =>
    obtain ⟨name, text⟩ := u
    have hcons : a.Refuses ((name, text) :: rest) ↔ (∃ e, a.update name text = .error e) ∨ a.Refuses rest := by
      rw [update_eq_error_iff]
      simp [Refuses]
    rw [hcons, updateAll]
    cases hupdate : a.update name text with
    | error e => simp
    | ok b =>
      obtain ⟨-, data, -, rfl⟩ := update_eq_ok hupdate
      simp only [ih, refuses_congr (names_replace name data a), reduceCtorEq, exists_false, false_or]

/-- What an archive is said not to hold, updates name and no file of it goes by. -/
theorem updateAll_notInArchive {a : Archive} {updates : Table String} {name : String}
    (h : a.updateAll updates = .error (.notInArchive name)) : name ∈ updates.keys ∧ ∀ f ∈ a.files, f.name ≠ name := by
  induction updates generalizing a with
  | nil => cases h
  | cons u rest ih =>
    obtain ⟨key, text⟩ := u
    rw [updateAll] at h
    split at h
    next b hb =>
      obtain ⟨-, data, -, rfl⟩ := update_eq_ok hb
      obtain ⟨hname, hmissing⟩ := ih h
      refine ⟨List.mem_cons_of_mem _ hname, fun f hf heq => ?_⟩
      have hnames : name ∈ (a.replace key data).files.map (·.name) := by
        rw [names_replace]
        exact List.mem_map.mpr ⟨f, hf, heq⟩
      obtain ⟨g, hg, hgname⟩ := List.mem_map.mp hnames
      exact hmissing g hg hgname
    next e he =>
      cases h
      rw [update] at he
      split at he
      next => cases hstored : stored text <;> rw [hstored] at he <;> cases he
      next hany =>
        cases he
        exact ⟨List.mem_cons_self, by simpa using hany⟩

/-- Replacing the contents of one name does to every file what the update for that name does. -/
theorem updated_replace {name text : String} {data : Bytes} (hdata : stored text = .ok data) {rest : Table String}
    (hname : name ∉ rest.keys) {old new : File}
    (h : Updated (fun text data => stored text = .ok data) rest (if old.name == name then { old with data } else old) new) :
    Updated (fun text data => stored text = .ok data) ((name, text) :: rest) old new := by
  cases hold : old.name == name with
  | true =>
    have hnone : rest.get? old.name = none := by
      rw [eq_of_beq hold]
      exact Table.get?_eq_none hname
    have hsome : Table.get? old.name ((name, text) :: rest) = some text := by
      rw [Table.get?, if_pos (by rw [eq_of_beq hold]; exact beq_self_eq_true name)]
    rw [hold, if_pos rfl] at h
    refine ⟨h.name, fun hget => ?_, fun t hget => ?_⟩
    · rw [hsome] at hget
      cases hget
    · rw [hsome] at hget
      cases hget
      rw [h.kept hnone]
      exact hdata
  | false =>
    have hskip : Table.get? old.name ((name, text) :: rest) = rest.get? old.name := by
      have hne : (name == old.name) = false := by rw [BEq.comm, hold]
      simp only [Table.get?, hne, Bool.false_eq_true, if_false]
    rw [hold, if_neg Bool.false_ne_true] at h
    exact ⟨h.name, fun hget => h.kept (hskip ▸ hget), fun t hget => h.stored t (hskip ▸ hget)⟩

/-- **What updates make of an archive**: the comment stays, and the files one by one become what their names say. -/
theorem updated_of_updateAll {a b : Archive} {updates : Table String} (hkeys : updates.keys.Nodup)
    (h : a.updateAll updates = .ok b) :
    b.comment = a.comment ∧
      List.Forall₂ (Updated (fun text data => stored text = .ok data) updates) a.files b.files := by
  induction updates generalizing a with
  | nil =>
    cases h
    exact ⟨rfl, List.forall₂_same.mpr fun f _ => ⟨rfl, fun _ => rfl, by simp [Table.get?]⟩⟩
  | cons u rest ih =>
    obtain ⟨name, text⟩ := u
    obtain ⟨hname, hrest⟩ := List.nodup_cons.mp hkeys
    rw [updateAll] at h
    split at h
    next mid hmid =>
      obtain ⟨-, data, hdata, rfl⟩ := update_eq_ok hmid
      obtain ⟨hcomment, hfiles⟩ := ih hrest h
      refine ⟨hcomment, ?_⟩
      rw [replace, List.forall₂_map_left_iff] at hfiles
      exact hfiles.imp fun old new hnew => updated_replace hdata hname hnew
    next => cases h

/-! ## The archive written and read back -/

theorem Storable.replace {a : Archive} (h : a.Storable) (name : String) {data : Bytes} (hdata : IsPlain data) :
    (a.replace name data).Storable := by
  refine ⟨h.comment, fun new hnew => ?_, fun new hnew => ?_⟩
  all_goals
    obtain ⟨old, hold, rfl⟩ := List.mem_map.mp hnew
    split
  · exact h.names old hold
  · exact h.names old hold
  · exact hdata
  · exact h.data old hold

/-- New contents leave an archive storable. -/
theorem storable_of_updateAll {a b : Archive} {updates : Table String} (ha : a.Storable)
    (h : a.updateAll updates = .ok b) : b.Storable := by
  induction updates generalizing a with
  | nil =>
    cases h
    exact ha
  | cons u rest ih =>
    rw [updateAll] at h
    split at h
    next mid hmid =>
      obtain ⟨-, data, hdata, rfl⟩ := update_eq_ok hmid
      exact ih (ha.replace _ (isPlain_of_stored hdata)) h
    next => cases h

/-- **Updates touch only what they name.** An archive that was read, updated, written and read again has its comment and
its names as before, the contents of other files unchanged, and the new texts in the files they are for. -/
theorem parse_render_updateAll {d : Bytes} {a b : Archive} {updates : Table String} (hkeys : updates.keys.Nodup)
    (hparse : parse d = .ok a) (h : a.updateAll updates = .ok b) :
    ∃ c, parse b.render = .ok c ∧ c.comment = a.comment ∧
      List.Forall₂ (Updated IsStoredAs updates) a.files c.files := by
  obtain ⟨hacomment, hafiles⟩ := Archive.mk.inj (terminated_of_parse hparse)
  obtain ⟨hcomment, hfiles⟩ := updated_of_updateAll hkeys h
  refine ⟨b.terminated, parse_render (storable_of_updateAll (storable_of_parse hparse) h), ?_, ?_⟩
  · rw [terminated, hcomment, hacomment]
  · rw [terminated, ← hafiles, List.forall₂_map_left_iff, List.forall₂_map_right_iff]
    refine hfiles.imp fun old new hupdated => ⟨hupdated.name, fun hget => ?_, fun text hget => ?_⟩
    · rw [hupdated.kept hget]
    · exact isStoredAs_of_stored (hupdated.stored text hget)

end Rehearsal.Archive
