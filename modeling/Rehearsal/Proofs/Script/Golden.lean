import Rehearsal.Proofs.Archive.Update
import Rehearsal.Proofs.Files.Access
import Rehearsal.Proofs.Step

/-!
# Storing golden files

New contents go into the script file together or not at all: `storeUpdates_all_or_nothing`. What the file reads as
afterwards is an archive with the same comment and the same names, of which nothing has changed but what was named.
-/

namespace Rehearsal.Script

open Step (eval)

/-- Writing an archive writes the script file, and nothing else of the disk. -/
theorem write_of_writeArchive {s s' : Script} {a : Archive} (h : eval (writeArchive a) s = (.ok (), s')) :
    s'.file = s.file ∧ eval (Files.Access.write (Path.clean s.file) a.render) s.scene.disk = (.ok (), s'.scene.disk) := by
  rw [writeArchive, Step.eval_get_bind, Step.eval_bind, eval_attempt, eval_files] at h
  rcases hwrite : eval (Files.Access.write (Path.clean s.file) a.render) s.scene.disk with ⟨e | u, disk⟩
  all_goals rw [hwrite] at h
  case error => cases e <;> cases h
  case ok =>
    obtain ⟨-, rfl⟩ := Prod.mk.inj h
    constructor <;> simp only [logLine, Script.write]

/-- An archive that was written stands in the script file, as far as its file could be read before. -/
theorem read_of_writeArchive {s s' : Script} {d : Bytes} {a : Archive}
    (hread : s.scene.disk.read (Path.clean s.file) = .ok d) (hd : d ≠ [])
    (h : eval (writeArchive a) s = (.ok (), s')) : s'.scene.disk.read (Path.clean s.file) = .ok a.render :=
  Files.Disk.read_of_write hread hd (write_of_writeArchive h).2

/-- An archive that could not be written left everything as it was. -/
theorem writeArchive_refused {s s' : Script} {a : Archive} {f : Fault}
    (h : eval (writeArchive a) s = (.error f, s')) :
    s' = s ∧ ∃ e, f = .mismatch (.scriptFile e) ∨ f = .accident (.file e) := by
  rw [writeArchive, Step.eval_get_bind, Step.eval_bind, eval_attempt, eval_files] at h
  rcases hwrite : eval (Files.Access.write (Path.clean s.file) a.render) s.scene.disk with ⟨e | u, disk⟩
  all_goals rw [hwrite] at h
  case error =>
    obtain rfl := Files.Access.write_refused hwrite
    cases e with
    | refused why path link =>
      cases h
      exact ⟨rfl, _, .inl rfl⟩
    | nullCharacter =>
      cases h
      exact ⟨rfl, _, .inr rfl⟩
  case ok => cases h

/-- An archive is written where the script file may be written. -/
theorem writeArchive_succeeds {s : Script} {path : List String} {mode : Nat} {old : Bytes}
    (hfind : s.scene.disk.find true (Path.clean s.file) = .ok (path, .file mode old))
    (hmode : (Files.Entry.file mode old).allows Files.writeBit) (a : Archive) :
    ∃ s', eval (writeArchive a) s = (.ok (), s') := by
  have hwrite := Files.Access.eval_write_of_find hfind a.render
  rw [if_pos hmode] at hwrite
  rw [writeArchive, Step.eval_get_bind, Step.eval_bind, eval_attempt, eval_files, hwrite]
  exact ⟨_, rfl⟩

/-- Updates are stored by writing the archive that takes them, or refused. -/
theorem eval_storeUpdates {s : Script} {a : Archive} (harchive : s.archive = some a) (hupdates : s.updates ≠ []) :
    eval storeUpdates s =
      match a.updateAll s.updates with
      | .ok b => eval (writeArchive b) s
      | .error e => (.error (updateFault s.file e), s) := by
  have hempty : s.updates.isEmpty = false := by simpa using hupdates
  rw [storeUpdates, Step.eval_get_bind]
  simp only [hempty, Bool.false_eq_true, if_false, harchive]
  cases a.updateAll s.updates <;> rfl

/-- Updates that the archive takes are stored where the script file may be written. -/
theorem storeUpdates_succeeds {s : Script} {a : Archive} {path : List String} {mode : Nat} {old : Bytes}
    (harchive : s.archive = some a) (hupdates : s.updates ≠ []) (htakes : ¬a.Refuses s.updates)
    (hfind : s.scene.disk.find true (Path.clean s.file) = .ok (path, .file mode old))
    (hmode : (Files.Entry.file mode old).allows Files.writeBit) : ∃ s', eval storeUpdates s = (.ok (), s') := by
  rw [eval_storeUpdates harchive hupdates]
  cases hall : a.updateAll s.updates with
  | error e => exact absurd (Archive.updateAll_refuses_iff.mp ⟨e, hall⟩) htakes
  | ok b => exact writeArchive_succeeds hfind hmode b

/-- **Golden files are stored together or not at all, and nothing else is touched.** -/
theorem storeUpdates_all_or_nothing {s : Script} {d : Bytes} {a : Archive}
    (hread : s.scene.disk.read (Path.clean s.file) = .ok d) (hparse : Archive.parse d = .ok a)
    (harchive : s.archive = some a) (hupdates : s.updates ≠ []) (hkeys : s.updates.keys.Nodup) :
    (∀ s', eval storeUpdates s = (.ok (), s') →
      ∃ data b, s'.scene.disk.read (Path.clean s.file) = .ok data ∧ Archive.parse data = .ok b ∧
        b.comment = a.comment ∧ List.Forall₂ (Archive.Updated Archive.IsStoredAs s.updates) a.files b.files) ∧
    (∀ f s', eval storeUpdates s = (.error f, s') → s'.scene.disk.read (Path.clean s.file) = .ok d) ∧
    (a.Refuses s.updates ↔ ∃ e s', eval storeUpdates s = (.error (updateFault s.file e), s')) := by
  rw [eval_storeUpdates harchive hupdates, ← Archive.updateAll_refuses_iff]
  cases hall : a.updateAll s.updates with
  | error e =>
    refine ⟨fun s' h => (by cases h), fun f s' h => ?_, iff_of_true ⟨e, rfl⟩ ⟨e, s, rfl⟩⟩
    cases h
    exact hread
  | ok b =>
    -- An archive without files takes no updates, so the script file is not empty.
    have hd : d ≠ [] := by
      rintro rfl
      rw [Archive.parse_nil] at hparse
      cases hparse
      obtain ⟨u, hu⟩ := List.exists_mem_of_ne_nil _ hupdates
      have hrefuses : Archive.empty.Refuses s.updates := ⟨u, hu, .inl fun f hf => absurd hf List.not_mem_nil⟩
      obtain ⟨e, he⟩ := Archive.updateAll_refuses_iff.mpr hrefuses
      rw [hall] at he
      cases he
    refine ⟨fun s' h => ?_, fun f s' h => ?_, iff_of_false (by simp) ?_⟩
    · obtain ⟨c, hc, hcomment, hfiles⟩ := Archive.parse_render_updateAll hkeys hparse hall
      exact ⟨b.render, c, read_of_writeArchive hread hd h, hc, hcomment, hfiles⟩
    · obtain ⟨rfl, -⟩ := writeArchive_refused h
      exact hread
    · rintro ⟨e, s', h⟩
      obtain ⟨-, e', hf | hf⟩ := writeArchive_refused h
      · cases e <;> cases hf
      · cases e <;> cases hf

/-- A script file with a golden file in it. -/
def goldenText : Bytes := Bytes.ascii "cmp stdout out\n-- out --\nold\n"

/-- What is read of it. -/
def goldenArchive : Archive := ⟨Bytes.ascii "cmp stdout out\n", [⟨"out", Bytes.ascii "old\n"⟩]⟩

/-- A script that found its golden file to be out of date. What is written now would read as part of the archive. -/
def goldenScript : Script :=
  { (default : Script) with
    file := "a"
    archive := some goldenArchive
    updates := [("out", "-- new --\n")]
    scene := .ofDisk ⟨⟨[(["a"], .file 0o644 goldenText)]⟩, []⟩ [] }

theorem storeUpdates_all_or_nothing_golden :
    goldenScript.scene.disk.read (Path.clean goldenScript.file) = .ok goldenText ∧
      ∃ s' data b, eval storeUpdates goldenScript = (.ok (), s') ∧
        s'.scene.disk.read (Path.clean goldenScript.file) = .ok data ∧ Archive.parse data = .ok b ∧
        b.comment = goldenArchive.comment ∧
          List.Forall₂ (Archive.Updated Archive.IsStoredAs goldenScript.updates) goldenArchive.files b.files := by
  have hclean : Path.clean "a" = "a" := by cbv
  have hlocate : Files.locate goldenScript.scene.disk.tree goldenScript.scene.disk.base true "a" =
      .ok (.entry ["a"] (.file 0o644 goldenText)) := by cbv
  have hnull : "a".contains '\x00' = false := by rw [String.contains_char_eq]; decide
  have hfind : goldenScript.scene.disk.find true (Path.clean goldenScript.file) =
      .ok (["a"], .file 0o644 goldenText) := by
    rw [show goldenScript.file = "a" from rfl, hclean]
    exact Files.Disk.find_eq_file.mpr ⟨hnull, by cbv, hlocate⟩
  have hread := Files.Disk.read_of_find hfind rfl
  have hparse : Archive.parse goldenText = .ok goldenArchive := (Archive.parse_eq_ofLines _).trans (by cbv)
  have hupdates : goldenScript.updates ≠ [] := List.cons_ne_nil _ _
  have htakes : ¬goldenArchive.Refuses goldenScript.updates := by
    rw [← Archive.updateAll_refuses_iff]
    have hall : (goldenArchive.updateAll goldenScript.updates).toBool = true := by decide +kernel
    rintro ⟨e, he⟩
    rw [he] at hall
    cases hall
  obtain ⟨s', hrun⟩ := storeUpdates_succeeds rfl hupdates htakes hfind (by decide)
  obtain ⟨data, b, hlaw⟩ := (storeUpdates_all_or_nothing hread hparse rfl hupdates (by decide)).1 s' hrun
  exact ⟨hread, s', data, b, hrun, hlaw⟩

end Rehearsal.Script
