import Rehearsal.Proofs.Files.Glob
import Rehearsal.Proofs.Run.WorkDirectory

/-!
# Scripts of a run

The scripts of a run are found by the path that its pattern makes when it is read from its directory. They come in order, each
once, and that there are none is an error. Where the path of the directory has no marks they are the entries of that directory
whose names fit the pattern. A bracket, a star or a question mark in it is a mark like those of the pattern: then directories
whose paths fit are searched, and the very directory is searched only if its path fits itself (`scripts_selected`).
-/

namespace Rehearsal

open Files

/-- The directory of a plan, as it stands in the paths of the scripts that are found there. -/
def Plan.folder (plan : Plan) : String := Glob.folderOf plan.dir plan.glob

namespace Run

variable {plan : Plan} {d : Disk}

/-- What is found for a plan. -/
structure Finds (plan : Plan) (d : Disk) : Prop where
  sorted : (plan.scripts d).Pairwise (· < ·)
  told : select plan none d = if plan.scripts d = [] then .error (.noScripts plan.pattern) else .ok (plan.scripts d)
  found : ∀ file, file ∈ plan.scripts d ↔ ∃ folder, Glob.FitsPath d plan.folder folder ∧ ∃ name,
    Glob.Picks d folder plan.glob name ∧ file = Path.join folder name

/-- The scripts of a plan are the entries of its very directory that its pattern selects. -/
def FromDirectory (plan : Plan) (d : Disk) : Prop :=
  ∀ file, file ∈ plan.scripts d ↔
    ∃ name, Glob.Selects d plan.folder plan.glob name ∧ file = Path.join plan.folder name

/-- Nothing is found outside the very directory of a plan, and what its pattern selects there is found. -/
structure KeepsToDirectory (plan : Plan) (d : Disk) : Prop where
  others : ∀ folder, Glob.FitsPath d plan.folder folder → folder ≠ plan.folder →
    ∀ name, ¬Glob.Selects d folder plan.glob name
  itself : ∀ name, Glob.Selects d plan.folder plan.glob name → Glob.FitsPath d plan.folder plan.folder
  dots : Glob.IsDots plan.glob → ∀ folder, Glob.FitsPath d plan.folder folder →
    d.present (Path.join folder plan.glob) = false

theorem finds (hsound : d.tree.Sound) (hkeyed : d.tree.Keyed) (hglob : Glob.IsSingle plan.glob) : Finds plan d := by
  constructor
  case sorted =>
    have hnodup : (plan.scripts d).Nodup :=
      (List.mergeSort_perm _ _).nodup_iff.mpr (Glob.nodup_paths_join hsound hkeyed plan.dir hglob)
    exact ((pairwise_scripts plan d).and hnodup).imp fun h => lt_of_le_of_ne h.1 h.2
  case told =>
    split
    next hnone => rw [select, hnone]
    next hsome =>
      obtain ⟨file, hfile⟩ := List.exists_mem_of_ne_nil _ hsome
      exact select_none (List.mem_mergeSort.mp hfile)
  case found =>
    intro file
    rw [Plan.scripts, List.mem_mergeSort, Plan.pattern, Glob.mem_paths_join_iff hsound plan.dir hglob]
    rfl

theorem fromDirectory_iff (hsound : d.tree.Sound) (hkeyed : d.tree.Keyed) (hglob : Glob.IsSingle plan.glob) :
    FromDirectory plan d ↔ KeepsToDirectory plan d := by
  have hfound := (finds hsound hkeyed hglob).found
  constructor
  · intro h
    constructor
    case others =>
      intro folder hfits hne name hname
      obtain ⟨name', hname', hjoin⟩ := (h _).mp ((hfound _).mpr ⟨folder, hfits, name, .inl hname, rfl⟩)
      exact hne (hfits.join_inj hsound hglob.slash (hname.isEntryName hsound).slash (hname'.isEntryName hsound).slash hjoin).1
    case itself =>
      intro name hname
      obtain ⟨folder, hfits, name', hname', hjoin⟩ := (hfound _).mp ((h _).mpr ⟨name, hname, rfl⟩)
      obtain ⟨rfl, -⟩ := hfits.join_inj hsound hglob.slash (hname'.isSingle hsound hglob).slash
        (hname.isEntryName hsound).slash hjoin.symm
      exact hfits
    case dots =>
      intro hdots folder hfits
      rw [Bool.eq_false_iff]
      intro hpresent
      obtain ⟨name, hname, hjoin⟩ :=
        (h _).mp ((hfound _).mpr ⟨folder, hfits, plan.glob, .inr ⟨hdots, rfl, hpresent⟩, rfl⟩)
      have hentry := hname.isEntryName hsound
      obtain rfl := (hfits.join_inj hsound hglob.slash hglob.slash hentry.slash hjoin).2
      exact hdots.elim hentry.dot hentry.dots
  · intro h file
    rw [hfound]
    constructor
    · rintro ⟨folder, hfits, name, hname | ⟨hdots, -, hpresent⟩, rfl⟩
      · obtain rfl : folder = plan.folder := by
          by_contra hne
          exact h.others folder hfits hne name hname
        exact ⟨name, hname, rfl⟩
      · rw [h.dots hdots folder hfits] at hpresent
        cases hpresent
    · rintro ⟨name, hname, rfl⟩
      exact ⟨plan.folder, h.itself name hname, name, .inl hname, rfl⟩

/-- A path without marks is fitted by itself alone. -/
theorem keepsToDirectory (hglob : Glob.IsSingle plan.glob) (hmarks : Glob.hasMarks plan.dir = false)
    (hdots : ¬Glob.IsDots plan.glob) : KeepsToDirectory plan d := by
  have hplain : Glob.hasMarks plan.folder = false := Glob.hasMarks_folderOf hglob.slash hmarks
  constructor
  case others => exact fun folder hfits hne => absurd ((Glob.fitsPath_iff_of_plain hplain).mp hfits) hne
  case itself => exact fun _ _ => .plain hplain
  case dots => exact fun h => absurd h hdots

/-- **The scripts of a run are found in order, each once, in the directories that fit the path of its directory.** They are the
entries of that very directory exactly if nothing is found in others and it fits itself where it holds any, which is so where its
path has no marks. -/
theorem scripts_selected (hsound : d.tree.Sound) (hkeyed : d.tree.Keyed) (hglob : Glob.IsSingle plan.glob) :
    Finds plan d ∧ (FromDirectory plan d ↔ KeepsToDirectory plan d) ∧
      (Glob.hasMarks plan.dir = false → ¬Glob.IsDots plan.glob → FromDirectory plan d) ∧
      (plan.dir.utf8ByteSize ≤ maxPath → ∀ place mode,
        d.find true (Glob.opened plan.folder) = .ok (place, .directory mode) ↔
          d.find true (Glob.opened plan.dir) = .ok (place, .directory mode)) := by
  have hiff := fromDirectory_iff hsound hkeyed hglob
  exact ⟨finds hsound hkeyed hglob, hiff, fun hmarks hdots => hiff.mpr (keepsToDirectory hglob hmarks hdots),
    fun hshort _ _ => Glob.find_folderOf hglob.slash hshort⟩

/-- The plan that takes the usual scripts of a directory. -/
def planIn (dir : String) : Plan := { Plan.usual with dir := dir }

/-- A disk with a directory whose name has brackets around a letter, and one that is called after the letter. -/
def bracketDisk : Disk :=
  ⟨⟨[(["[x]"], .directory 0o755), (["[x]", "a.hls"], .file 0o644 []), (["x"], .directory 0o755),
    (["x", "b.hls"], .file 0o644 [])]⟩, []⟩

theorem sound_bracketDisk : bracketDisk.tree.Sound := Tree.sound_of_entries (by decide) (by decide)

theorem keyed_bracketDisk : bracketDisk.tree.Keyed := by
  unfold Tree.Keyed
  decide

/-- The file of the directory that is called after the letter is found there. -/
theorem scripts_selected_letter :
    bracketDisk.tree.Sound ∧ bracketDisk.tree.Keyed ∧ Glob.IsSingle (planIn "x").glob ∧
      Finds (planIn "x") bracketDisk ∧ FromDirectory (planIn "x") bracketDisk := by
  have hglob : Glob.IsSingle (planIn "x").glob := ⟨by decide, by decide⟩
  have hdots : ¬Glob.IsDots (planIn "x").glob := by
    rintro (h | h) <;> exact absurd h (by decide)
  obtain ⟨hfinds, -, hdirectory, -⟩ := scripts_selected sound_bracketDisk keyed_bracketDisk hglob
  exact ⟨sound_bracketDisk, keyed_bracketDisk, hglob, hfinds, hdirectory (by decide) hdots⟩

/-- The directory that is called after the letter is found for the one with the brackets. -/
theorem fitting_brackets : Glob.fitting bracketDisk "[x]" 9 = ["x"] := by
  have hlast : Path.baseName "[x]" = "[x]" := by decide
  have hfront : Glob.fitting bracketDisk (Path.parent "[x]") 8 = [""] := by
    rw [Glob.fitting, if_neg (by decide), show Path.parent "[x]" = "" by decide]
  have hselected : Glob.selected bracketDisk true "" "[x]" = ["x"] := by
    have hnames : bracketDisk.names "." = .ok ["[x]", "x"] := by cbv
    have hfits : Glob.fitsName "[x]" "[x]" = false ∧ Glob.fitsName "[x]" "x" = true := ⟨by cbv, by cbv⟩
    have hshown : Glob.isHidden "x" = false ∧ bracketDisk.isDirectory "./x" = true := ⟨by cbv, by cbv⟩
    have hjoin : Path.join "." "x" = "./x" := by decide +kernel
    rw [Glob.selected, if_pos (by decide)]
    simp [Glob.namesIn, hnames, hfits, hshown, hjoin]
  rw [Glob.fitting, if_pos (by decide), Glob.pathsFrom_succ bracketDisk true 8 (by decide) (by decide), hfront, hlast,
    List.flatMap_singleton, hselected, Path.join_empty, List.map_id]

theorem scripts_brackets : (planIn "[x]").scripts bracketDisk = ["x/b.hls"] := by
  have hfolder : Glob.folderOf "[x]" "*.hls" = "[x]" := by decide +kernel
  have hlength : (Path.join "[x]" "*.hls").length = 9 := by decide +kernel
  have hselected : Glob.selected bracketDisk false "x" "*.hls" = ["b.hls"] := by
    have hnames : bracketDisk.names "x" = .ok ["b.hls"] := by cbv
    have hfits : Glob.fitsName "*.hls" "b.hls" = true ∧ Glob.isHidden "b.hls" = false := ⟨by cbv, by cbv⟩
    rw [Glob.selected, if_pos (by decide)]
    simp [Glob.namesIn, hnames, hfits]
  have hjoin : Path.join "x" "b.hls" = "x/b.hls" := by decide +kernel
  have hglob : Glob.IsSingle "*.hls" := ⟨by decide, by decide⟩
  have hpaths : Glob.paths bracketDisk (planIn "[x]").pattern = ["x/b.hls"] := by
    refine (Glob.paths_join bracketDisk "[x]" hglob).trans ?_
    rw [hfolder, hlength, fitting_brackets, List.flatMap_singleton, hselected, List.map_singleton, hjoin]
  rw [Plan.scripts, hpaths, List.mergeSort_singleton]

/-- With brackets in its path the script of a directory is passed over, and that of another is found. -/
theorem scripts_beside :
    (planIn "[x]").folder = "[x]" ∧ Glob.Selects bracketDisk "[x]" "*.hls" "a.hls" ∧
      (planIn "[x]").scripts bracketDisk = ["x/b.hls"] ∧ ¬FromDirectory (planIn "[x]") bracketDisk := by
  have hfolder : (planIn "[x]").folder = "[x]" := by
    show Glob.folderOf "[x]" "*.hls" = "[x]"
    decide +kernel
  have hselects : Glob.Selects bracketDisk "[x]" "*.hls" "a.hls" := by
    have hplain : Glob.isHidden "a.hls" = false := by cbv
    refine ⟨⟨["[x]"], 0o755, by cbv, by cbv, ?_⟩, by cbv, fun hhidden => ?_⟩
    · rw [if_pos (by decide)]
      decide
    · rw [hplain] at hhidden
      cases hhidden
  refine ⟨hfolder, hselects, scripts_brackets, fun h => ?_⟩
  have hmem := (h "[x]/a.hls").mpr ⟨"a.hls", by rwa [hfolder], by rw [hfolder]; decide +kernel⟩
  rw [scripts_brackets] at hmem
  exact absurd hmem (by decide)

end Run

end Rehearsal
