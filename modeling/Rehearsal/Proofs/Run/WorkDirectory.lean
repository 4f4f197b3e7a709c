import Mathlib
import Rehearsal.Proofs.Files.Glob
import Rehearsal.Run

/-!
# Work directories of a run

The directory that a script gets is called after its name, which is that of its file without the extension. So two files
of a run get directories of their own exactly if their scripts have different names, and neither lies in the other
(`workDirs_apart`). Files with one extension have different names where they are in one directory; a pattern that selects
several extensions can bring two scripts together in one directory (`workDirs_meet`).
-/

namespace Rehearsal.Run

open Files

/-- Neither of two paths leads to the other, or to a place below it. -/
structure Apart (p q : String) : Prop where
  ne : p ≠ q
  below : ¬(p ++ "/").toList <+: q.toList
  above : ¬(q ++ "/").toList <+: p.toList

/-- A tree in which no name has a slash in it. -/
def Named (t : Tree) : Prop := ∀ path e, (path, e) ∈ t.entries → ∀ name ∈ path, '/' ∉ name.toList

/-! ## The name of a directory -/

theorem separator_not_mem_scriptName (file : String) : '/' ∉ (scriptName file).toList := by
  rw [scriptName, String.toList_ofList]
  exact fun h => Path.separator_not_mem_baseChars _ (Path.mem_of_mem_stem h)

/-- Names without slashes that differ make paths that lie apart. -/
theorem apart_join {root p q : String} (hp : '/' ∉ p.toList) (hq : '/' ∉ q.toList) (hne : p ≠ q) :
    Apart (Path.join root p) (Path.join root q) := by
  have hpabs := Path.isAbsolute_eq_false hp
  have hqabs := Path.isAbsolute_eq_false hq
  have hout : ∀ {p q : String}, '/' ∉ q.toList →
      ¬(Path.frontOf root ++ p ++ "/").toList <+: (Path.frontOf root ++ q).toList := by
    intro p q hq hfront
    simp only [String.toList_append, List.append_assoc] at hfront
    rw [List.prefix_append_right_inj] at hfront
    exact hq (hfront.subset (by simp))
  constructor
  case ne => exact fun h => hne (Path.join_injective hpabs hqabs h)
  case below =>
    rw [Path.join_eq_append hpabs, Path.join_eq_append hqabs]
    exact hout hq
  case above =>
    rw [Path.join_eq_append hpabs, Path.join_eq_append hqabs]
    exact hout hp

section

variable {plan : Plan} (platform : Platform) (root : String) (scene : Scene)

/-- The directories of two scripts lie apart exactly if the scripts have different names. -/
theorem apart_workDir_iff (f g : String) :
    Apart (Script.opening plan platform f (scriptName f) root scene).workDir
        (Script.opening plan platform g (scriptName g) root scene).workDir ↔
      scriptName f ≠ scriptName g := by
  have hname : ∀ file : String, '/' ∉ (s!"script-{scriptName file}").toList := by
    intro file h
    rw [String.toList_append, List.mem_append] at h
    rcases h with h | h
    · exact absurd h (by decide)
    · exact separator_not_mem_scriptName file h
  constructor
  · intro h heq
    exact h.ne (congrArg (fun name => Path.join root s!"script-{name}") heq)
  · intro hne
    apply apart_join (hname f) (hname g)
    exact fun h => hne (String.append_right_inj "script-" |>.mp h)

end

/-! ## The files of a run -/

/-- What is selected are scripts of the plan, in their order. -/
theorem sublist_of_select {plan : Plan} {selector : Option String} {d : Disk} {files : List String}
    (h : select plan selector d = .ok files) : files.Sublist (plan.scripts d) := by
  unfold select at h
  split at h
  next => cases h
  next =>
    split at h
    next =>
      cases h
      exact List.Sublist.refl _
    next =>
      split at h
      next => cases h
      next =>
        split at h
        next => cases h
        next =>
          cases h
          exact List.filter_sublist

theorem mem_paths_of_select {plan : Plan} {selector : Option String} {d : Disk} {files : List String}
    (h : select plan selector d = .ok files) {f : String} (hf : f ∈ files) : f ∈ Glob.paths d plan.pattern :=
  List.mem_mergeSort.mp ((sublist_of_select h).subset hf)

theorem pairwise_scripts (plan : Plan) (d : Disk) : (plan.scripts d).Pairwise (· ≤ ·) := List.pairwise_mergeSort' _ _

/-- The files that are selected are sorted. -/
theorem pairwise_of_select {plan : Plan} {selector : Option String} {d : Disk} {files : List String}
    (h : select plan selector d = .ok files) : files.Pairwise (· ≤ ·) :=
  (pairwise_scripts plan d).sublist (sublist_of_select h)

/-- Without a selector all scripts of a plan are selected. -/
theorem select_none {plan : Plan} {d : Disk} {f : String} (h : f ∈ Glob.paths d plan.pattern) :
    select plan none d = .ok (plan.scripts d) := by
  have hmem : f ∈ plan.scripts d := List.mem_mergeSort.mpr h
  unfold select
  split
  next hnil =>
    rw [hnil] at hmem
    cases hmem
  next => rfl

/-- A name that is found in a directory has no slash in it. -/
theorem separator_not_mem_of_mem_namesIn {d : Disk} (hnamed : Named d.tree) {directory pattern name : String}
    {onlyDirectories : Bool} (h : name ∈ Glob.namesIn d directory pattern onlyDirectories) : '/' ∉ name.toList := by
  obtain ⟨⟨place, mode, -, -, hchild⟩, -⟩ := Glob.mem_namesIn_iff.mp h
  obtain ⟨e, hget⟩ := Option.isSome_iff_exists.mp (Tree.mem_children_iff.mp hchild)
  exact hnamed _ e (Tree.mem_entries_of_get? (by simp) hget) name (by simp)

/-- A name that fits a pattern with a star in front does not begin with a dot. -/
theorem fits_of_mem_namesIn {d : Disk} {directory text name : String} {onlyDirectories : Bool}
    (htext : Glob.hasMarks text = false) (h : name ∈ Glob.namesIn d directory ("*" ++ text) onlyDirectories) :
    text.toList <:+ name.toList ∧ name.toList.head? ≠ some '.' := by
  obtain ⟨-, -, hhidden, hfits⟩ := Glob.mem_namesIn_iff.mp h
  have hstar : Glob.isHidden ("*" ++ text) = false := by
    rw [Glob.isHidden, String.startsWith_string_eq_false_iff, String.toList_append]
    rintro ⟨more, hmore⟩
    cases hmore
  refine ⟨(Glob.fitsName_star_iff htext).mp hfits, fun hdot => ?_⟩
  obtain ⟨more, hmore⟩ := List.head?_eq_some_iff.mp hdot
  have hname : Glob.isHidden name = true := by
    rw [Glob.isHidden, String.startsWith_string_iff, hmore]
    exact ⟨more, rfl⟩
  have hpattern := hhidden hname
  rw [hstar] at hpattern
  cases hpattern

/-- A file of a run whose pattern asks for an extension alone is a name with that extension, in the directory of the
run. -/
theorem exists_of_select {plan : Plan} {selector : Option String} {d : Disk} {files : List String} {extension : String}
    (hselect : select plan selector d = .ok files) (hglob : plan.glob = "*." ++ extension)
    (hplain : Glob.hasMarks extension = false) (hslash : '/' ∉ extension.toList)
    (hdir : Glob.hasMarks plan.dir = false) (hnamed : Named d.tree) {f : String} (hf : f ∈ files) :
    ∃ name : String, f = Path.join (Path.parent plan.pattern) name ∧ '/' ∉ name.toList ∧
      ∃ front, name.toList = front ++ '.' :: extension.toList ∧ front ≠ [] ∧ front.head? ≠ some '.' := by
  have htext : Glob.hasMarks ("." ++ extension) = false := by
    rw [Glob.hasMarks_eq_false_iff] at hplain ⊢
    intro c hc
    rw [String.toList_append, List.mem_append] at hc
    rcases hc with hc | hc
    · rw [List.mem_singleton.mp hc]
      decide
    · exact hplain c hc
  have hglob' : plan.glob = "*" ++ ("." ++ extension) := by
    rw [hglob, ← String.append_assoc]
    rfl
  have hglobSlash : '/' ∉ plan.glob.toList := by
    rw [hglob, String.toList_append, List.mem_append, not_or]
    exact ⟨by decide, hslash⟩
  have hbase : Path.baseName plan.pattern = plan.glob := by
    rw [Path.baseName, Plan.pattern, Path.baseChars_join plan.dir hglobSlash, String.ofList_toList]
  have hparent : Glob.hasMarks (Path.parent plan.pattern) = false := Glob.hasMarks_parent_join hglobSlash hdir
  have hmarked : Glob.hasMarks (Path.baseName plan.pattern) = true := by
    rw [hbase, hglob', Glob.hasMarks, String.toList_append, List.any_append]
    rfl
  have hpath := mem_paths_of_select hselect hf
  rw [Glob.paths_eq hparent hmarked, hbase, hglob'] at hpath
  obtain ⟨name, hname, rfl⟩ := List.mem_map.mp hpath
  obtain ⟨⟨front, hfront⟩, hdot⟩ := fits_of_mem_namesIn htext hname
  rw [String.toList_append] at hfront
  refine ⟨name, rfl, separator_not_mem_of_mem_namesIn hnamed hname, front, hfront.symm, ?_, ?_⟩
  · rintro rfl
    rw [← hfront] at hdot
    exact hdot rfl
  · rw [← hfront] at hdot
    cases front with
    | nil => simp
    | cons c more => exact hdot

/-- **Two files of a run get directories that lie apart exactly if their scripts have different names.** They have where
the pattern asks for one extension. -/
theorem workDirs_apart {plan : Plan} {selector : Option String} {d : Disk} {files : List String}
    (hselect : select plan selector d = .ok files) (platform : Platform) (root : String) (scene : Scene) :
    (∀ f ∈ files, ∀ g ∈ files,
      Apart (Script.opening plan platform f (scriptName f) root scene).workDir
          (Script.opening plan platform g (scriptName g) root scene).workDir ↔
        scriptName f ≠ scriptName g) ∧
    ∀ extension : String, plan.glob = "*." ++ extension → Glob.hasMarks extension = false →
      '/' ∉ extension.toList → '.' ∉ extension.toList → Glob.hasMarks plan.dir = false → Named d.tree →
      ∀ f ∈ files, ∀ g ∈ files, f ≠ g →
        Apart (Script.opening plan platform f (scriptName f) root scene).workDir
          (Script.opening plan platform g (scriptName g) root scene).workDir := by
  refine ⟨fun f _ g _ => apart_workDir_iff platform root scene f g, ?_⟩
  intro extension hglob hplain hslash hdot hdir hnamed f hf g hg hne
  rw [apart_workDir_iff]
  intro hsame
  apply hne
  obtain ⟨p, rfl, hp, front, hpfront, hpne, hpdot⟩ :=
    exists_of_select hselect hglob hplain hslash hdir hnamed hf
  obtain ⟨q, rfl, hq, back, hqfront, hqne, hqdot⟩ :=
    exists_of_select hselect hglob hplain hslash hdir hnamed hg
  have hstems := String.ofList_injective hsame
  rw [Path.baseChars_join _ hp, Path.baseChars_join _ hq, hpfront, hqfront, Path.stem_append hpne hpdot hdot,
    Path.stem_append hqne hqdot hdot] at hstems
  have hpq : p = q := String.toList_injective (by rw [hpfront, hqfront, hstems])
  rw [hpq]

example : Plan.usualGlob = "*." ++ "hls" := by decide

/-- The plan that takes the scripts a pattern selects in the directory it begins in. -/
def planOf (pattern : String) : Plan := { Plan.usual with glob := pattern }

/-- A disk with two empty files. -/
def pairDisk (first second : String) : Disk :=
  ⟨⟨[([first], .file 0o644 []), ([second], .file 0o644 [])]⟩, []⟩

theorem named_pairDisk {first second : String} (hfirst : '/' ∉ first.toList) (hsecond : '/' ∉ second.toList) :
    Named (pairDisk first second).tree := by
  intro path e hentry name hname
  rcases List.mem_cons.mp hentry with h | h
  · cases h
    rwa [List.mem_singleton.mp hname]
  · cases List.mem_singleton.mp h
    rwa [List.mem_singleton.mp hname]

/-- The scripts of such a plan are the names in that directory that fit. -/
theorem paths_planOf {pattern : String} {d : Disk} {names : List String} (hslash : '/' ∉ pattern.toList)
    (hmarks : Glob.hasMarks pattern = true) (hnames : Glob.namesIn d "." pattern false = names) :
    Glob.paths d (planOf pattern).pattern = names.map (Path.join ".") := by
  have hparent : Path.parent (planOf pattern).pattern = "." := by
    have hfront : Path.parent (Path.frontOf ".") = "." := by decide +kernel
    exact (Path.parent_join "." hslash).trans hfront
  have hbase : Path.baseName (planOf pattern).pattern = pattern := by
    rw [Path.baseName, show (planOf pattern).pattern = Path.join "." pattern from rfl, Path.baseChars_join "." hslash,
      String.ofList_toList]
  have hplain : Glob.hasMarks (Path.parent (planOf pattern).pattern) = false := by
    rw [hparent]
    decide
  rw [Glob.paths_eq hplain (hbase.symm ▸ hmarks), hparent, hbase, hnames]

/-- Both files are selected if their names fit. -/
theorem select_pair {pattern first second : String} (hslash : '/' ∉ pattern.toList)
    (hmarks : Glob.hasMarks pattern = true) (hhidden : Glob.isHidden first = false ∧ Glob.isHidden second = false)
    (hfits : Glob.fitsName pattern first = true ∧ Glob.fitsName pattern second = true) :
    ∃ files, select (planOf pattern) none (pairDisk first second) = .ok files ∧
      Path.join "." first ∈ files ∧ Path.join "." second ∈ files := by
  have hnames : Glob.namesIn (pairDisk first second) "." pattern false = [first, second] := by
    have hlist : (pairDisk first second).names "." = .ok [first, second] := by cbv
    simp [Glob.namesIn, hlist, hhidden, hfits]
  have hpaths := paths_planOf hslash hmarks hnames
  have hfirst : Path.join "." first ∈ Glob.paths (pairDisk first second) (planOf pattern).pattern := by simp [hpaths]
  have hsecond : Path.join "." second ∈ Glob.paths (pairDisk first second) (planOf pattern).pattern := by simp [hpaths]
  exact ⟨_, select_none hfirst, List.mem_mergeSort.mpr hfirst, List.mem_mergeSort.mpr hsecond⟩

theorem workDirs_apart_pair :
    ∃ files, select (planOf "*.hls") none (pairDisk "a.hls" "b.hls") = .ok files ∧ Path.join "." "a.hls" ∈ files ∧
      Path.join "." "b.hls" ∈ files ∧ ∀ platform root scene,
        Apart (Script.opening (planOf "*.hls") platform "./a.hls" "a" root scene).workDir
          (Script.opening (planOf "*.hls") platform "./b.hls" "b" root scene).workDir := by
  obtain ⟨files, hselect, hf, hg⟩ := @select_pair "*.hls" "a.hls" "b.hls"
    (by decide) (by decide) ⟨by cbv, by cbv⟩ ⟨by cbv, by cbv⟩
  have hjoin : Path.join "." "a.hls" = "./a.hls" ∧ Path.join "." "b.hls" = "./b.hls" := by decide +kernel
  have hname : scriptName "./a.hls" = "a" ∧ scriptName "./b.hls" = "b" := by decide +kernel
  refine ⟨files, hselect, hf, hg, fun platform root scene => ?_⟩
  rw [hjoin.1] at hf
  rw [hjoin.2] at hg
  have hapart := (workDirs_apart hselect platform root scene).2 "hls" rfl (by decide) (by decide) (by decide) (by decide)
    (named_pairDisk (by decide) (by decide)) _ hf _ hg (by decide)
  rwa [hname.1, hname.2] at hapart

/-- Two files of one run that get one directory. -/
theorem workDirs_meet :
    ∃ files, select (planOf "a.*") none (pairDisk "a.hls" "a.txt") = .ok files ∧ Path.join "." "a.hls" ∈ files ∧
      Path.join "." "a.txt" ∈ files ∧ Path.join "." "a.hls" ≠ Path.join "." "a.txt" ∧ ∀ platform root scene,
        (Script.opening (planOf "a.*") platform (Path.join "." "a.hls") (scriptName (Path.join "." "a.hls")) root
            scene).workDir =
          (Script.opening (planOf "a.*") platform (Path.join "." "a.txt") (scriptName (Path.join "." "a.txt")) root
            scene).workDir := by
  obtain ⟨files, hselect, hf, hg⟩ := @select_pair "a.*" "a.hls" "a.txt"
    (by decide) (by decide) ⟨by cbv, by cbv⟩ ⟨by cbv, by cbv⟩
  have hname : scriptName (Path.join "." "a.hls") = scriptName (Path.join "." "a.txt") := by decide +kernel
  refine ⟨files, hselect, hf, hg, by decide +kernel, fun platform root scene => ?_⟩
  exact congrArg (fun name => Path.join root s!"script-{name}") hname

end Rehearsal.Run
