import Rehearsal.Proofs.Archive.Scan
import Rehearsal.Proofs.Expansion
import Rehearsal.Proofs.Files.Laying
import Rehearsal.Proofs.Script.Course
import Rehearsal.Proofs.Script.Setup

/-!
# Where a script finds itself

Before its first line a script gets its directory, one for temporary files in it, and the files of its archive.
`workplace_of_first_line` says what is on the disk then, whatever was there before: all of that, and everything that was
there, but for the contents of files that the archive has others for. So the directory of a script holds its own files and
no others exactly if it held nothing in any other place before. A directory that is kept from one run to the next does
(`leftover_stays`).
-/

namespace Rehearsal.Script

open Step (eval Keeps Lasting)
open Files (Disk Entry)
open Files.Access (Fronts)

/-! ## Files in their places -/

/-- Files in their places lay what each of them may. -/
theorem lays_extractAll {P : String → Entry → Prop} {files : List Archive.File} {s t : Script}
    (hfront : ∀ f ∈ files, ∀ q, Fronts (Path.parent (s.placeOf f)) q → P q (.directory Files.newDirectoryMode))
    (hfile : ∀ f ∈ files, ∀ mode, P (Path.clean (s.placeOf f)) (.file mode f.data))
    (h : eval (extractAll files) s = (.ok (), t)) : s.scene.disk.Lays P t.scene.disk := by
  induction files generalizing s with
  | nil =>
    obtain ⟨-, rfl⟩ := Prod.mk.inj h
    exact Lasting.refl _
  | cons f rest ih =>
    obtain ⟨disk, hplace, hrest⟩ := place_of_extractAll h
    have hlaid := Files.Access.lays_place (hfront f List.mem_cons_self) (hfile f List.mem_cons_self) s.scene.disk
    rw [Keeps, hplace] at hlaid
    have hmore := @ih (s.extracting f disk) (fun g hg => hfront g (List.mem_cons_of_mem f hg))
      (fun g hg => hfile g (List.mem_cons_of_mem f hg)) hrest
    exact Lasting.trans hlaid hmore

/-- A file that was put in its place is there, and holds what it held in the archive unless a later one leads there too. -/
theorem find_of_extractAll {before after : List Archive.File} {f : Archive.File} {s t : Script}
    (h : eval (extractAll (before ++ f :: after)) s = (.ok (), t)) :
    ∃ r e, t.scene.disk.find true (Path.clean (s.placeOf f)) = .ok (r, e) ∧ e.isDirectory = false ∧
      ((∀ g ∈ after, ∀ e', t.scene.disk.find true (Path.clean (s.placeOf g)) ≠ .ok (r, e')) →
        ∀ mode data, e = .file mode data → data = f.data) := by
  induction before generalizing s with
  | cons g rest ih =>
    obtain ⟨disk, -, hrest⟩ := place_of_extractAll h
    exact @ih (s.extracting g disk) hrest
  | nil =>
    obtain ⟨disk, hplace, hafter⟩ := place_of_extractAll h
    obtain ⟨r, e, hfind, hdir, hdata⟩ := Files.Access.find_of_place hplace
    -- What the later files lay is a directory, or stands where one of them leads.
    let later : String → Entry → Prop := fun p e => e.isDirectory = true ∨ ∃ g ∈ after, p = Path.clean (s.placeOf g)
    have hlays : disk.Lays later t.scene.disk :=
      lays_extractAll (fun _ _ _ _ => .inl rfl) (fun g hg _ => .inr ⟨g, hg, rfl⟩) hafter
    obtain ⟨e', hfind', hsame⟩ := hlays.grows.find hfind
    have hdir' : e'.isDirectory = false := by rw [hsame.isDirectory_eq, hdir]
    refine ⟨r, e', hfind', hdir', fun hlast mode data he => ?_⟩
    rcases hlays.only r e' (Disk.get?_of_find hfind') with hold | ⟨p, hp, hlaid⟩
    · obtain rfl := Disk.eq_of_find hfind hold
      exact hdata mode data he
    · rcases hp with hdirectory | ⟨g, hg, rfl⟩
      · rw [hdir'] at hdirectory
        cases hdirectory
      · exact absurd hlaid (hlast g hg e')

/-! ## What is shown and timed -/

/-- A script of which nothing but the transcript has changed. -/
def Shown (s t : Script) : Prop := ∃ log mark, t = { s with log, mark }

instance : Lasting Shown where
  refl s := ⟨s.log, s.mark, rfl⟩
  trans := by
    rintro s _ _ ⟨log, mark, rfl⟩ ⟨log', mark', rfl⟩
    exact ⟨log', mark', rfl⟩

theorem shown_env (s : Script) : Keeps Shown (Command.env .plain []) s := by
  refine Step.keeps_bind (Step.keeps_pure _ s) fun _ t _ => Step.keeps_get_bind ?_
  refine Step.keeps_bind (Step.keeps_forIn (fun key _ u => ?_) t) fun _ u _ => Step.keeps_pure _ u
  refine Step.keeps_bind (Step.keeps_get_bind (Step.keeps_modify ?_)) fun _ v _ => Step.keeps_pure _ v
  exact ⟨_, _, rfl⟩

/-- Showing the variables changes nothing but the transcript, whatever commands the host brings. -/
theorem shown_showVariables (host : Host) (s : Script) : Keeps Shown (showVariables host) s := by
  refine Step.keeps_get_bind ?_
  split
  · have hbuiltin : Registry.layered (Command.builtin host) host.commands "env" = some Command.env := rfl
    refine Step.keeps_bind ?_ fun _ t _ => Step.keeps_modify ⟨_, _, rfl⟩
    have henv := shown_env s
    rw [Keeps] at henv ⊢
    rw [Command.eval_dispatch hbuiltin]
    rcases hrun : eval (Command.env .plain []) s with ⟨f | u, t⟩
    all_goals rw [hrun] at henv
    · obtain hsame | ⟨line, hline⟩ := Command.judge_logs .plain "env" f t
      · dsimp only
        rwa [hsame]
      · dsimp only
        rw [hline]
        exact Lasting.trans henv ⟨_, _, rfl⟩
    · exact henv
  · exact Step.keeps_pure _ s

theorem exists_of_startTimer {s t : Script} (h : eval startTimer s = (.ok (), t)) : ∃ cancelAt, t = { s with cancelAt } := by
  rw [eval_startTimer] at h
  split at h
  · obtain ⟨-, rfl⟩ := Prod.mk.inj h
    exact ⟨s.cancelAt, rfl⟩
  · split at h
    next cancelAt _ =>
      obtain ⟨-, rfl⟩ := Prod.mk.inj h
      exact ⟨cancelAt, rfl⟩
    next => cases h

/-! ## Before the first line -/

/-- What may be laid for a script under a path: the directory for its temporary files, the files of its archive, and the
directories in front of these. -/
inductive Laid (workDir : String) (place : Archive.File → String) (files : List Archive.File) : String → Entry → Prop
  | temporary {p : String} {mode : Nat} (front : Fronts (Path.join workDir "tmp") p) :
    Laid workDir place files p (.directory mode)
  | directory {f : Archive.File} {p : String} {mode : Nat} (mem : f ∈ files) (front : Fronts (Path.parent (place f)) p) :
    Laid workDir place files p (.directory mode)
  | file {f : Archive.File} {mode : Nat} (mem : f ∈ files) :
    Laid workDir place files (Path.clean (place f)) (.file mode f.data)

/-- What a script finds that has files in an archive and a directory with the names `top`, where the disk was `d`. -/
structure Workplace (d : Disk) (s : Script) (files : List Archive.File) (top : List String) : Prop where
  /-- The files are those of its archive. -/
  archive : s.archive.map (·.files) = some files
  /-- Its directory is there. -/
  directory : ∃ mode, s.scene.disk.find true s.workDir = .ok (top, .directory mode)
  /-- There is a directory for temporary files in it. -/
  temporary : s.scene.disk.isDirectory (Path.join s.workDir "tmp") = true
  /-- Every file is there with what it held in the archive, unless a later one leads there too. -/
  contents : ∀ before f after, files = before ++ f :: after →
    ∃ r e, s.scene.disk.find true (Path.clean (s.placeOf f)) = .ok (r, e) ∧ e.isDirectory = false ∧
      ((∀ g ∈ after, ∀ e', s.scene.disk.find true (Path.clean (s.placeOf g)) ≠ .ok (r, e')) →
        ∀ mode data, e = .file mode data → data = f.data)
  /-- Whatever else there is was there before. -/
  lays : d.Lays (Laid s.workDir s.placeOf files) s.scene.disk
  /-- In its directory there is nothing else exactly if there was nothing at any other place before. -/
  fresh_iff : s.scene.disk.HoldsOnly (Laid s.workDir s.placeOf files) top ↔
    ∀ below old, below ≠ [] → d.tree.get? (top ++ below) = some old →
      ∃ p e, Laid s.workDir s.placeOf files p e ∧ s.scene.disk.find true p = .ok (top ++ below, e)

theorem begun_workDir (s : Script) (front : Front) (settings : Option Frontmatter) :
    (s.begun front settings).workDir = s.workDir ∧ (s.begun front settings).scene.disk = front.disk := by
  cases settings <;> exact ⟨rfl, rfl⟩

/-- The last name of a path that is read from a directory. -/
theorem splitLastName_join (base : String) {name : String} (hne : name ≠ "") (hslash : '/' ∉ name.toList) :
    (Files.Access.splitLastName (Path.join base name)).2 = name := by
  have hbase : Path.baseName (Path.join base name) = name := by
    rw [Path.baseName, Path.baseChars_join base hslash, String.ofList_toList]
  unfold Files.Access.splitLastName Files.Access.splitLast
  simp only [hbase]
  rw [if_neg (by simpa using hne)]

/-- What a script finds whose files were put in their places. -/
theorem workplace_of_extractAll {s t : Script} {front : Front} {settings : Option Frontmatter} {body : String}
    (hwork : s.workDir ≠ "") (hbegins : s.Begins front settings body)
    (h : eval (extractAll front.archive.files) (s.begun front settings) = (.ok (), t)) :
    ∃ top, Workplace s.scene.disk t front.archive.files top := by
  obtain ⟨hdirectory, hdisk⟩ := begun_workDir s front settings
  obtain ⟨-, harchive, -⟩ := begun_eq front settings s
  obtain ⟨extracted, disk, ht⟩ := exists_of_extractAll h
  have hplace : t.placeOf = (s.begun front settings).placeOf := by rw [ht]; rfl
  have hdir : t.workDir = s.workDir := by rw [ht]; exact hdirectory
  let laid := Laid t.workDir t.placeOf front.archive.files
  -- The directory for temporary files was made first.
  have hmade := hbegins.made
  have hfirst : s.scene.disk.Lays laid front.disk := by
    have hlays := Files.Access.lays_makeDirectories (P := laid) (fun q hq => .temporary (hdir ▸ hq)) s.scene.disk
    rwa [Keeps, hmade] at hlays
  have hrest : front.disk.Lays laid t.scene.disk := by
    rw [← hdisk]
    exact lays_extractAll (fun f hf q hq => .directory hf (hplace ▸ hq)) (fun f hf mode => hplace ▸ .file hf) h
  have hlays := Lasting.trans hfirst hrest
  have htemporary : t.scene.disk.isDirectory (Path.join t.workDir "tmp") = true := by
    rw [hdir]
    apply hrest.grows.isDirectory
    apply Files.Access.isDirectory_of_makeDirectories _ hmade
    rw [splitLastName_join s.workDir (by decide) (by decide)]
    decide
  obtain ⟨top, mode, htop⟩ := Disk.exists_directory_of_join (hdir ▸ hwork) (by decide) (by decide) htemporary
  refine ⟨top, ?_, ⟨mode, htop⟩, htemporary, fun before f after hfiles => ?_, hlays, hlays.holdsOnly_iff top⟩
  · rw [ht]
    exact congrArg (Option.map Archive.files) harchive
  · rw [hfiles] at h
    rw [hplace]
    exact find_of_extractAll h

/-- The variables of a script that has come to its first file are in its table. -/
theorem known_begun {s : Script} (h : s.known = Environment.table s.platform s.entries) (front : Front)
    (settings : Option Frontmatter) :
    (s.begun front settings).known = Environment.table (s.begun front settings).platform (s.begun front settings).entries := by
  cases settings with
  | none => exact h
  | some settings => rfl

theorem retabled_eq {s : Script} (h : s.known = Environment.table s.platform s.entries) : s.retabled = s := by
  rw [retabled, ← h]

/-- Putting files in their places leaves the variables as they are. -/
theorem retabled_of_extractAll {files : List Archive.File} {s t : Script}
    (hknown : s.known = Environment.table s.platform s.entries) (h : eval (extractAll files) s = (.ok (), t)) :
    t.retabled = t := by
  obtain ⟨extracted, disk, rfl⟩ := exists_of_extractAll h
  exact retabled_eq hknown

/-- What stands before the first line of a script leaves the disk as it was set up. -/
theorem Workplace.of_shown {d : Disk} {s t u : Script} {files : List Archive.File} {top : List String}
    (h : Workplace d s files top) (htimer : eval startTimer s = (.ok (), t)) (hshown : Shown t u) :
    Workplace d u files top := by
  obtain ⟨cancelAt, rfl⟩ := exists_of_startTimer htimer
  obtain ⟨log, mark, rfl⟩ := hshown
  exact ⟨h.archive, h.directory, h.temporary, h.contents, h.lays, h.fresh_iff⟩

section

variable (plan : Plan) (platform : Platform) (file name root : String) (scene : Scene)

theorem workDir_opening : (opening plan platform file name root scene).workDir ≠ "" := by
  have hrelative : Path.isAbsolute ("script-" ++ name) = false :=
    (Path.isAbsolute_append (by decide) name).trans (by cbv)
  show Path.join root ("script-" ++ name) ≠ ""
  rw [Path.join_eq_append hrelative]
  intro h
  simpa using congrArg String.toList h

theorem known_opening :
    let s := opening plan platform file name root scene
    s.known = Environment.table s.platform s.entries := by
  simp only [opening]

end

/-- **What the first line of a script finds, whatever was on the disk before.** -/
theorem workplace_of_first_line {host : Host} (hdress : host.dresser? = none) {plan : Plan} {platform : Platform}
    {file name root : String} {scene : Scene} {s₁ s₂ s : Script} {text : String}
    (hsetup : eval (setUp host) (opening plan platform file name root scene) = (.ok text, s₁))
    (htimer : eval startTimer s₁ = (.ok (), s₂)) (hshow : eval (showVariables host) s₂ = (.ok (), s)) :
    ∃ files top, Workplace scene.disk s files top := by
  obtain ⟨front, settings, t, hbegins, hfiles, hdressed⟩ := begins_of_setUp hsetup
  rw [dress, hdress] at hdressed
  have hknown := known_begun (known_opening plan platform file name root scene) front settings
  obtain rfl : t = s₁ := (retabled_of_extractAll hknown hfiles).symm.trans (congrArg Prod.snd hdressed)
  obtain ⟨top, h⟩ := workplace_of_extractAll (workDir_opening plan platform file name root scene) hbegins hfiles
  have hshown := shown_showVariables host s₂
  rw [Keeps, hshow] at hshown
  exact ⟨front.archive.files, top, h.of_shown htimer hshown⟩

/-! ## A directory that was kept -/

/-- A script without lines, and a file. -/
def keptText : Bytes := Bytes.ascii "-- f --\nx\n"

/-- The file of its archive. -/
def keptFile : Archive.File := ⟨"f", Bytes.ascii "x\n"⟩

/-- A disk on which an earlier run has left an empty file in the directory of the script. -/
def keptDisk : Disk := (sampleDisk keptText).putEntry ["script-", "old"] (.file 0o644 [])

/-- The script on that disk. -/
def keptScript : Script := opening .usual ⟨"linux", "x86_64"⟩ "a" "" "" (.ofDisk keptDisk [])

/-- What is found of it. -/
def keptFront : Front := ⟨keptDisk, keptText, ⟨[], [keptFile]⟩, ""⟩

/-- The disk with the file in its place. -/
def laidDisk : Disk := keptDisk.putEntry ["script-", "f"] (.file Files.newFileMode keptFile.data)

theorem grows_keptDisk : (sampleDisk keptText).Grows keptDisk := by
  have hfree : (sampleDisk keptText).tree.get? (["script-"] ++ ["old"]) = none := rfl
  exact Disk.grows_putEntry_free hfree _

theorem begins_keptScript : keptScript.Begins keptFront none "" := by
  have hread : Frontmatter.read "" = ⟨[], .ok (none, "")⟩ := by cbv
  have harchive : Archive.parse keptText = .ok keptFront.archive := (Archive.parse_eq_ofLines _).trans (by cbv)
  have hfinds : keptScript.Finds keptFront := finds_of_grows grows_keptDisk (by rfl) harchive (by cbv)
  exact ⟨hfinds, congrArg Frontmatter.Read.result hread, rfl⟩

theorem placeOf_keptFile : (keptScript.begun keptFront none).placeOf keptFile = "script-/f" := by
  have hjoin : Path.join "script-" "f" = "script-/f" := by cbv
  rw [← hjoin, ← directory_sample .usual keptText]
  exact congrArg (Path.join (sample .usual keptText).directory) (Expansion.expand_of_not_mem _ (by decide))

theorem place_keptFile :
    eval (Files.Access.place "script-/f" keptFile.data) keptDisk = (.ok (), laidDisk) := by
  have hparent : Path.parent "script-/f" = "script-" := by decide +kernel
  have hcut : "script-/f".splitOn "/" = ["script-", "f"] := (Line.splitOn_singleton '/' "script-/f").trans (by cbv)
  have hclean : Path.clean "script-/f" = "script-/f" := by
    have hdouble : "script-/f".startsWith "//" = false := by cbv
    have hsingle : Path.isAbsolute "script-/f" = false := by cbv
    rw [Path.clean, Path.names, hcut, hdouble, hsingle]
    cbv
  have hnull : "script-/f".contains '\x00' = false := by rw [String.contains_char_eq]; decide
  have hlocate : Files.locate keptDisk.tree keptDisk.base true "script-/f" = .ok (.free ["script-"] "f") := by
    rw [Files.locate_eq_ok_iff, hcut]
    refine ⟨by decide, by decide, ?_⟩
    cbv
  rw [Files.Access.place, hparent, hclean, Step.eval_bind_of_ok (makeDirectories_of_grows grows_keptDisk).1]
  exact Files.Access.eval_write_of_free hnull (by cbv) hlocate (by cbv)

/-- The script when its first line runs. -/
def keptReady : Script := ((keptScript.begun keptFront none).extracting keptFile laidDisk).retabled

theorem setUp_keptScript : eval (setUp (.bare false)) keptScript = (.ok "", keptReady) := by
  have hextract : eval (extract keptFile) (keptScript.begun keptFront none) =
      (.ok (), (keptScript.begun keptFront none).extracting keptFile laidDisk) := by
    rw [eval_extract, placeOf_keptFile, show (keptScript.begun keptFront none).scene.disk = keptDisk from rfl, place_keptFile]
    rfl
  rw [eval_setUp rfl begins_keptScript, show keptFront.archive.files = [keptFile] from rfl, eval_extractAll_cons, hextract]
  rfl

theorem eval_startTimer_keptReady : eval startTimer keptReady = (.ok (), keptReady) := eval_startTimer_of_none rfl rfl

theorem eval_showVariables_keptReady : eval (showVariables (.bare false)) keptReady = (.ok (), keptReady) :=
  eval_showVariables rfl rfl

theorem workplace_of_first_line_kept : ∃ files top, Workplace keptDisk keptReady files top :=
  workplace_of_first_line rfl setUp_keptScript eval_startTimer_keptReady eval_showVariables_keptReady

/-- **A directory that is kept is not fresh.** -/
theorem leftover_stays :
    eval (setUp (.bare false)) keptScript = (.ok "", keptReady) ∧ eval startTimer keptReady = (.ok (), keptReady) ∧
      eval (showVariables (.bare false)) keptReady = (.ok (), keptReady) ∧
      keptReady.archive.map (·.files) = some [keptFile] ∧
      keptReady.scene.disk.find true keptReady.workDir = .ok (["script-"], .directory 0o755) ∧
      ¬keptReady.scene.disk.HoldsOnly (Laid keptReady.workDir keptReady.placeOf [keptFile]) ["script-"] := by
  refine ⟨setUp_keptScript, eval_startTimer_keptReady, eval_showVariables_keptReady, rfl, ?_, ?_⟩
  · have hwork : keptReady.workDir = "script-" := directory_sample .usual keptText
    have hcut : "script-".splitOn "/" = ["script-"] := (Line.splitOn_singleton '/' "script-").trans (by cbv)
    have hnull : "script-".contains '\x00' = false := by rw [String.contains_char_eq]; decide
    have hwalk : Files.locate laidDisk.tree laidDisk.base true "script-" = .ok (.entry ["script-"] (.directory 0o755)) := by
      rw [Files.locate_eq_ok_iff, hcut]
      refine ⟨by decide, by decide, ?_⟩
      cbv
    rw [hwork]
    exact Disk.find_eq_ok_iff.mpr ⟨hnull, fun _ => rfl, hwalk⟩
  · intro honly
    obtain ⟨p, hlaid, -⟩ := honly ["old"] (.file 0o644 []) (by decide) (by rfl)
    generalize hleft : Entry.file 0o644 [] = e at hlaid
    cases hlaid with
    | temporary => cases hleft
    | directory => cases hleft
    | file hmem =>
      obtain rfl := List.mem_singleton.mp hmem
      obtain ⟨-, hdata⟩ := Entry.file.inj hleft
      exact absurd hdata (by decide)

end Rehearsal.Script
