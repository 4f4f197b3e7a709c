import Rehearsal.Proofs.Archive.Reading
import Rehearsal.Proofs.Command.Compare
import Rehearsal.Proofs.Script.Golden
import Rehearsal.Proofs.Script.Workplace

/-!
# Golden files that were stored

A run that records what a program wrote for a golden file stores it in the script file. In a run after it, that finds the
file as the first one left it, the golden file is compared with the same text again: `golden_settles_iff` says that the two
are equal exactly if no line of the text marks a file of an archive. A text with such a line is stored quoted, and a
comparison takes no quotes away.

What this does not decide: what becomes of a text with a carriage return. One that does not settle is in
`golden_unsettled`.
-/

namespace Rehearsal.Script

open Step (eval Keeps Lasting)
open Files (Disk Entry)

/-! ## The run that records -/

/-- A script that has the archive it had, and one text for each golden file if it had. -/
structure Recording (s t : Script) : Prop where
  archive : t.archive = s.archive
  keys : s.updates.keys.Nodup → t.updates.keys.Nodup

theorem Recording.of_eq {s t : Script} (archive : t.archive = s.archive) (updates : t.updates = s.updates) :
    Recording s t :=
  ⟨archive, fun h => updates ▸ h⟩

instance : CoversCourse Recording where
  refl _ := .of_eq rfl rfl
  trans h h' := ⟨h'.archive.trans h.archive, fun hkeys => h'.keys (h.keys hkeys)⟩
  change h := by
    cases h with
    | record path name text => exact ⟨rfl, Table.nodup_keys_insert⟩
    | _ => exact .of_eq rfl rfl
  course _ _ _ _ _ _ _ := .of_eq rfl rfl

theorem recording_dress (host : Host) (s : Script) : Keeps Recording (dress host) s :=
  keeps_dress (fun _ => .of_eq rfl rfl) (fun _ _ => .of_eq rfl rfl) (fun _ _ => .of_eq rfl rfl) host s

/-- A script comes to the end of its lines, or to one that fails, as `s`, and stores its golden files as `t`. -/
def Stores (host : Host) (s₀ s t : Script) : Prop :=
  ∃ body s₁ s₂ s₃ result, eval (setUp host) s₀ = (.ok body, s₁) ∧ eval startTimer s₁ = (.ok (), s₂) ∧
    eval (showVariables host) s₂ = (.ok (), s₃) ∧ eval (performText host body) s₃ = (result, s) ∧
    eval storeUpdates s = (.ok (), t)

/-- The archive of a script that stores golden files is what its file held, and it has one text for each of them. -/
theorem Stores.archive {host : Host} (hhost : host.KeepsTo Recording) {s₀ s t : Script} (h : Stores host s₀ s t)
    (hupdates : s₀.updates = []) :
    ∃ d a, Archive.parse d = .ok a ∧ s.archive = some a ∧ s.updates.keys.Nodup := by
  obtain ⟨body, s₁, s₂, s₃, result, hsetup, htimer, hshow, htext, -⟩ := h
  obtain ⟨front, settings, u, hbegins, hextract, hdress⟩ := begins_of_setUp hsetup
  obtain ⟨extracted, disk, hu⟩ := exists_of_extractAll hextract
  -- From its first file on the script keeps its archive.
  have hdressed := recording_dress host u
  have htimed := keeps_startTimer (R := Recording) s₁
  have hshown := keeps_showVariables hhost s₂
  have hperformed := keeps_performText hhost body s₃
  rw [Keeps, hdress] at hdressed
  rw [Keeps, htimer] at htimed
  rw [Keeps, hshow] at hshown
  rw [Keeps, htext] at hperformed
  have hall : Recording u s := Lasting.trans (Lasting.trans hdressed htimed) (Lasting.trans hshown hperformed)
  have harchive : u.archive = some front.archive := by
    rw [hu]
    exact (begun_eq front settings s₀).2.1
  have hnone : u.updates = [] := by
    rw [hu, ← hupdates]
    cases settings <;> rfl
  refine ⟨front.data, front.archive, hbegins.archive, hall.archive.trans harchive, hall.keys ?_⟩
  rw [hnone]
  exact List.nodup_nil

/-- What the file of a script holds that an archive was written to. -/
theorem eq_render_of_writeArchive {s t : Script} {a : Archive} {d : Bytes} (h : eval (writeArchive a) s = (.ok (), t))
    (hread : t.scene.disk.read (Path.clean t.file) = .ok d) (hd : d ≠ []) : d = a.render := by
  obtain ⟨hfixed, hwrite⟩ := write_of_writeArchive h
  obtain ⟨r, e, hfind, -, hdata, -⟩ := Files.Access.find_of_write hwrite
  obtain ⟨path, mode, hfile, -⟩ := Disk.find_of_read hread hd
  rw [hfixed] at hfile
  have he := Except.ok.inj (hfind.symm.trans hfile)
  exact hdata mode d (congrArg Prod.snd he)

/-- **What was recorded for a golden file stands in the file of the script**, as an archive stores it. -/
theorem Stores.isStoredAs {host : Host} (hhost : host.KeepsTo Recording) {s₀ s t : Script} (h : Stores host s₀ s t)
    (hupdates : s₀.updates = []) {golden text : String} (hrecorded : Table.get? golden s.updates = some text) {d : Bytes}
    {a : Archive} (hread : t.scene.disk.read (Path.clean t.file) = .ok d) (hparse : Archive.parse d = .ok a)
    {f : Archive.File} (hf : f ∈ a.files) (hname : f.name = golden) : Archive.IsStoredAs text f.data := by
  obtain ⟨d₀, a₀, hparse₀, harchive, hkeys⟩ := h.archive hhost hupdates
  obtain ⟨-, -, -, -, -, -, -, -, -, hstore⟩ := h
  have hne : s.updates ≠ [] := by
    intro hnil
    rw [hnil] at hrecorded
    cases hrecorded
  rw [eval_storeUpdates harchive hne] at hstore
  cases hall : a₀.updateAll s.updates with
  | error e =>
    rw [hall] at hstore
    cases hstore
  | ok b =>
    rw [hall] at hstore
    have hd : d ≠ [] := by
      rintro rfl
      rw [Archive.parse_nil] at hparse
      cases hparse
      exact absurd hf List.not_mem_nil
    obtain rfl := eq_render_of_writeArchive hstore hread hd
    obtain ⟨c, hc, -, hfiles⟩ := Archive.parse_render_updateAll hkeys hparse₀ hall
    obtain rfl : c = a := Except.ok.inj (hc.symm.trans hparse)
    obtain ⟨i, hi, rfl⟩ := List.getElem_of_mem hf
    have hupdated := hfiles.get (by rwa [hfiles.length_eq]) hi
    exact hupdated.stored text (by rw [← hupdated.name]; exact hname ▸ hrecorded)

/-! ## The run after it -/

theorem directory_begun (s : Script) (front : Front) (settings : Option Frontmatter) :
    (s.begun front settings).directory = s.directory := by
  cases settings <;> rfl

/-- Files are put in places with a slash in them. -/
theorem slash_mem_placeOf (plan : Plan) (platform : Platform) (file name root : String) (scene : Scene) (front : Front)
    (settings : Option Frontmatter) (f : Archive.File) :
    '/' ∈ (((opening plan platform file name root scene).begun front settings).placeOf f).toList := by
  unfold placeOf absolute
  rw [directory_begun]
  exact Path.slash_mem_join (workDir_opening plan platform file name root scene) _

/-- **A golden file that was stored is the text it was stored for, exactly if no line of that marks a file.** The first
script records a text for a golden file, last of all, and stores it. The second finds the file of the script as the first
has left it and puts the golden file in its place, where no later one is put. There it still stands when what a program
wrote, which is the text again, is compared with it. -/
theorem golden_settles_iff {host : Host} (hhost : host.KeepsTo Recording) {plan plan' : Plan}
    {platform platform' : Platform} {file file' name name' root root' : String} {scene scene' : Scene}
    -- the script that records
    {s t : Script} (hstores : Stores host (opening plan platform file name root scene) s t) {golden text : String}
    (hrecorded : Table.get? golden s.updates = some text) (hend : text.endsWith "\n") (hreturn : '\r' ∉ text.toList)
    -- the script after it
    {front : Front} {settings : Option Frontmatter} {body : String}
    (hbegins : (opening plan' platform' file' name' root' scene').Begins front settings body)
    (hleft : t.scene.disk.read (Path.clean t.file) = .ok front.data) {before after : List Archive.File}
    {f : Archive.File} (hfiles : front.archive.files = before ++ f :: after) (hname : f.name = golden) {u : Script}
    (hextract : eval (extractAll front.archive.files)
      ((opening plan' platform' file' name' root' scene').begun front settings) = (.ok (), u))
    -- the golden file in its place
    {place : Archive.File → String}
    (hplace : place = ((opening plan' platform' file' name' root' scene').begun front settings).placeOf)
    {r : List String} {mode : Nat} {data : Bytes}
    (hfind : u.scene.disk.find true (Path.clean (place f)) = .ok (r, .file mode data))
    (hmode : (Entry.file mode data).allows Files.readBit)
    (halone : ∀ g ∈ after, ∀ e, u.scene.disk.find true (Path.clean (place g)) ≠ .ok (r, e))
    -- the line that compares
    {v : Script} {second : String} (hpath : v.absolute second = place f)
    (hsame : v.scene.disk.read (Path.clean (v.absolute (place f))) = u.scene.disk.read (Path.clean (place f)))
    (hstdout : v.stdout = text) {m : Modifier} (hm : m ≠ .negated) :
    (Archive.IsPlain (Utf8.encode text) → eval (Command.cmp m ["stdout", second]) v = (.ok (), v)) ∧
      (¬Archive.IsPlain (Utf8.encode text) → ∃ quoted, Archive.quote (Utf8.encode text) = .ok (Utf8.encode quoted) ∧
        v.text (place f) = .ok quoted ∧ quoted ≠ text ∧
        (v.plan.updateScripts = false →
          (eval (Command.cmp m ["stdout", second]) v).1 = .error (.mismatch (.differ "stdout" second)))) := by
  have hmem : f ∈ front.archive.files := by
    rw [hfiles]
    exact List.mem_append_right before List.mem_cons_self
  have hstored := hstores.isStoredAs hhost rfl hrecorded hleft hbegins.archive hmem hname
  obtain ⟨got, hcode, hunified, hiff⟩ := Archive.text_of_isStoredAs hend hreturn hstored
  have hslash : '/' ∈ (place f).toList := by
    rw [hplace]
    exact slash_mem_placeOf plan' platform' file' name' root' scene' front settings f
  -- The file holds what it holds in the archive, and reads as what was stored.
  have hdata : data = f.data := by
    rw [hfiles] at hextract
    rw [hplace] at hfind halone
    obtain ⟨r', e, hfind', -, hdata⟩ := find_of_extractAll hextract
    cases hfind.symm.trans hfind'
    exact hdata halone mode data rfl
  have htext : v.text (place f) = .ok got := by
    have hread : v.scene.disk.read (Path.clean (v.absolute (place f))) = .ok (Utf8.encode got) := by
      rw [hsame, hcode, ← hdata]
      exact Disk.read_of_find hfind hmode
    rw [text_of_read (ne_stream_of_slash hslash) hread, hunified, String.ofList_toList]
  have hcompare := Command.eval_cmp hm (s := v) (text_stdout v) (hpath.symm ▸ htext)
  refine ⟨fun hplain => ?_, fun hmarked => ⟨got, ?_, htext, ?_, fun hplan => ?_⟩⟩
  · rw [hcompare, if_pos (hstdout.trans (hiff.mpr hplain).symm)]
  · rw [Archive.IsStoredAs, if_neg hmarked] at hstored
    rw [hcode]
    exact hstored.1
  · exact fun heq => hmarked (hiff.mp heq)
  · have hnone : Command.golden? v "stdout" (v.absolute second) = none := by
      rw [Command.golden?, hplan]
      rfl
    have hdiffers : v.stdout ≠ got := fun heq => hmarked (hiff.mp (heq.symm.trans hstdout))
    rw [hcompare, if_neg hdiffers, hnone]

/-! ## A golden file that is updated -/

/-- A command that writes a text and compares it with a golden file. -/
def retell (text : String) : Command := fun m _ => do
  modify fun s => { s with stdout := text }
  Command.cmp m ["stdout", "out"]

/-- A host that brings it. -/
def retelling (text : String) : Host := { Host.none with commands := [("go", retell text)] }

theorem retelling_keepsTo {R : Script → Script → Prop} [Covers R] (text : String) : (retelling text).KeepsTo R := by
  constructor
  · intro verb command hcommand m args s
    rw [retelling, Table.get?] at hcommand
    split at hcommand
    · obtain rfl := Option.some.inj hcommand
      have htold : R s { s with stdout := text } := Covers.change (.streams s text s.stderr)
      refine Step.keeps_bind (Step.keeps_modify htold) fun _ t _ => ?_
      exact Command.keeps_compare "cmp" false m ["stdout", "out"] t
    · cases hcommand
  · intro name function hfunction
    cases hfunction

/-- A script file with that command and a golden file. -/
def retold (content : Bytes) : Bytes := Bytes.ascii "go\n-- out --\n" ++ content

/-- The golden file. -/
def toldFile (content : Bytes) : Archive.File := ⟨"out", content⟩

/-- What is read of the script file. -/
def retoldArchive (content : Bytes) : Archive := ⟨Bytes.ascii "go\n", [toldFile content]⟩

/-- The script in that file. -/
def retoldScript (plan : Plan) (content : Bytes) : Script :=
  opening plan ⟨"linux", "x86_64"⟩ "a" "" "/" (.ofDisk (sampleDisk (retold content)) [])

/-- What is found of it. -/
def retoldFront (content : Bytes) : Front := ⟨sampleDisk (retold content), retold content, retoldArchive content, "go\n"⟩

/-- The script before its golden file is put in its place. -/
def retoldBegun (plan : Plan) (content : Bytes) : Script := (retoldScript plan content).begun (retoldFront content) none

/-- The disk with the golden file in its place. -/
def toldDisk (content : Bytes) : Disk :=
  (sampleDisk (retold content)).putEntry ["script-", "out"] (.file Files.newFileMode content)

/-- The script with its golden file in its place. -/
def retoldLaid (plan : Plan) (content : Bytes) : Script :=
  (retoldBegun plan content).extracting (toldFile content) (toldDisk content)

/-- The script when its first line runs. -/
def retoldReady (plan : Plan) (content : Bytes) : Script := (retoldLaid plan content).retabled

theorem makeDirectories_absolute (data : Bytes) :
    eval (Files.Access.makeDirectories "/script-") (sampleDisk data) = (.ok (), sampleDisk data) ∧
      eval (Files.Access.makeDirectories "/script-/tmp") (sampleDisk data) = (.ok (), sampleDisk data) := by
  have houter := spot_sampleDisk (p := "/script-") data
    (by rw [show "/script-".splitOn "/" = _ from Line.splitOn_singleton '/' "/script-"]; cbv)
    ⟨by decide, by decide, by decide, by cbv⟩ (.inl rfl)
  have hinner := spot_sampleDisk (p := "/script-/tmp") data
    (by rw [show "/script-/tmp".splitOn "/" = _ from Line.splitOn_singleton '/' "/script-/tmp"]; cbv)
    ⟨by decide, by decide, by decide, by cbv⟩ (.inr rfl)
  have hroot : (sampleDisk data).exists? "/" := by
    have hcut : "/".splitOn "/" = ["", ""] := by rw [show "/".splitOn "/" = _ from Line.splitOn_singleton '/' "/"]; cbv
    have hnull : "/".contains '\x00' = false := by rw [String.contains_char_eq]; decide
    have hfind : (sampleDisk data).find true "/" = .ok ([], .directory 0o755) := by
      refine Disk.find_eq_ok_iff.mpr ⟨hnull, fun _ => rfl, Files.locate_eq_ok_iff.mpr ⟨by decide, by decide, ?_⟩⟩
      rw [hcut]
      cbv
    rw [Disk.exists?, Disk.find?, hfind]
    rfl
  have hhead : (Files.Access.splitLastName "/script-").1 = "/" := by decide +kernel
  exact makeDirectories_of_spot (Lasting.refl _) houter hinner (.inr (hhead ▸ hroot)) (by decide +kernel)

/-- Where the names of a path are known that begins at the root, it is clean and leads where they do. -/
theorem path_retold :
    Path.clean "/script-/out" = "/script-/out" ∧
      ((("/script-/out".splitOn "/").filter fun n => !n.isEmpty) = ["script-", "out"]) := by
  have hcut : "/script-/out".splitOn "/" = ["", "script-", "out"] := by
    rw [show "/script-/out".splitOn "/" = _ from Line.splitOn_singleton '/' "/script-/out"]
    cbv
  have hdouble : "/script-/out".startsWith "//" = false := by cbv
  have hsingle : Path.isAbsolute "/script-/out" = true := by cbv
  rw [Path.clean, Path.names, hcut, hdouble, hsingle]
  exact ⟨by cbv, by cbv⟩

theorem place_retold (content : Bytes) :
    eval (Files.Access.place "/script-/out" content) (sampleDisk (retold content)) = (.ok (), toldDisk content) ∧
      (toldDisk content).find true (Path.clean "/script-/out") =
        .ok (["script-", "out"], .file Files.newFileMode content) := by
  obtain ⟨hclean, hcut⟩ := path_retold
  have hparent : Path.parent "/script-/out" = "/script-" := by decide +kernel
  have hnull : "/script-/out".contains '\x00' = false := by rw [String.contains_char_eq]; decide
  have hslash : Files.endsInSlash "/script-/out" = false := by cbv
  have hlocate : Files.locate (sampleDisk (retold content)).tree (sampleDisk (retold content)).base true "/script-/out" =
      .ok (.free ["script-"] "out") := by
    rw [Files.locate_eq_ok_iff, hcut]
    refine ⟨by decide, by decide, ?_⟩
    show Files.walk _ _ _ (if Path.isAbsolute "/script-/out" then [] else []) _ = _
    rw [ite_self]
    cbv
  constructor
  · rw [Files.Access.place, hparent, hclean, Step.eval_bind_of_ok (makeDirectories_absolute _).1]
    exact Files.Access.eval_write_of_free hnull hslash hlocate (by cbv)
  · rw [hclean]
    exact Disk.find_putEntry_free hnull hlocate (fun h => by rw [hslash] at h; cases h) rfl

theorem read_toldDisk (content : Bytes) : (toldDisk content).read (Path.clean "/script-/out") = .ok content :=
  Disk.read_of_find (place_retold content).2 (by simp [Entry.allows, Entry.mode, Files.newFileMode, Files.readBit])

section

variable {plan : Plan} {content : Bytes}

theorem begins_retold (hparse : Archive.parse (retold content) = .ok (retoldArchive content)) :
    (retoldScript plan content).Begins (retoldFront content) none "go\n" := by
  have hread : Frontmatter.read "go\n" = ⟨[], .ok (none, "go\n")⟩ := by cbv
  have hdirectory : Path.join (retoldScript plan content).workDir "tmp" = "/script-/tmp" := by cbv
  have hmade : eval (Files.Access.makeDirectories (Path.join (retoldScript plan content).workDir "tmp"))
      (sampleDisk (retold content)) = (.ok (), sampleDisk (retold content)) := by
    rw [hdirectory]
    exact (makeDirectories_absolute _).2
  have hfile := Disk.read_of_find (find_of_grows (Lasting.refl (sampleDisk (retold content))) rfl)
    (by simp [Entry.allows, Entry.mode, Files.readBit])
  exact ⟨⟨hmade, hfile, hparse, by cbv⟩, congrArg Frontmatter.Read.result hread, rfl⟩

theorem placeOf_retold : (retoldBegun plan content).placeOf (toldFile content) = "/script-/out" := by
  have hdirectory : (retoldScript plan content).directory = "/script-" := by cbv
  have hjoin : Path.join "/script-" "out" = "/script-/out" := by cbv
  have hname : '$' ∉ "out".toList := by decide
  rw [← hjoin, ← hdirectory]
  exact congrArg (Path.join (retoldScript plan content).directory) (Expansion.expand_of_not_mem _ hname)

theorem extractAll_retold :
    eval (extractAll (retoldFront content).archive.files) (retoldBegun plan content) = (.ok (), retoldLaid plan content) := by
  have hdisk : (retoldBegun plan content).scene.disk = sampleDisk (retold content) := rfl
  have hextract : eval (extract (toldFile content)) (retoldBegun plan content) = (.ok (), retoldLaid plan content) := by
    rw [eval_extract, placeOf_retold, hdisk, toldFile, (place_retold content).1]
    rfl
  rw [show (retoldFront content).archive.files = [toldFile content] from rfl, eval_extractAll_cons, hextract]
  rfl

theorem setUp_retold (text : String) (hparse : Archive.parse (retold content) = .ok (retoldArchive content)) :
    eval (setUp (retelling text)) (retoldScript plan content) = (.ok "go\n", retoldReady plan content) := by
  have hlaid : eval (extractAll (retoldFront content).archive.files)
      ((retoldScript plan content).begun (retoldFront content) none) = (.ok (), retoldLaid plan content) := extractAll_retold
  rw [eval_setUp rfl (begins_retold hparse), hlaid]
  rfl

end

/-! ### Its runs -/

/-- A plan under which golden files are updated. -/
def updating : Plan := { Plan.usual with updateScripts := true }

/-- A script in which the command of the host compares what it has written. -/
def telling (text : String) (s : Script) : Script := { (s.atLine "go").write "> go\n" with stdout := text }

theorem eval_performLine_go {text : String} {s : Script} (hmarks : s.plan.phasePrefix = "#" ∧ s.plan.commentPrefix = "~") :
    eval (performLine (performer (retelling text)) "go") s =
      match eval (Command.cmp .plain ["stdout", "out"]) (s.telling text) with
      | (.ok _, t) => (.ok (), t)
      | (.error f, t) => eval (Command.judge .plain "go" f) t := by
  have hwords : Words.split s.counted.expand "go" = .ok ["go"] := by
    have hsplit : Words.split s.counted.expand "go" = .ok [s.counted.expand "go"] := by cbv
    rw [hsplit, Script.expand, Expansion.expand_of_not_mem _ (by decide)]
  have hfound : Registry.layered (Command.builtin (retelling text)) (retelling text).commands "go" =
      some (retell text) := rfl
  have hline : "> " ++ "go" ++ "\n" = "> go\n" := by decide
  have hretell : eval (retell text .plain []) ((s.atLine "go").write "> go\n") =
      eval (Command.cmp .plain ["stdout", "out"]) (s.telling text) := by
    rw [retell, Step.eval_modify_bind, telling]
  rw [eval_performLine_of_command hmarks (by cbv) (by cbv) hwords (by cbv) (by cbv)]
  show eval (Command.dispatch (retelling text) .plain ["go"]) ((s.atLine "go").write ("> " ++ "go" ++ "\n")) = _
  have hjudged := Command.eval_dispatch hfound .plain [] ((s.atLine "go").write "> go\n")
  rw [hretell] at hjudged
  rw [hline]
  exact hjudged

/-- What there is to the script when its command compares. -/
theorem told_eq (plan : Plan) (content : Bytes) (text : String) :
    let v := (retoldReady plan content).telling text
    v.plan = plan ∧ v.file = "a" ∧ v.directory = "/script-" ∧ v.background = [] ∧ v.stopped = false ∧
      v.archive = some (retoldArchive content) ∧ v.extracted = [("/script-/out", "out")] ∧ v.updates = [] ∧
      v.scene.disk = toldDisk content := by
  have hdirectory : (retoldScript plan content).directory = "/script-" := by cbv
  have hextracted : ((retoldReady plan content).telling text).extracted =
      [((retoldBegun plan content).placeOf (toldFile content), "out")] := rfl
  rw [placeOf_retold] at hextracted
  exact ⟨rfl, rfl, hdirectory, rfl, rfl, rfl, hextracted, rfl, rfl⟩

/-- What is read of its golden file. -/
theorem text_told (plan : Plan) (got text : String) :
    let v := (retoldReady plan (Utf8.encode got)).telling text
    v.absolute "out" = "/script-/out" ∧ v.text "/script-/out" = .ok (String.ofList (Line.unifyNewlines got.toList)) := by
  intro v
  obtain ⟨-, -, hdirectory, -, -, -, -, -, hdisk⟩ := told_eq plan (Utf8.encode got) text
  have habsolute : Path.isAbsolute "/script-/out" = true := by cbv
  constructor
  · show Path.join v.directory "out" = _
    rw [hdirectory]
    cbv
  · apply text_of_read (ne_stream_of_slash (by decide))
    rw [absolute_of_isAbsolute habsolute, hdisk]
    exact read_toldDisk _

/-- What the comparison comes to. -/
theorem eval_cmp_told (plan : Plan) {got text : String} (hdiffers : text ≠ String.ofList (Line.unifyNewlines got.toList)) :
    let v := (retoldReady plan (Utf8.encode got)).telling text
    (plan.updateScripts = true →
        eval (Command.cmp .plain ["stdout", "out"]) v = (.ok (), { v with updates := [("out", text)] })) ∧
      (plan.updateScripts = false →
        (eval (Command.cmp .plain ["stdout", "out"]) v).1 = .error (.mismatch (.differ "stdout" "out"))) := by
  intro v
  obtain ⟨hplan, -, -, -, -, -, hextracted, hupdates, -⟩ := told_eq plan (Utf8.encode got) text
  obtain ⟨habsolute, htext⟩ := text_told plan got text
  have hcompare := Command.eval_cmp (m := .plain) (by decide) (s := v) (text_stdout v) (habsolute.symm ▸ htext)
  rw [if_neg (show v.stdout ≠ _ from hdiffers), habsolute, Command.golden?, hplan] at hcompare
  constructor
  · intro hupdate
    rw [hcompare, hupdate, hextracted, hupdates]
    rfl
  · intro hfixed
    rw [hcompare, hfixed]
    rfl

/-- What the script comes to when its command records something. -/
theorem performText_go {text : String} {s : Script} (hmarks : s.plan.phasePrefix = "#" ∧ s.plan.commentPrefix = "~")
    (hstopped : s.stopped = false) (hbackground : s.background = []) {updates : Table String}
    (hrun : eval (Command.cmp .plain ["stdout", "out"]) (s.telling text) = (.ok (), { s.telling text with updates })) :
    ∃ t, eval (performText (retelling text) "go\n") s = (.ok (), t) ∧ t.updates = updates ∧ t.archive = s.archive ∧
      t.file = s.file ∧ t.scene.disk = s.scene.disk := by
  have hfirst : eval (performLine (performer (retelling text)) "go") s = (.ok (), { s.telling text with updates }) := by
    rw [eval_performLine_go hmarks, hrun]
  have htold : ∀ t : Script, t = { s.telling text with updates } →
      t.plan = s.plan ∧ t.stopped = false ∧ t.background = [] ∧ t.updates = updates ∧ t.archive = s.archive ∧
        t.file = s.file ∧ t.scene.disk = s.scene.disk := by
    rintro _ rfl
    simp only [telling, Script.write, atLine, counted, hstopped, hbackground, and_self]
  generalize ({ s.telling text with updates } : Script) = t at hfirst htold
  obtain ⟨htplan, htstopped, htbackground, hupdates, harchive, hfile, hdisk⟩ := htold t rfl
  have hsecond : eval (performLine (performer (retelling text)) "") t = (.ok (), t.atLine "") := by
    have hwords : ∀ expand, Words.split expand "" = .ok [] := fun _ => by cbv
    exact eval_performLine_of_words (htplan ▸ hmarks) (by cbv) (by cbv) (hwords _) fun _ h => (Except.ok.inj h).symm
  have hgoes : goesOn (.ok (), t) = true := by
    rw [goesOn, htstopped]
    rfl
  obtain ⟨log, hfinished⟩ := finished_of_nil (s := t.atLine "") htbackground
  refine ⟨(t.atLine "").finished, ?_, ?_⟩
  · have hnil : eval (performLines (performer (retelling text)) []) (t.atLine "") = (.ok (), t.atLine "") := rfl
    rw [eval_performText, show Line.split "go\n" = ["go", ""] by cbv, eval_performLines_cons, hfirst]
    simp only [hgoes, if_true, eval_performLines_cons, hsecond, hnil, ite_self]
  · rw [hfinished]
    exact ⟨hupdates, harchive, hfile, hdisk⟩

/-- The script file in front of that run. -/
theorem parse_old : Archive.parse (retold (Utf8.encode "old\n")) = .ok (retoldArchive (Utf8.encode "old\n")) :=
  (Archive.parse_eq_ofLines _).trans (by cbv)

/-- Its archive with something else stored for the golden file, which is quoted if a line of it is a marker. -/
theorem updateAll_retold {content stored : Bytes} {text : String} (marked : Bool)
    (hmarked : Archive.anyMarker (Bytes.lines (Utf8.encode text)) = .ok marked)
    (h : (if marked then Archive.quote (Utf8.encode text) else .ok (Utf8.encode text)) = .ok stored) :
    (retoldArchive content).updateAll [("out", text)] = .ok (retoldArchive stored) := by
  have hstored : Archive.stored text = .ok stored := by
    rw [Archive.stored, Archive.needsQuote_eq_anyMarker, hmarked, ← h]
    cases marked <;> rfl
  rw [Archive.updateAll, Archive.update, hstored]
  rfl

/-- The first run stores what was told. -/
theorem stores_retold (got text : String) (stored : Bytes)
    (hparse : Archive.parse (retold (Utf8.encode got)) = .ok (retoldArchive (Utf8.encode got)))
    (hdiffers : text ≠ String.ofList (Line.unifyNewlines got.toList))
    (hupdate : (retoldArchive (Utf8.encode got)).updateAll [("out", text)] = .ok (retoldArchive stored))
    (hrender : (retoldArchive stored).render = retold stored) :
    ∃ s t, Stores (retelling text) (retoldScript updating (Utf8.encode got)) s t ∧
      Table.get? "out" s.updates = some text ∧ t.scene.disk.read (Path.clean t.file) = .ok (retold stored) := by
  let ready := retoldReady updating (Utf8.encode got)
  obtain ⟨hplan, hfile, -, hbackground, hstopped, harchive, -, -, hdisk⟩ := told_eq updating (Utf8.encode got) text
  have htimer : eval startTimer ready = (.ok (), ready) := eval_startTimer_of_none rfl rfl
  have hshow : eval (showVariables (retelling text)) ready = (.ok (), ready) := eval_showVariables rfl rfl
  obtain ⟨s, htext, hsupdates, hsarchive, hsfile, hsdisk⟩ := performText_go (s := ready) ⟨rfl, rfl⟩ hstopped hbackground
    ((eval_cmp_told updating hdiffers).1 rfl)
  -- The file of the script still is where it was.
  have hfind : s.scene.disk.find true (Path.clean s.file) =
      .ok (["a"], .file 0o644 (retold (Utf8.encode got))) := by
    have hgrows : (sampleDisk (retold (Utf8.encode got))).Grows (toldDisk (Utf8.encode got)) := by
      have hfree : (sampleDisk (retold (Utf8.encode got))).tree.get? (["script-"] ++ ["out"]) = none := rfl
      exact Disk.grows_putEntry_free hfree _
    rw [hsfile, hsdisk, show ready.file = "a" from hfile, show ready.scene.disk = _ from hdisk]
    exact find_of_grows hgrows rfl
  have hmode : (Entry.file 0o644 (retold (Utf8.encode got))).allows Files.writeBit := by
    simp [Entry.allows, Entry.mode, Files.writeBit]
  obtain ⟨t, hwrite⟩ := writeArchive_succeeds hfind hmode (retoldArchive stored)
  have hstore : eval storeUpdates s = (.ok (), t) := by
    rw [eval_storeUpdates (hsarchive.trans harchive) (by rw [hsupdates]; exact List.cons_ne_nil _ _), hsupdates, hupdate]
    exact hwrite
  refine ⟨s, t, ⟨"go\n", ready, ready, ready, .ok (), setUp_retold text hparse, htimer, hshow, htext, hstore⟩, ?_, ?_⟩
  · rw [hsupdates]
    rfl
  · have hread := Disk.read_of_find hfind (by simp [Entry.allows, Entry.mode, Files.readBit])
    have hne : retold (Utf8.encode got) ≠ [] := by simp [retold, Bytes.ascii]
    rw [(write_of_writeArchive hwrite).1, ← hrender]
    exact read_of_writeArchive hread hne hwrite

/-- The command of a run that does not record fails where it finds something else than it has written. -/
theorem performText_go_differs {got text : String} (hdiffers : text ≠ String.ofList (Line.unifyNewlines got.toList)) :
    (eval (performText (retelling text) "go\n") (retoldReady .usual (Utf8.encode got))).1 =
      .error (.mismatch (.differ "stdout" "out")) := by
  have hcompare := (eval_cmp_told .usual hdiffers).2 rfl
  have hmarks : (retoldReady .usual (Utf8.encode got)).plan.phasePrefix = "#" ∧
      (retoldReady .usual (Utf8.encode got)).plan.commentPrefix = "~" := ⟨rfl, rfl⟩
  have hfirst := @eval_performLine_go text _ hmarks
  rcases hrun : eval (Command.cmp .plain ["stdout", "out"]) ((retoldReady .usual (Utf8.encode got)).telling text) with
    ⟨result, t⟩
  rw [hrun] at hcompare hfirst
  obtain rfl : result = _ := hcompare
  rw [eval_performText, show Line.split "go\n" = ["go", ""] by cbv, eval_performLines_cons, hfirst]
  rfl

/-- The script after that run finds its golden file to be the text again. -/
theorem golden_settles_iff_new :
    ∃ s t, Stores (retelling "new\n") (retoldScript updating (Utf8.encode "old\n")) s t ∧
      Table.get? "out" s.updates = some "new\n" ∧
      t.scene.disk.read (Path.clean t.file) = .ok (retold (Utf8.encode "new\n")) ∧
      let v := (retoldReady .usual (Utf8.encode "new\n")).telling "new\n"
      eval (Command.cmp .plain ["stdout", "out"]) v = (.ok (), v) := by
  let content := Utf8.encode "new\n"
  let begun := retoldBegun .usual content
  let v := (retoldReady .usual content).telling "new\n"
  obtain ⟨s, t, hstores, hrecorded, hleft⟩ :=
    stores_retold "old\n" "new\n" (Utf8.encode "new\n") parse_old (by decide)
      (updateAll_retold false (by cbv) (by cbv)) (by cbv)
  have hparse : Archive.parse (retold (Utf8.encode "new\n")) = .ok (retoldArchive (Utf8.encode "new\n")) :=
    (Archive.parse_eq_ofLines _).trans (by cbv)
  have hbegins : (retoldScript .usual content).Begins (retoldFront content) none "go\n" := begins_retold hparse
  have hfiles : (retoldFront content).archive.files = [] ++ toldFile content :: [] := rfl
  have hplace : begun.placeOf (toldFile content) = "/script-/out" := placeOf_retold
  have hfind : (toldDisk content).find true (Path.clean (begun.placeOf (toldFile content))) =
      .ok (["script-", "out"], .file Files.newFileMode content) := by
    rw [hplace]
    exact (place_retold content).2
  have hpath : v.absolute "out" = begun.placeOf (toldFile content) := (text_told .usual "new\n" "new\n").1.trans hplace.symm
  have hsame : v.scene.disk.read (Path.clean (v.absolute (begun.placeOf (toldFile content)))) =
      (toldDisk content).read (Path.clean (begun.placeOf (toldFile content))) := by
    have habsolute : Path.isAbsolute "/script-/out" = true := by cbv
    rw [hplace, absolute_of_isAbsolute habsolute]
    rfl
  have hmode : (Entry.file Files.newFileMode content).allows Files.readBit := by
    simp [Entry.allows, Entry.mode, Files.newFileMode, Files.readBit]
  have hplain : Modifier.plain ≠ .negated := by decide
  refine ⟨s, t, hstores, hrecorded, hleft, ?_⟩
  have hlaw := golden_settles_iff (retelling_keepsTo "new\n") hstores hrecorded (by cbv) (by decide) hbegins hleft hfiles
    rfl extractAll_retold rfl hfind hmode (fun g hg => absurd hg List.not_mem_nil) hpath hsame rfl hplain
  refine hlaw.1 ?_
  have hquote : Archive.needsQuote (Utf8.encode "new\n") = .ok false := (Archive.needsQuote_eq_anyMarker _).trans (by cbv)
  simpa only [Archive.needsQuote_encode, Except.ok.injEq, decide_eq_false_iff_not, not_not] using hquote

/-- A run that records a text for the golden file leaves something else there for the run after it, in which the same
command then fails. -/
def Unsettled (text : String) (stored : Bytes) : Prop :=
  (∃ s t, Stores (retelling text) (retoldScript updating (Utf8.encode "old\n")) s t ∧
    Table.get? "out" s.updates = some text ∧ t.scene.disk.read (Path.clean t.file) = .ok (retold stored)) ∧
  eval (setUp (retelling text)) (retoldScript .usual stored) = (.ok "go\n", retoldReady .usual stored) ∧
  (eval (performText (retelling text) "go\n") (retoldReady .usual stored)).1 =
    .error (.mismatch (.differ "stdout" "out"))

/-- **Not every text settles**: neither one that is stored quoted, nor one with a carriage return. -/
theorem golden_unsettled :
    Unsettled "-- x --\n" (Utf8.encode ">-- x --\n") ∧ Unsettled "a\r\n" (Utf8.encode "a\r\n") := by
  constructor
  · refine ⟨stores_retold _ _ _ parse_old (by decide) (updateAll_retold true (by cbv) (by cbv)) (by cbv), ?_, ?_⟩
    · exact setUp_retold _ ((Archive.parse_eq_ofLines _).trans (by cbv))
    · exact performText_go_differs (by decide)
  · refine ⟨stores_retold _ _ _ parse_old (by decide) (updateAll_retold false (by cbv) (by cbv)) (by cbv), ?_, ?_⟩
    · exact setUp_retold _ ((Archive.parse_eq_ofLines _).trans (by cbv))
    · exact performText_go_differs (by decide)

end Rehearsal.Script
