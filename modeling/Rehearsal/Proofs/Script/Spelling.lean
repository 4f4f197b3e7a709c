import Rehearsal.Command.Files
import Rehearsal.Proofs.Script.Reachable

/-!
# Golden files and how their paths are spelled

The files of an archive are known to a script by the paths that they were put in, as texts: the directory that the script
began in, and the name behind it. A comparison that is to update golden files looks a file up by the text of its path, which
is the directory that the script has gone to, and the argument behind it. Nothing else that its text does changes either
(`Goes.later`). So `golden_known_by_spelling` says that what differs from a golden file is recorded for it exactly if the two
texts are one; of several files with one path it is recorded for the last.

What this does not decide: where a path leads. A file that is opened under another spelling of its path is not known by it
(`golden_unknown_by_dot`).
-/

namespace Rehearsal

open Step (eval Keeps Lasting)
open Files (Disk Entry)

/-- Going to a directory takes a script there, if it is one. -/
theorem Command.eval_cd (dir : String) (s : Script) :
    eval (cd .plain [dir]) s =
      if s.scene.disk.exists? (s.absolute dir) then
        if s.scene.disk.isDirectory (s.absolute dir) then
          (.ok (), ({ s with directory := s.absolute dir } : Script).logLine (s.absolute dir))
        else (.error (.misuse (.notDirectory (s.absolute dir))), s)
      else (.error (.misuse (.noDirectory (s.absolute dir))), s) := by
  have hrefuse : eval (refuseModifier "cd" .plain) s = (.ok (), s) := rfl
  refine (Step.eval_bind_of_ok hrefuse).trans ?_
  rw [Step.eval_get_bind]
  extract_lets directory going checking
  cases hexists : s.scene.disk.exists? directory with
  | false => rfl
  | true =>
    simp only [checking]
    cases hdirectory : s.scene.disk.isDirectory directory with
    | false => rfl
    | true => rfl

theorem Command.eq_of_cd {dir : String} {s t : Script} (h : eval (cd .plain [dir]) s = (.ok (), t)) :
    t = ({ s with directory := s.absolute dir } : Script).logLine (s.absolute dir) := by
  rw [eval_cd] at h
  split at h
  · split at h
    · exact (Prod.mk.inj h).2.symm
    · cases h
  · cases h

namespace Script

/-! ## Where a script goes -/

/-- A script under the plan that it had, with the files of its archive at the same paths. -/
structure KnowsFiles (s t : Script) : Prop where
  plan : t.plan = s.plan
  extracted : t.extracted = s.extracted

instance : CoversCourse KnowsFiles where
  refl _ := ⟨rfl, rfl⟩
  trans h h' := ⟨h'.plan.trans h.plan, h'.extracted.trans h.extracted⟩
  change h := by cases h <;> exact ⟨rfl, rfl⟩
  course _ _ _ _ _ _ _ := ⟨rfl, rfl⟩

/-- What a script comes to that goes to directories one after the other. -/
inductive Goes (s : Script) : List String → Script → Prop
  | start : Goes s [] s
  | cd {dirs : List String} {t u : Script} (h : Goes s dirs t) (dir : String)
      (hcd : eval (Command.cd .plain [dir]) t = (.ok (), u)) : Goes s (dirs ++ [dir]) u
  /-- Anything else that a script does where it is. -/
  | stays {dirs : List String} {t u : Script} (h : Goes s dirs t) (knows : KnowsFiles t u)
      (directory : u.directory = t.directory) : Goes s dirs u

variable {s t u : Script} {dirs : List String}

/-- Whatever else a script comes to, it stays where it is if it is in the same directory then. -/
theorem Goes.later {host : Host} (hhost : host.KeepsTo KnowsFiles) (h : Goes s dirs t) (hlater : Later host t u)
    (directory : u.directory = t.directory) : Goes s dirs u :=
  h.stays (hlater.keeps hhost) directory

theorem Goes.knowsFiles (h : Goes s dirs t) : KnowsFiles s t := by
  induction h with
  | start => exact Lasting.refl s
  | cd _ dir hcd ih =>
    obtain rfl := Command.eq_of_cd hcd
    exact Lasting.trans ih ⟨rfl, rfl⟩
  | stays _ knows _ ih => exact Lasting.trans ih knows

/-- Every directory is read from the one before, as a text. -/
theorem Goes.directory_eq (h : Goes s dirs t) : t.directory = dirs.foldl Path.join s.directory := by
  induction h with
  | start => rfl
  | cd _ dir hcd ih =>
    obtain rfl := Command.eq_of_cd hcd
    rw [List.foldl_append, ← ih]
    rfl
  | stays _ _ directory ih => rw [directory, ih]

/-! ## The paths that files are known by -/

theorem knowsFiles_dress {host : Host} (h : eval (dress host) s = (.ok (), t)) : KnowsFiles s t := by
  have hkept : Keeps KnowsFiles (dress host) s :=
    keeps_dress (fun _ => ⟨rfl, rfl⟩) (fun _ _ => ⟨rfl, rfl⟩) (fun _ _ => ⟨rfl, rfl⟩) host s
  rwa [Keeps, h] at hkept

theorem updates_logLine (line : String) (s : Script) : (s.logLine line).updates = s.updates := by
  simp only [logLine, write]

/-- A text that the last command wrote, and which of the two it is. -/
def Wrote (s : Script) (stream text : String) : Prop :=
  stream = "stdout" ∧ text = s.stdout ∨ stream = "stderr" ∧ text = s.stderr

/-- A difference from what was written is recorded for the file that is known by the path, if there is one. -/
theorem eval_cmp_wrote {m : Modifier} {stream path old got : String} (hm : m ≠ .negated)
    (hplan : t.plan.updateScripts = true) (hwrote : t.Wrote stream old) (hgot : t.text (t.absolute path) = .ok got)
    (hdiffers : old ≠ got) :
    eval (Command.cmp m [stream, path]) t =
      match Table.get? (t.absolute path) t.extracted with
      | some golden => (.ok (), { t with updates := Table.insert golden old t.updates })
      | none =>
        let diff := Diff.unified stream path old got
        (.error (.mismatch (.differ stream path)), t.logLine s!"[diff -{stream} +{path}]\n{diff}") := by
  have hstream : t.text stream = .ok old ∧ (stream == "stdout" || stream == "stderr") = true := by
    rcases hwrote with ⟨rfl, rfl⟩ | ⟨rfl, rfl⟩
    · exact ⟨text_stdout t, rfl⟩
    · exact ⟨text_stderr t, rfl⟩
  rw [Command.eval_cmp hm hstream.1 hgot, if_neg hdiffers, Command.golden?, hplan, hstream.2]
  rfl

/-- Of files with one path the last is known by it. -/
theorem get?_extracted {before after : List Archive.File} {f : Archive.File} {place : Archive.File → String}
    {target : String} (hplace : place f = target) (hlast : ∀ g ∈ after, place g ≠ target) :
    Table.get? target ((before ++ f :: after).foldl (fun table f => Table.insert (place f) f.name table) []) =
      some f.name := by
  have hafter : after.reverse.find? (fun g => place g == target) = none :=
    List.find?_eq_none.mpr fun g hg heq => hlast g (List.mem_reverse.mp hg) (eq_of_beq heq)
  have hfound : (before ++ f :: after).reverse.find? (fun g => place g == target) = some f := by
    rw [List.reverse_append, List.reverse_cons, List.append_assoc, List.find?_append, hafter, Option.none_or,
      List.singleton_append]
    exact List.find?_cons_of_pos (beq_iff_eq.mpr hplace)
  rw [Table.get?_foldl_insert, hfound]
  rfl

/-- A path that no file was put in is not known. -/
theorem get?_extracted_eq_none {files : List Archive.File} {place : Archive.File → String} {target : String}
    (hnone : ∀ f ∈ files, place f ≠ target) :
    Table.get? target (files.foldl (fun table f => Table.insert (place f) f.name table) []) = none := by
  have hfound : files.reverse.find? (fun f => place f == target) = none :=
    List.find?_eq_none.mpr fun f hf heq => hnone f (List.mem_reverse.mp hf) (eq_of_beq heq)
  rw [Table.get?_foldl_insert, hfound]
  rfl

/-- What is known of its files when a script has been set up: the paths that they were put in, as texts. -/
theorem knows_of_setUp {host : Host} {plan : Plan} {platform : Platform} {file name root text : String} {scene : Scene}
    (hsetup : eval (setUp host) (opening plan platform file name root scene) = (.ok text, s)) :
    ∃ front settings, (opening plan platform file name root scene).Begins front settings text ∧
      let begun := (opening plan platform file name root scene).begun front settings
      s.plan = plan ∧
        s.extracted = front.archive.files.foldl (fun table f => Table.insert (begun.placeOf f) f.name table) [] := by
  obtain ⟨front, settings, laid, hbegins, hlaid, hdress⟩ := begins_of_setUp hsetup
  have hnothing : ((opening plan platform file name root scene).begun front settings).extracted = [] := by
    cases settings <;> rfl
  have hplan : laid.plan = plan := by
    obtain ⟨_, _, rfl⟩ := exists_of_extractAll hlaid
    exact (begun_eq front settings _).1
  have hdressed := knowsFiles_dress hdress
  refine ⟨front, settings, hbegins, hdressed.plan.trans hplan, ?_⟩
  rw [hdressed.extracted, extracted_of_extractAll hlaid, hnothing]

/-- Under a plan to update golden files, what a program wrote and what is read under a path differ: then it is recorded for
the last file of the archive whose path, as a text, is the one that the argument makes with the directories that the script
went to. If there is none the comparison fails, wherever the path leads. -/
theorem golden_known_by_spelling {host : Host} {plan : Plan} (hplan : plan.updateScripts = true) {platform : Platform}
    {file name root text : String} {scene : Scene}
    (hsetup : eval (setUp host) (opening plan platform file name root scene) = (.ok text, s)) :
    ∃ front settings, (opening plan platform file name root scene).Begins front settings text ∧
      ∀ dirs t, Goes s dirs t → ∀ m stream path old got, m ≠ .negated → t.Wrote stream old →
        t.text (t.absolute path) = .ok got → old ≠ got →
        let place := ((opening plan platform file name root scene).begun front settings).placeOf
        let target := Path.join (dirs.foldl Path.join s.directory) path
        let after := eval (Command.cmp m [stream, path]) t
        (∀ earlier f later, front.archive.files = earlier ++ f :: later → place f = target →
            (∀ g ∈ later, place g ≠ target) → after = (.ok (), { t with updates := Table.insert f.name old t.updates })) ∧
          ((∀ f ∈ front.archive.files, place f ≠ target) →
            after.1 = .error (.mismatch (.differ stream path)) ∧ after.2.updates = t.updates) := by
  obtain ⟨front, settings, hbegins, hsplan, hextracted⟩ := knows_of_setUp hsetup
  refine ⟨front, settings, hbegins, ?_⟩
  intro dirs t hgoes m stream path old got hm hwrote hgot hdiffers
  extract_lets place target after
  have hknows := hgoes.knowsFiles
  have htarget : t.absolute path = target := congrArg (Path.join · path) hgoes.directory_eq
  have hcompare := eval_cmp_wrote hm (hknows.plan.trans hsplan ▸ hplan) hwrote hgot hdiffers
  have hfound : Table.get? (t.absolute path) t.extracted =
      Table.get? target (front.archive.files.foldl (fun table f => Table.insert (place f) f.name table) []) := by
    rw [htarget, hknows.extracted, hextracted]
  rw [hfound] at hcompare
  constructor
  · intro earlier f later hfiles hplace hlast
    rw [hfiles, get?_extracted hplace hlast] at hcompare
    exact hcompare
  · intro hnone
    rw [get?_extracted_eq_none hnone] at hcompare
    exact ⟨congrArg (·.1) hcompare, (congrArg (·.2.updates) hcompare).trans (updates_logLine _ t)⟩

/-! ### A golden file under two spellings -/

/-- The script with a golden file when its command has told something else. -/
def retelledOld : Script := (retoldReady updating (Utf8.encode "old\n")).telling "new\n"

/-- That script once it has gone to the directory that it is in. -/
def retelledThere : Script := ({ retelledOld with directory := "/script-" } : Script).logLine "/script-"

theorem disk_retelledOld : retelledOld.scene.disk = toldDisk (Utf8.encode "old\n") := rfl

theorem directory_retelledOld : retelledOld.directory = "/script-" :=
  (told_eq updating (Utf8.encode "old\n") "new\n").2.2.1

theorem extracted_retelledOld : retelledOld.extracted = [("/script-/out", "out")] :=
  (told_eq updating (Utf8.encode "old\n") "new\n").2.2.2.2.2.2.1

/-- The golden file is read under every path that is cleaned to its own. -/
theorem text_retelledOld {p : String} (hslash : '/' ∈ p.toList) (habsolute : Path.isAbsolute p = true)
    (hclean : Path.clean p = "/script-/out") (log : Transcript) (directory : String) :
    ({ retelledOld with log, directory } : Script).text p = .ok "old\n" := by
  have hread : (toldDisk (Utf8.encode "old\n")).read (Path.clean p) = .ok (Utf8.encode "old\n") := by
    rw [hclean, ← path_retold.1]
    exact read_toldDisk _
  have htext := text_of_read (s := { retelledOld with log, directory }) (ne_stream_of_slash hslash)
    (by rw [absolute_of_isAbsolute habsolute]; exact hread)
  rw [htext]
  exact congrArg _ (by decide)

theorem eval_cd_retelledOld : eval (Command.cd .plain ["/script-"]) retelledOld = (.ok (), retelledThere) := by
  have habsolute : retelledOld.absolute "/script-" = "/script-" := absolute_of_isAbsolute (by cbv)
  have hcut : "/script-".splitOn "/" = ["", "script-"] := by
    rw [show "/script-".splitOn "/" = _ from Line.splitOn_singleton '/' "/script-"]
    cbv
  have hnull : "/script-".contains '\x00' = false := by rw [String.contains_char_eq]; decide
  have hslash : Files.endsInSlash "/script-" = false := by cbv
  have hfind : (toldDisk (Utf8.encode "old\n")).find true "/script-" = .ok (["script-"], .directory 0o755) := by
    refine Disk.find_eq_ok_iff.mpr ⟨hnull, fun h => (Bool.false_ne_true (hslash.symm.trans h)).elim,
      Files.locate_eq_ok_iff.mpr ⟨by decide, by decide, ?_⟩⟩
    rw [hcut]
    cbv
  have hexists : retelledOld.scene.disk.exists? "/script-" = true := by
    rw [disk_retelledOld, Disk.exists?, Disk.find?, hfind]
    rfl
  have hdirectory : retelledOld.scene.disk.isDirectory "/script-" = true := by
    rw [disk_retelledOld, Disk.isDirectory, Disk.find?, hfind]
    rfl
  rw [Command.eval_cd, habsolute, if_pos hexists, if_pos hdirectory]
  rfl

theorem golden_known_by_spelling_told :
    (updating.updateScripts = true ∧
      eval (setUp (retelling "new\n")) (retoldScript updating (Utf8.encode "old\n")) =
        (.ok "go\n", retoldReady updating (Utf8.encode "old\n")) ∧
      Goes (retoldReady updating (Utf8.encode "old\n")) ["/script-"] retelledThere ∧ retelledThere.Wrote "stdout" "new\n" ∧
      retelledThere.text (retelledThere.absolute "out") = .ok "old\n") ∧
    eval (Command.cmp .plain ["stdout", "out"]) retelledThere =
      (.ok (), { retelledThere with updates := [("out", "new\n")] }) := by
  have hsetup : eval (setUp (retelling "new\n")) (retoldScript updating (Utf8.encode "old\n")) =
      (.ok "go\n", retoldReady updating (Utf8.encode "old\n")) := setUp_retold "new\n" parse_old
  have htold : Goes (retoldReady updating (Utf8.encode "old\n")) [] retelledOld := .stays .start ⟨rfl, rfl⟩ rfl
  have hgoes : Goes (retoldReady updating (Utf8.encode "old\n")) ["/script-"] retelledThere :=
    .cd htold "/script-" eval_cd_retelledOld
  have hjoin : Path.join "/script-" "out" = "/script-/out" := by cbv
  have htext : retelledThere.text (retelledThere.absolute "out") = .ok "old\n" := by
    rw [show retelledThere.absolute "out" = "/script-/out" from hjoin]
    exact text_retelledOld (by decide) (by cbv) path_retold.1 _ _
  refine ⟨⟨rfl, hsetup, hgoes, .inl ⟨rfl, rfl⟩, htext⟩, ?_⟩
  obtain ⟨front, settings, hbegins, hcompare⟩ := golden_known_by_spelling rfl hsetup
  obtain ⟨rfl, rfl, -⟩ := hbegins.unique (begins_retold parse_old)
  have hknown := (hcompare _ _ hgoes .plain "stdout" "out" _ _ (by decide) (.inl ⟨rfl, rfl⟩) htext (by decide)).1
  refine hknown [] (toldFile (Utf8.encode "old\n")) [] rfl ?_ fun g hg => absurd hg List.not_mem_nil
  have hthere : Path.join (retoldReady updating (Utf8.encode "old\n")).directory "/script-" = "/script-" :=
    if_pos (by cbv)
  rw [List.foldl_cons, List.foldl_nil, hthere, hjoin]
  exact placeOf_retold

/-- A dot in the path of the golden file changes neither what it is cleaned to nor what it is normalized to. -/
theorem path_dotted :
    Path.clean "/script-/./out" = "/script-/out" ∧ Path.normalize "/script-/./out" = Path.normalize "/script-/out" := by
  have hnames : Path.names "/script-/./out" = Path.names "/script-/out" := by
    rw [Path.names, Path.names, show "/script-/./out".splitOn "/" = _ from Line.splitOn_singleton '/' "/script-/./out",
      show "/script-/out".splitOn "/" = _ from Line.splitOn_singleton '/' "/script-/out"]
    cbv
  have hdouble : "/script-/./out".startsWith "//" = "/script-/out".startsWith "//" := by cbv
  have htriple : "/script-/./out".startsWith "///" = "/script-/out".startsWith "///" := by cbv
  have habsolute : Path.isAbsolute "/script-/./out" = Path.isAbsolute "/script-/out" := by cbv
  have hempty : "/script-/./out".isEmpty = "/script-/out".isEmpty := by cbv
  constructor
  · rw [← path_retold.1, Path.clean, Path.clean, hnames, hdouble, htriple, habsolute]
  · rw [Path.normalize, Path.normalize, hnames, hdouble, htriple, habsolute, hempty]

/-- What is compared under that path fails: the file is not known by it. -/
theorem eval_cmp_dotted :
    retelledOld.absolute "./out" = "/script-/./out" ∧ retelledOld.text "/script-/./out" = .ok "old\n" ∧
      (eval (Command.cmp .plain ["stdout", "./out"]) retelledOld).1 = .error (.mismatch (.differ "stdout" "./out")) ∧
      (eval (Command.cmp .plain ["stdout", "./out"]) retelledOld).2.updates = [] := by
  have habsolute : retelledOld.absolute "./out" = "/script-/./out" := by
    rw [absolute, directory_retelledOld]
    cbv
  have htext : retelledOld.text "/script-/./out" = .ok "old\n" :=
    text_retelledOld (by decide) (by cbv) path_dotted.1 _ _
  have hunknown : Table.get? (retelledOld.absolute "./out") retelledOld.extracted = none := by
    rw [habsolute, extracted_retelledOld]
    rfl
  have hwrote : retelledOld.Wrote "stdout" "new\n" := .inl ⟨rfl, rfl⟩
  have hcompare := eval_cmp_wrote (m := .plain) (by decide) rfl hwrote (habsolute ▸ htext) (by decide)
  rw [hunknown] at hcompare
  exact ⟨habsolute, htext, congrArg (·.1) hcompare, (congrArg (·.2.updates) hcompare).trans (updates_logLine _ _)⟩

/-- The path of a file of the archive with a dot in it leads to the file, and there are no links. What differs from the
file is not recorded under it. -/
theorem golden_unknown_by_dot :
    retelledOld.plan.updateScripts = true ∧
      (∀ entry ∈ retelledOld.scene.disk.tree.entries, entry.2.isLink = false) ∧
      Table.get? "/script-/out" retelledOld.extracted = some "out" ∧
      Path.normalize (retelledOld.absolute "./out") = Path.normalize "/script-/out" ∧
      retelledOld.stdout = "new\n" ∧ retelledOld.text (retelledOld.absolute "./out") = .ok "old\n" ∧
      (eval (Command.cmp .plain ["stdout", "./out"]) retelledOld).1 = .error (.mismatch (.differ "stdout" "./out")) ∧
      (eval (Command.cmp .plain ["stdout", "./out"]) retelledOld).2.updates = [] := by
  obtain ⟨habsolute, htext, hfails, hupdates⟩ := eval_cmp_dotted
  have hlinks : ∀ entry ∈ (toldDisk (Utf8.encode "old\n")).tree.entries, entry.2.isLink = false := by decide
  rw [habsolute, extracted_retelledOld, disk_retelledOld]
  exact ⟨rfl, hlinks, rfl, path_dotted.2, rfl, htext, hfails, hupdates⟩

end Script

end Rehearsal
