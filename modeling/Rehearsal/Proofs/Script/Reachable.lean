import Rehearsal.Proofs.Environment
import Rehearsal.Proofs.Script.Deferred
import Rehearsal.Proofs.Script.FixedPoint

/-!
# What holds all the way

From when it is set up a script comes to many states (`Later`). What its commands keep, and what does not depend on how far
it has come, holds in each of them (`Later.keeps`). Two laws are of this kind, for every host that has to do with variables
and golden files as a script has: the views of a script's variables say the same (`views_agree`), and what it records for
golden files it records for files of its archive, which can therefore be stored (`golden_in_archive`).
-/

namespace Rehearsal.Script

open Step (eval Keeps Lasting)

/-! ## States -/

/-- What a script comes to from a state on: its text is performed, or a part of that, and golden files are stored. -/
inductive Later (host : Host) (s : Script) : Script → Prop where
  | refl : Later host s s
  | timed {t : Script} (h : Later host s t) : Later host s (eval startTimer t).2
  | shown {t : Script} (h : Later host s t) : Later host s (eval (showVariables host) t).2
  | text {t : Script} (h : Later host s t) (text : String) : Later host s (eval (performText host text) t).2
  | line {t : Script} (h : Later host s t) (line : String) : Later host s (eval (performLine (performer host) line) t).2
  | command {t : Script} (h : Later host s t) (m : Modifier) (words : List String) :
    Later host s (eval (Command.dispatch host m words) t).2
  | assign {t : Script} (h : Later host s t) (key value : String) : Later host s (eval (Action.assign key value) t).2
  | stored {t : Script} (h : Later host s t) : Later host s (eval storeUpdates t).2

/-- **What commands keep holds whatever a script comes to.** -/
theorem Later.keeps {R : Script → Script → Prop} [CoversCourse R] {host : Host} (hhost : host.KeepsTo R) {s t : Script}
    (h : Later host s t) : R s t := by
  induction h with
  | refl => exact Lasting.refl s
  | timed _ ih => exact Lasting.trans ih (keeps_startTimer _)
  | shown _ ih => exact Lasting.trans ih (keeps_showVariables hhost _)
  | text _ text ih => exact Lasting.trans ih (keeps_performText hhost text _)
  | line _ line ih => exact Lasting.trans ih (keeps_performLine (performer_keepsTo hhost) line _)
  | command _ m words ih => exact Lasting.trans ih (Command.keeps_dispatch hhost m words _)
  | assign _ key value ih => exact Lasting.trans ih (keeps_assign key value _)
  | stored _ ih => exact Lasting.trans ih (keeps_storeUpdates _)

theorem Later.trans {host : Host} {s t u : Script} (h : Later host s t) (h' : Later host t u) : Later host s u := by
  induction h' with
  | refl => exact h
  | timed _ ih => exact .timed ih
  | shown _ ih => exact .shown ih
  | text _ text ih => exact .text ih text
  | line _ line ih => exact .line ih line
  | command _ m words ih => exact .command ih m words
  | assign _ key value ih => exact .assign ih key value
  | stored _ ih => exact .stored ih

instance (host : Host) : Lasting (Later host) where
  refl _ := .refl
  trans := Later.trans

/-- A performance takes a script that was set up through such states. -/
theorem later_performAll {host : Host} {s₀ s : Script} {text : String} (hsetup : eval (setUp host) s₀ = (.ok text, s)) :
    Later host s (eval (performAll host) s₀).2 := by
  rw [performAll, Step.eval_bind_of_ok hsetup]
  refine Step.keeps_bind (R := Later host) (.timed .refl) fun _ t _ => ?_
  refine Step.keeps_bind (.shown .refl) fun _ u _ => ?_
  refine Step.keeps_bind (keeps_attempt (.text .refl text)) fun result v _ => ?_
  refine Step.keeps_bind (.stored .refl) fun _ w _ => ?_
  split
  · exact .refl
  · exact .refl

/-! ## Variables -/

/-- What was done to the variables of a script, as far as anything was: they were assigned. -/
inductive Assigns (s : Script) : Script → Prop where
  | refl : Assigns s s
  | assign {t : Script} (h : Assigns s t) (key value : String) (hname : Environment.isName key) :
    Assigns s (t.assign key value)
  /-- Something else was done. -/
  | other {t u : Script} (h : Assigns s t) (platform : u.platform = t.platform) (entries : u.entries = t.entries)
    (known : u.known = t.known) : Assigns s u

theorem Assigns.trans {s t u : Script} (h : Assigns s t) (h' : Assigns t u) : Assigns s u := by
  induction h' with
  | refl => exact h
  | assign _ key value hname ih => exact .assign ih key value hname
  | other _ platform entries known ih => exact .other ih platform entries known

instance : CoversCourse Assigns where
  refl _ := .refl
  trans := Assigns.trans
  change h := by
    cases h with
    | assign key value hname => exact .assign .refl key value hname
    | _ => exact .other .refl rfl rfl rfl
  course _ _ _ _ _ _ _ := .other .refl rfl rfl rfl

/-- What may name a variable has no equals sign in it. -/
theorem not_mem_of_isName {key : String} (h : Environment.isName key) : '=' ∉ key.toList := by
  rw [Environment.isName, Bool.and_eq_true] at h
  simpa using h.2

/-- A table that the entries were replayed into stays that while variables are assigned. -/
theorem Assigns.known {s t : Script} (h : Assigns s t) (hknown : s.known = Environment.table s.platform s.entries) :
    t.known = Environment.table t.platform t.entries := by
  induction h with
  | refl => exact hknown
  | assign _ key value hname ih =>
    rw [Script.assign]
    dsimp only
    rw [Environment.table_append_entry (not_mem_of_isName hname), ih]
  | other _ platform entries known ih => rw [platform, entries, known, ih]

/-- Dressing a script ends with replaying its entries. -/
theorem known_of_dress {host : Host} {s t : Script} (h : eval (dress host) s = (.ok (), t)) :
    t.known = Environment.table t.platform t.entries := by
  rw [dress] at h
  split at h
  · cases h
    rfl
  · rw [Step.eval_get_bind] at h
    split at h
    split at h
    · cases h
      rfl
    · cases h

/-- The views of a script's variables say the same. -/
structure Agrees (s : Script) : Prop where
  /-- The table is what the entries come to. -/
  table : s.known = Environment.table s.platform s.entries
  /-- What is looked up there is what a host finds in the entries: the value of the last assignment to the name. -/
  lookup : ∀ key, s.valueOf key = s.dressing.valueOf key ∧ Environment.IsValue s.platform s.entries key (s.valueOf key)
  /-- A program sees no name twice. -/
  single : (s.processVariables.map fun v => Environment.normalName s.platform v.1).Nodup
  /-- It sees every name that is assigned. -/
  every : ∀ a ∈ Environment.assignments s.entries,
    ∃ v ∈ s.processVariables, Environment.normalName s.platform v.1 = Environment.normalName s.platform a.1
  /-- It sees the directory of the script, and every other name as it was last assigned. -/
  process : ∀ key value, (key, value) ∈ s.processVariables ↔
    if Environment.normalName s.platform key = Environment.normalName s.platform "PWD" then
      key = "PWD" ∧ value = s.directory
    else
      value = s.valueOf key ∧
        Environment.IsLast s.platform (Environment.normalName s.platform key) s.entries key value
  /-- Entries without an equals sign make no difference. -/
  plain : ∀ entries, entries = s.entries.filter (fun e => e.toList.contains '=') →
    Environment.table s.platform entries = s.known ∧
      (∀ key, Environment.get s.platform entries key = s.valueOf key) ∧
      Environment.forProcess s.platform (entries ++ [Environment.entry "PWD" s.directory]) = s.processVariables
  /-- What may not name a variable is refused, and nothing else happens. -/
  refused : ∀ key value, key = "" ∨ '=' ∈ key.toList →
    eval (Action.assign key value) s = (.error (.misuse (.badVariable key)), s)

theorem not_isName {key : String} (h : key = "" ∨ '=' ∈ key.toList) : ¬Environment.isName key := by
  rintro hname
  rcases h with rfl | hmem
  · cases hname
  · exact not_mem_of_isName hname hmem

theorem agrees_of_known {s : Script} (h : s.known = Environment.table s.platform s.entries) : s.Agrees := by
  have hvalue : ∀ key, s.valueOf key = Environment.get s.platform s.entries key := by
    intro key
    rw [valueOf, h, Environment.get?_table, Environment.get_eq]
  have hplain : '=' ∉ "PWD".toList := by decide
  constructor
  case table => exact h
  case lookup => exact fun key => ⟨hvalue key, hvalue key ▸ Environment.isValue_get _ _ _⟩
  case single => exact Environment.nodup_names_forProcess _ _
  case every =>
    intro a ha
    refine Environment.exists_mem_forProcess ?_
    rw [Environment.assignments_append]
    exact List.mem_append_left _ ha
  case process =>
    intro key value
    rw [processVariables, Environment.mem_forProcess_iff, Environment.last?_append_entry hplain]
    by_cases hname : Environment.normalName s.platform "PWD" = Environment.normalName s.platform key
    · rw [if_pos hname, if_pos hname.symm, Option.some.injEq, Prod.mk.injEq]
      exact and_congr eq_comm eq_comm
    · rw [if_neg hname, if_neg (Ne.symm hname), ← Environment.last?_eq_some_iff]
      refine ⟨fun hlast => ⟨?_, hlast⟩, And.right⟩
      rw [hvalue, Environment.get_eq, hlast]
      rfl
  case plain =>
    rintro _ rfl
    let plain := s.entries.filter fun e => e.toList.contains '='
    have hsame : Environment.assignments plain = Environment.assignments s.entries := Environment.assignments_filter s.entries
    have hpwd : Environment.assignments (plain ++ [Environment.entry "PWD" s.directory]) =
        Environment.assignments (s.entries ++ [Environment.entry "PWD" s.directory]) := by
      rw [Environment.assignments_append, Environment.assignments_append, hsame]
    have hviews := Environment.views_congr (p := s.platform) hsame
    have hprocess := Environment.views_congr (p := s.platform) hpwd ""
    exact ⟨(hviews "").1.trans h.symm, fun key => (hviews key).2.1.trans (hvalue key).symm, hprocess.2.2⟩
  case refused =>
    intro key value hbad
    rw [Action.assign, if_neg (not_isName hbad)]
    rfl

/-- **The views of a script's variables say the same whatever it comes to**, on every platform and for every host that does
nothing to variables but assign them. While a host dresses a script, what may not name a variable is refused as well. -/
theorem views_agree {host : Host} (hhost : host.KeepsTo Assigns) {s₀ s t : Script} {text : String}
    (hsetup : eval (setUp host) s₀ = (.ok text, s)) (hlater : Later host s t) :
    t.Agrees ∧ ∀ (d : Dressing) (key value : String), key = "" ∨ '=' ∈ key.toList →
      (Dressing.assign key value).run d = (.error (.accident (.host .value (Environment.badName key))), d) := by
  obtain ⟨front, settings, u, -, -, hdress⟩ := begins_of_setUp hsetup
  refine ⟨agrees_of_known ((hlater.keeps hhost).known (known_of_dress hdress)), fun d key value hbad => ?_⟩
  rw [Dressing.assign, if_neg (not_isName hbad)]
  rfl

/-- A script on a platform where names are compared without their case. -/
def foldingScript : Script := opening .usual ⟨"windows", "x86_64"⟩ "a" "" "" (.ofDisk (sampleDisk headerText) [])

/-- That script when it is set up. -/
def foldingReady : Script := (foldingScript.begun headerFront none).retabled

theorem setUp_folding : eval (setUp (.bare false)) foldingScript = (.ok "# a\n", foldingReady) := by
  obtain ⟨⟨hmade, hdata, harchive, htext⟩, hgood, hgoes⟩ := begins_header
  have hbegins : foldingScript.Begins headerFront none "# a\n" := ⟨⟨hmade, hdata, harchive, htext⟩, hgood, hgoes⟩
  rw [eval_setUp rfl hbegins, show headerFront.archive.files = [] from rfl, eval_extractAll_nil]
  rfl

/-- Where names are compared without their case, a program sees the last spelling of a name, and the directory under the
name that is kept for it, whatever was assigned to that. -/
theorem views_agree_folding :
    ∃ s t, eval (setUp (.bare false)) foldingScript = (.ok "# a\n", s) ∧ Later (.bare false) s t ∧
      t.valueOf "path" = "2" ∧ ("PATH", "2") ∈ t.processVariables ∧ ("Path", "1") ∉ t.processVariables ∧
      ("PWD", t.directory) ∈ t.processVariables ∧ ("pwd", "x") ∉ t.processVariables := by
  let t := ((foldingReady.assign "Path" "1").assign "PATH" "2").assign "pwd" "x"
  have hlater : Later (.bare false) foldingReady t := .assign (.assign (.assign .refl "Path" "1") "PATH" "2") "pwd" "x"
  obtain ⟨hagrees, -⟩ := views_agree (Host.bare_keepsTo Assigns false) setUp_folding hlater
  have hfold : ∀ key name, lowerCase key = name → Environment.normalName t.platform key = name := by
    rintro key _ rfl
    have hwindows : t.platform.isWindows = true := by
      rw [show t.platform = ⟨"windows", "x86_64"⟩ from rfl]
      cbv
    rw [Environment.normalName, if_pos hwindows]
  have hupper : Environment.normalName t.platform "PATH" = "path" := hfold _ _ (by cbv)
  have hmixed : Environment.normalName t.platform "Path" = "path" := hfold _ _ (by cbv)
  have hlower : Environment.normalName t.platform "path" = "path" := hfold _ _ (by cbv)
  have hkept : Environment.normalName t.platform "PWD" = "pwd" := hfold _ _ (by cbv)
  have hfolded : Environment.normalName t.platform "pwd" = "pwd" := hfold _ _ (by cbv)
  have hknown : t.known = Table.insert (Environment.normalName t.platform "pwd") "x"
      (Table.insert (Environment.normalName t.platform "PATH") "2"
        (Table.insert (Environment.normalName t.platform "Path") "1" foldingReady.known)) := rfl
  have hvalue : ∀ key, Environment.normalName t.platform key = "path" → t.valueOf key = "2" := by
    intro key hkey
    rw [valueOf, hkey, hknown, hfolded, hupper, Table.get?_insert, if_neg (by decide), Table.get?_insert, if_pos rfl]
    rfl
  have hlast : Environment.IsLast t.platform "path" t.entries "PATH" "2" := by
    refine ⟨foldingReady.entries ++ [Environment.entry "Path" "1"], [Environment.entry "pwd" "x"], ?_, by decide, hupper, ?_⟩
    · show ((_ ++ [_]) ++ [_]) ++ [_] = _
      rw [List.append_assoc (_ ++ [_])]
      rfl
    · rw [Environment.assignments_entry (by decide), List.forall_mem_singleton, hfolded]
      decide
  refine ⟨foldingReady, t, setUp_folding, hlater, hvalue _ hlower, ?_, fun hseen => ?_, ?_, fun hseen => ?_⟩
  · rw [hagrees.process, hupper, hkept, if_neg (by decide)]
    exact ⟨(hvalue _ hupper).symm, hlast⟩
  · rw [hagrees.process, hmixed, hkept, if_neg (by decide), hvalue _ hmixed] at hseen
    exact absurd hseen.1 (by decide)
  · rw [hagrees.process, if_pos rfl]
    exact ⟨rfl, rfl⟩
  · rw [hagrees.process, hfolded, hkept, if_pos rfl] at hseen
    exact absurd hseen.1 (by decide)

/-! ## Golden files -/

/-- A script that has the archive it had, with its files at the same paths, and has recorded nothing new but for one of them.
-/
structure Archived (s t : Script) : Prop where
  archive : t.archive = s.archive
  extracted : t.extracted = s.extracted
  updates : ∀ golden ∈ t.updates.keys, golden ∈ s.updates.keys ∨ ∃ path, Table.get? path s.extracted = some golden

theorem Archived.of_eq {s t : Script} (archive : t.archive = s.archive) (extracted : t.extracted = s.extracted)
    (updates : t.updates = s.updates) : Archived s t :=
  ⟨archive, extracted, fun _ h => .inl (updates ▸ h)⟩

theorem Archived.trans {s t u : Script} (h : Archived s t) (h' : Archived t u) : Archived s u := by
  refine ⟨h'.archive.trans h.archive, h'.extracted.trans h.extracted, fun golden hgolden => ?_⟩
  rcases h'.updates golden hgolden with hold | ⟨path, hpath⟩
  · exact h.updates golden hold
  · exact .inr ⟨path, h.extracted ▸ hpath⟩

instance : CoversCourse Archived where
  refl _ := .of_eq rfl rfl rfl
  trans := Archived.trans
  change h := by
    cases h with
    | record path name text hplan hname =>
      refine ⟨rfl, rfl, fun golden hgolden => ?_⟩
      rcases Table.mem_keys_insert.mp hgolden with rfl | hold
      · exact .inr ⟨path, hname⟩
      · exact .inl hold
    | _ => exact .of_eq rfl rfl rfl
  course _ _ _ _ _ _ _ := .of_eq rfl rfl rfl

theorem archived_dress (host : Host) (s : Script) : Keeps Archived (dress host) s :=
  keeps_dress (fun _ => .of_eq rfl rfl rfl) (fun _ _ => .of_eq rfl rfl rfl) (fun _ _ => .of_eq rfl rfl rfl) host s

/-- A script that has recorded what it had, with the same programs beside it. -/
structure Idle (s t : Script) : Prop where
  updates : t.updates = s.updates
  background : t.background = s.background

instance : CoversSetup Idle where
  refl _ := ⟨rfl, rfl⟩
  trans h h' := ⟨h'.updates.trans h.updates, h'.background.trans h.background⟩
  setUp _ _ _ _ _ _ _ _ := ⟨rfl, rfl⟩

theorem idle_setUp (host : Host) (s : Script) : Keeps Idle (setUp host) s :=
  keeps_setUp (keeps_dress (fun _ => ⟨rfl, rfl⟩) (fun _ _ => ⟨rfl, rfl⟩) (fun _ _ => ⟨rfl, rfl⟩) host) s

/-- Files that are put in their places go by their names, also where one takes the place of another. -/
theorem name_of_extractAll {files : List Archive.File} {s t : Script} (h : eval (extractAll files) s = (.ok (), t))
    {path golden : String} (hget : Table.get? path t.extracted = some golden) :
    Table.get? path s.extracted = some golden ∨ ∃ f ∈ files, f.name = golden := by
  rw [extracted_of_extractAll h, Table.get?_foldl_insert] at hget
  cases hlast : files.reverse.find? fun f => s.placeOf f == path with
  | none =>
    rw [hlast] at hget
    exact .inl hget
  | some f =>
    rw [hlast] at hget
    exact .inr ⟨f, List.mem_reverse.mp (List.mem_of_find?_eq_some hlast), Option.some.inj hget⟩

/-- What a script has recorded, it has recorded for files of its archive. -/
def Rooted (s : Script) : Prop :=
  ∀ golden ∈ s.updates.keys, ∃ a, s.archive = some a ∧ ∃ f ∈ a.files, f.name = golden

theorem rooted_of_nil {s : Script} (h : s.updates = []) : s.Rooted := by
  intro golden hgolden
  rw [h] at hgolden
  cases hgolden

/-- A script that was set up comes to record nothing but for files of its archive. -/
theorem rooted_of_setUp {host : Host} {s₀ s t : Script} {text : String} (hextracted : s₀.extracted = [])
    (hupdates : s₀.updates = []) (hsetup : eval (setUp host) s₀ = (.ok text, s)) (h : Archived s t) : t.Rooted := by
  obtain ⟨front, settings, u, -, hextract, hdress⟩ := begins_of_setUp hsetup
  have hdressed := archived_dress host u
  have hkept := idle_setUp host s₀
  rw [Keeps, hdress] at hdressed
  rw [Keeps, hsetup] at hkept
  have harchive : u.archive = some front.archive := by
    obtain ⟨extracted, disk, rfl⟩ := exists_of_extractAll hextract
    exact (begun_eq front settings s₀).2.1
  have hnone : (s₀.begun front settings).extracted = [] := by
    rw [← hextracted]
    cases settings <;> rfl
  intro golden hgolden
  rcases h.updates golden hgolden with hold | ⟨path, hpath⟩
  · rw [hkept.updates.trans hupdates] at hold
    cases hold
  · rw [hdressed.extracted] at hpath
    rcases name_of_extractAll hextract hpath with hold | hfile
    · rw [hnone] at hold
      cases hold
    · exact ⟨front.archive, h.archive.trans (hdressed.archive.trans harchive), hfile⟩

/-- What is recorded for files of the archive goes into it, unless it cannot be quoted or the script file cannot be written.
-/
theorem storeUpdates_of_rooted {s : Script} (h : s.Rooted) (i : Integrity) :
    (eval storeUpdates s).1 ≠ .error (.integrity i) := by
  intro hstore
  cases hupdates : s.updates with
  | nil =>
    rw [eval_storeUpdates_of_nil hupdates] at hstore
    cases hstore
  | cons u rest =>
    obtain ⟨a, harchive, -⟩ := h u.1 (by rw [hupdates]; exact List.mem_cons_self)
    rw [eval_storeUpdates harchive (by rw [hupdates]; exact List.cons_ne_nil _ _)] at hstore
    cases hall : a.updateAll s.updates with
    | ok b =>
      rw [hall] at hstore
      obtain ⟨-, e, he | he⟩ := writeArchive_refused (Prod.ext hstore rfl)
      · cases he
      · cases he
    | error e =>
      rw [hall] at hstore
      cases e with
      | quoting name e => cases hstore
      | notInArchive name =>
        obtain ⟨hname, hmissing⟩ := Archive.updateAll_notInArchive hall
        obtain ⟨b, hb, f, hf, hfile⟩ := h name hname
        obtain rfl := Option.some.inj (harchive.symm.trans hb)
        exact hmissing f hf hfile

/-- What a script comes to, from before it is set up until it is over. -/
inductive Reached (host : Host) (s₀ : Script) : Script → Prop where
  | opening : Reached host s₀ s₀
  | setUp : Reached host s₀ (eval (setUp host) s₀).2
  | later {text : String} {s t : Script} (hsetup : eval (Script.setUp host) s₀ = (.ok text, s)) (h : Later host s t) :
    Reached host s₀ t
  | ended : Reached host s₀ ((perform host).run s₀).2

theorem archived_abandoned (s : Script) : Archived s s.abandoned.markTime := by
  have habandoned : Archived s s.abandoned := covers_abandoned (fun _ => .of_eq rfl rfl rfl) s
  rw [markTime_eq]
  exact habandoned.trans (.of_eq rfl rfl rfl)

theorem archived_perform (host : Host) (s : Script) : Archived (eval (performAll host) s).2 ((perform host).run s).2 := by
  obtain ⟨notes, log, hended⟩ := perform_eq host s
  have hnoted : ∀ t : Script, Archived t (t.withNotes notes log) := fun _ => .of_eq rfl rfl rfl
  rw [hended]
  exact (hnoted _).trans (archived_abandoned _)

/-- A script that could not be set up is over without having recorded anything. -/
theorem updates_perform_of_refused {host : Host} {s₀ s : Script} {f : Fault} (hupdates : s₀.updates = [])
    (hbackground : s₀.background = []) (hsetup : eval (setUp host) s₀ = (.error f, s)) :
    ((perform host).run s₀).2.updates = [] := by
  obtain ⟨notes, log, hended⟩ := perform_eq host s₀
  have hidle := idle_setUp host s₀
  have hrefused : (eval (performAll host) s₀).2 = s := by rw [performAll, Step.eval_bind_of_error hsetup]
  rw [Keeps, hsetup] at hidle
  have halone : (s.withNotes notes log).background = [] := hidle.background.trans hbackground
  rw [hended, hrefused, abandoned_of_nil halone, markTime_eq]
  exact hidle.updates.trans hupdates

/-- **What a script records for golden files, it records for files of its archive.** So storing it never finds the two out
of step, whatever variables the names of the files have in them, and whether or not some lead to the same path. -/
theorem golden_in_archive {host : Host} (hhost : host.KeepsTo Archived) {plan : Plan} {platform : Platform}
    {file name root : String} {scene : Scene} {t : Script}
    (h : Reached host (opening plan platform file name root scene) t) :
    t.Rooted ∧ ∀ i, (eval storeUpdates t).1 ≠ .error (.integrity i) := by
  have hrooted : t.Rooted := by
    cases h with
    | opening => exact rooted_of_nil rfl
    | setUp => exact rooted_of_nil (idle_setUp host _).updates
    | later hsetup h => exact rooted_of_setUp rfl rfl hsetup (h.keeps hhost)
    | ended =>
      rcases hsetup : eval (setUp host) (opening plan platform file name root scene) with ⟨f | text, s⟩
      · exact rooted_of_nil (updates_perform_of_refused rfl rfl hsetup)
      · exact rooted_of_setUp rfl rfl hsetup (((later_performAll hsetup).keeps hhost).trans (archived_perform host _))
  exact ⟨hrooted, storeUpdates_of_rooted hrooted⟩

/-- A script that has recorded something has recorded it for the golden file of its archive. -/
theorem golden_in_archive_told :
    ∃ t, Reached (retelling "new\n") (retoldScript updating (Utf8.encode "old\n")) t ∧ t.updates = [("out", "new\n")] ∧
      (∃ a, t.archive = some a ∧ ∃ f ∈ a.files, f.name = "out") ∧ ∀ i, (eval storeUpdates t).1 ≠ .error (.integrity i) := by
  let ready := retoldReady updating (Utf8.encode "old\n")
  obtain ⟨-, -, -, hbackground, hstopped, -⟩ := told_eq updating (Utf8.encode "old\n") "new\n"
  have hdiffers : "new\n" ≠ String.ofList (Line.unifyNewlines "old\n".toList) := by decide
  obtain ⟨t, htext, hupdates, -⟩ := performText_go (s := ready) ⟨rfl, rfl⟩ hstopped hbackground
    ((eval_cmp_told updating hdiffers).1 rfl)
  have hlater : Later (retelling "new\n") ready (eval (performText (retelling "new\n") "go\n") ready).2 :=
    .text .refl "go\n"
  rw [htext] at hlater
  have hreached : Reached (retelling "new\n") (retoldScript updating (Utf8.encode "old\n")) t :=
    .later (setUp_retold "new\n" parse_old) hlater
  obtain ⟨hrooted, hstore⟩ := golden_in_archive (retelling_keepsTo "new\n") hreached
  refine ⟨t, hreached, hupdates, hrooted "out" ?_, hstore⟩
  rw [hupdates]
  exact List.mem_singleton_self "out"

end Rehearsal.Script
