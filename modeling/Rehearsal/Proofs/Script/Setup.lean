import Mathlib
import Rehearsal.Proofs.Files.Growth
import Rehearsal.Proofs.Files.Place
import Rehearsal.Proofs.Script.Change
import Rehearsal.Script.Setup

/-!
# What setting a script up comes to

A script is read as `Finds` says: its directory is made, its file is there and holds an archive, and the comment of that is
text. Where this is not so, the script has failed (`finds_or_refused`). What follows from there is said by one equation for
each part of the setup.

A relation that `CoversSetup` is kept by all of it, whatever happens (`keeps_setUp`).
-/

namespace Rehearsal.Script

open Step (eval Keeps Fails Lasting)

/-! ## What a setup keeps -/

/-- A relation that setting a script up keeps to, as far as the host is left out. -/
class CoversSetup (R : Script → Script → Prop) : Prop extends Lasting R where
  setUp : ∀ (s : Script) archive settings entries known extracted disk warnings,
    R s { s with archive, settings, entries, known, extracted, scene := { s.scene with disk, warnings } }

section Keeps

variable {R : Script → Script → Prop} [CoversSetup R]

theorem covers_disk (s : Script) (disk : Files.Disk) : R s { s with scene := { s.scene with disk } } :=
  CoversSetup.setUp s _ _ _ _ _ _ _

theorem keeps_placing {α : Type} (a : Files.Access α) (s : Script) : Keeps R (Action.files a) s := by
  rw [Keeps, eval_files]
  exact covers_disk s _

theorem keeps_settingUp {α : Type} {a : Action α} {s : Script} (h : Keeps R a s) : Keeps R (settingUp a) s := by
  refine Step.keeps_bind (keeps_attempt h) fun result t _ => ?_
  split
  · exact Step.keeps_pure _ t
  · exact Step.keeps_throw _ t
  · exact Step.keeps_throw _ t

theorem keeps_readArchive (s : Script) : Keeps R readArchive s := by
  refine Step.keeps_get_bind (Step.keeps_bind (Step.keeps_get_bind ?_) fun data t _ => ?_)
  · split
    · exact Step.keeps_pure _ s
    · exact Step.keeps_throw _ s
  · split
    · exact Step.keeps_throw _ t
    · exact Step.keeps_bind (Step.keeps_modify (CoversSetup.setUp t _ _ _ _ _ _ _)) fun _ u _ => Step.keeps_pure _ u

theorem keeps_readSettings (comment : Bytes) (s : Script) : Keeps R (readSettings comment) s := by
  rw [readSettings]
  split
  · exact Step.keeps_throw _ s
  · extract_lets read
    refine Step.keeps_bind (Step.keeps_modify (CoversSetup.setUp s _ _ _ _ _ _ _)) fun _ t _ => ?_
    split
    · exact Step.keeps_throw _ t
    · exact Step.keeps_bind (Step.keeps_modify (CoversSetup.setUp t _ _ _ _ _ _ _)) fun _ u _ => Step.keeps_pure _ u

theorem keeps_applySettings (s : Script) : Keeps R applySettings s := by
  refine Step.keeps_get_bind ?_
  split
  · exact Step.keeps_pure _ s
  · extract_lets giving
    split
    · exact Step.keeps_throw_bind _ _ s
    · exact Step.keeps_modify (CoversSetup.setUp s _ _ _ _ _ _ _)

theorem keeps_extract (f : Archive.File) (s : Script) : Keeps R (extract f) s := by
  refine Step.keeps_get_bind ?_
  extract_lets path place
  refine Step.keeps_bind (Step.keeps_set (CoversSetup.setUp s _ _ _ _ _ _ _)) fun _ t _ => ?_
  refine Step.keeps_bind (keeps_attempt (keeps_placing _ t)) fun result u _ => ?_
  split
  · exact Step.keeps_pure _ u
  · exact Step.keeps_throw _ u
  · exact Step.keeps_throw _ u

/-- **Setting a script up keeps what the host keeps when it dresses the script**, and what the rest of it is covered by. -/
theorem keeps_setUp {host : Host} (hdress : ∀ s, Keeps R (dress host) s) (s : Script) : Keeps R (setUp host) s := by
  refine Step.keeps_get_bind (Step.keeps_bind (keeps_settingUp ?_) fun body t _ => ?_)
  · refine Step.keeps_bind (keeps_placing _ s) fun _ t _ => ?_
    exact Step.keeps_bind (keeps_readArchive t) fun archive u _ => keeps_readSettings _ u
  · refine Step.keeps_bind (keeps_applySettings t) fun _ u _ => Step.keeps_get_bind ?_
    refine Step.keeps_bind (Step.keeps_forIn (fun f _ v => ?_) u) fun _ v _ => ?_
    · exact Step.keeps_bind (keeps_extract f v) fun _ w _ => Step.keeps_pure _ w
    · exact Step.keeps_bind (hdress v) fun _ w _ => Step.keeps_pure _ w

end Keeps

/-- A host that dresses a script does so at once, or leaves its traces and fails. -/
theorem keeps_dress {R : Script → Script → Prop} [Lasting R] (hretabled : ∀ s : Script, R s s.retabled)
    (htraces : ∀ (s : Script) d, R s (s.withTraces d)) (hdressing : ∀ (s : Script) d, R s (s.withDressing d)) (host : Host)
    (s : Script) : Keeps R (dress host) s := by
  rw [dress]
  split
  · exact Step.keeps_modify (hretabled s)
  · refine Step.keeps_get_bind ?_
    split
    split
    · exact Step.keeps_modify (hdressing s _)
    · exact Step.keeps_bind (Step.keeps_modify (htraces s _)) fun _ t _ => Step.keeps_throw _ t

/-! ## Reading -/

/-- What is found of a script: the disk with its directory on it, what its file holds, and the text in front. -/
structure Front where
  disk : Files.Disk
  data : Bytes
  archive : Archive
  text : String

/-- What is found of a script that can be read. -/
structure Finds (s : Script) (front : Front) : Prop where
  made : eval (Files.Access.makeDirectories (Path.join s.workDir "tmp")) s.scene.disk = (.ok (), front.disk)
  data : front.disk.read (Path.clean s.file) = .ok front.data
  archive : Archive.parse front.data = .ok front.archive
  text : Utf8.decode front.archive.comment = .ok front.text

/-- The part of a setup that reads. -/
def reading (workDir : String) : Action String := do
  Action.files (Files.Access.makeDirectories (Path.join workDir "tmp"))
  let archive ← readArchive
  readSettings archive.comment

/-- A script that was told warnings about its settings. -/
def warned (text : String) (s : Script) : Script :=
  { s with scene := { s.scene with warnings := s.scene.warnings ++ (Frontmatter.read text).warnings } }

/-- A script that was read. -/
def found (front : Front) (settings : Option Frontmatter) (s : Script) : Script :=
  { s with
    archive := some front.archive
    settings
    scene := { s.scene with disk := front.disk, warnings := s.scene.warnings ++ (Frontmatter.read front.text).warnings } }

theorem eval_readArchive (s : Script) :
    eval readArchive s =
      match s.scene.disk.read (Path.clean s.file) with
      | .error e => (.error (.accident (.file e)), s)
      | .ok data =>
        match Archive.parse data with
        | .error e => (.error (.accident (.notUtf8 e)), s)
        | .ok archive => (.ok archive, { s with archive := some archive }) := by
  rw [readArchive, Step.eval_get_bind, Step.eval_bind, eval_look]
  cases s.scene.disk.read (Path.clean s.file) with
  | error e => rfl
  | ok data =>
    simp only [Except.mapError]
    cases Archive.parse data <;> rfl

theorem eval_readSettings (comment : Bytes) (s : Script) :
    eval (readSettings comment) s =
      match Utf8.decode comment with
      | .error e => (.error (.accident (.notUtf8 e)), s)
      | .ok text =>
        match (Frontmatter.read text).result with
        | .error e => (.error (.accident (.frontmatter e)), s.warned text)
        | .ok (settings, body) => (.ok body, { s.warned text with settings }) := by
  rw [readSettings]
  cases Utf8.decode comment with
  | error e => rfl
  | ok text =>
    dsimp only
    rw [Step.eval_modify_bind]
    cases (Frontmatter.read text).result <;> rfl

/-- A script that was found is read, and its settings are good or not. -/
theorem eval_reading {s : Script} {front : Front} (h : s.Finds front) :
    eval (reading s.workDir) s =
      match (Frontmatter.read front.text).result with
      | .error e => (.error (.accident (.frontmatter e)), s.found front s.settings)
      | .ok (settings, body) => (.ok body, s.found front settings) := by
  rw [reading, Step.eval_bind, eval_files, h.made]
  simp only [Except.mapError]
  rw [Step.eval_bind, eval_readArchive]
  simp only [h.data, h.archive]
  rw [eval_readSettings, h.text]
  dsimp only
  cases (Frontmatter.read front.text).result <;> rfl

/-- A script that is not found is refused for a reason that a script can fail with. -/
theorem finds_or_refused (s : Script) :
    (∃ front, s.Finds front) ∨
      ∃ a, (eval (reading s.workDir) s).1 = .error (.accident a) ∧ (a.isSystem || a.isValue) = true := by
  rw [reading, Step.eval_bind, eval_files]
  rcases hmade : eval (Files.Access.makeDirectories (Path.join s.workDir "tmp")) s.scene.disk with ⟨e | u, disk⟩
  · exact .inr ⟨.file e, rfl, by cases e <;> rfl⟩
  simp only [Except.mapError]
  rw [Step.eval_bind, eval_readArchive]
  dsimp only
  cases hdata : disk.read (Path.clean s.file) with
  | error e => exact .inr ⟨.file e, rfl, by cases e <;> rfl⟩
  | ok data =>
    dsimp only
    cases harchive : Archive.parse data with
    | error e => exact .inr ⟨.notUtf8 e, rfl, rfl⟩
    | ok archive =>
      dsimp only
      rw [eval_readSettings]
      cases htext : Utf8.decode archive.comment with
      | error e => exact .inr ⟨.notUtf8 e, rfl, rfl⟩
      | ok text => exact .inl ⟨⟨disk, data, archive, text⟩, hmade, hdata, harchive, htext⟩

/-- One thing is found of a script. -/
theorem Finds.unique {s : Script} {front other : Front} (h : s.Finds front) (h' : s.Finds other) : front = other := by
  obtain ⟨disk, data, archive, text⟩ := front
  obtain ⟨disk', data', archive', text'⟩ := other
  obtain rfl : disk = disk' := (Prod.mk.inj (h.made.symm.trans h'.made)).2
  obtain rfl : data = data' := Except.ok.inj (h.data.symm.trans h'.data)
  obtain rfl : archive = archive' := Except.ok.inj (h.archive.symm.trans h'.archive)
  obtain rfl : text = text' := Except.ok.inj (h.text.symm.trans h'.text)
  rfl

/-- What was found of a script was found on a path without a null character. -/
theorem Finds.file_plain {s : Script} {front : Front} (h : s.Finds front) : '\x00' ∉ (Path.clean s.file).toList := by
  intro hnull
  have hcontains : (Path.clean s.file).contains '\x00' = true := by rw [String.contains_char_eq, decide_eq_true hnull]
  have hread := h.data
  rw [Files.Disk.read, Files.Disk.find, hcontains] at hread
  cases hread

/-! ## Settings -/

/-- A script with its variables. -/
def furnished (s : Script) : Script :=
  match s.settings with
  | none => s
  | some settings =>
    ({ s with entries := s.entries ++ settings.vars.map fun (k, v) => Environment.entry k v } : Script).retabled

theorem eval_applySettings (s : Script) :
    eval applySettings s =
      match s.settings.bind (·.skip) with
      | some reason => (.error (.skip reason), s)
      | none => (.ok (), s.furnished) := by
  rw [applySettings, Step.eval_get_bind, furnished]
  cases hsettings : s.settings with
  | none => rfl
  | some settings =>
    rw [Option.bind_some]
    cases hskip : settings.skip with
    | none => simp only [hskip, Step.eval_modify, hsettings]
    | some reason =>
      simp only [hskip]
      rfl

/-! ## Files -/

/-- The path of a file of the archive, variables in its name replaced. -/
def placeOf (s : Script) (f : Archive.File) : String := s.absolute (s.expand f.name)

/-- A script one of whose files was put in its place, or refused there. -/
def extracting (f : Archive.File) (disk : Files.Disk) (s : Script) : Script :=
  { s with extracted := Table.insert (s.placeOf f) f.name s.extracted, scene := { s.scene with disk } }

/-- What it means for a script that a file cannot be put in its place. -/
def extractFault : Files.Error → Fault
  | .refused why path link => .misuse (.accident (.file (.refused why path link)))
  | .nullCharacter => .accident (.file .nullCharacter)

theorem eval_extract (f : Archive.File) (s : Script) :
    eval (extract f) s =
      let (result, disk) := eval (Files.Access.place (s.placeOf f) f.data) s.scene.disk
      (result.mapError extractFault, s.extracting f disk) := by
  rw [extract, Step.eval_get_bind]
  extract_lets path place
  have hplace : place = Files.Access.place (s.placeOf f) f.data := rfl
  rw [Step.eval_set_bind, Step.eval_bind, eval_attempt, eval_files, hplace]
  dsimp only
  rcases eval (Files.Access.place (s.placeOf f) f.data) s.scene.disk with ⟨e | u, disk⟩
  · cases e <;> rfl
  · rfl

/-- Puts files of the archive in their places. -/
def extractAll (files : List Archive.File) : Action PUnit :=
  forIn files PUnit.unit fun f _ => do extract f; pure (.yield PUnit.unit)

theorem eval_extractAll_nil (s : Script) : eval (extractAll []) s = (.ok (), s) := rfl

theorem eval_extractAll_cons (f : Archive.File) (rest : List Archive.File) (s : Script) :
    eval (extractAll (f :: rest)) s =
      match eval (extract f) s with
      | (.ok _, t) => eval (extractAll rest) t
      | (.error e, t) => (.error e, t) := by
  rw [extractAll, Step.eval_forIn_cons]
  rcases eval (extract f) s with ⟨e | u, t⟩ <;> rfl

/-- Files that are all in their places were put there one after the other. -/
theorem place_of_extractAll {f : Archive.File} {rest : List Archive.File} {s t : Script}
    (h : eval (extractAll (f :: rest)) s = (.ok (), t)) :
    ∃ disk, eval (Files.Access.place (s.placeOf f) f.data) s.scene.disk = (.ok (), disk) ∧
      eval (extractAll rest) (s.extracting f disk) = (.ok (), t) := by
  rw [eval_extractAll_cons, eval_extract] at h
  rcases hplace : eval (Files.Access.place (s.placeOf f) f.data) s.scene.disk with ⟨e | x, disk⟩
  all_goals rw [hplace] at h
  · cases h
  · exact ⟨disk, rfl, h⟩

/-- Putting files in their places changes the disk, and which files they are. -/
theorem exists_of_extractAll {files : List Archive.File} {s t : Script} (h : eval (extractAll files) s = (.ok (), t)) :
    ∃ extracted disk, t = { s with extracted, scene := { s.scene with disk } } := by
  induction files generalizing s with
  | nil =>
    obtain ⟨-, rfl⟩ := Prod.mk.inj h
    exact ⟨s.extracted, s.scene.disk, rfl⟩
  | cons f rest ih =>
    obtain ⟨disk, -, hrest⟩ := place_of_extractAll h
    obtain ⟨extracted, disk', rfl⟩ := ih hrest
    exact ⟨extracted, disk', rfl⟩

/-- Files that are put in their places are known by their paths. -/
theorem extracted_of_extractAll {files : List Archive.File} {s t : Script}
    (h : eval (extractAll files) s = (.ok (), t)) :
    t.extracted = files.foldl (fun table f => Table.insert (s.placeOf f) f.name table) s.extracted := by
  induction files generalizing s with
  | nil =>
    obtain ⟨-, rfl⟩ := Prod.mk.inj h
    rfl
  | cons f rest ih =>
    obtain ⟨disk, -, hrest⟩ := place_of_extractAll h
    rw [ih hrest]
    rfl

/-- Where files cannot all be put in their places, there is a first that cannot. -/
theorem eval_extractAll_error_iff {files : List Archive.File} {s t : Script} {fault : Fault} :
    eval (extractAll files) s = (.error fault, t) ↔
      ∃ before f after u, files = before ++ f :: after ∧ eval (extractAll before) s = (.ok (), u) ∧
        eval (extract f) u = (.error fault, t) := by
  constructor
  · intro h
    induction files generalizing s with
    | nil =>
      rw [eval_extractAll_nil] at h
      cases h
    | cons f rest ih =>
      rw [eval_extractAll_cons] at h
      rcases hf : eval (extract f) s with ⟨e | u, v⟩
      all_goals
        rw [hf] at h
        dsimp only at h
      · exact ⟨[], f, rest, s, rfl, rfl, hf.trans h⟩
      · obtain ⟨before, g, after, w, rfl, hbefore, hg⟩ := ih h
        refine ⟨f :: before, g, after, w, rfl, ?_, hg⟩
        rw [eval_extractAll_cons, hf]
        exact hbefore
  · rintro ⟨before, f, after, u, rfl, hbefore, hf⟩
    induction before generalizing s with
    | nil =>
      rw [eval_extractAll_nil] at hbefore
      obtain ⟨-, rfl⟩ := Prod.mk.inj hbefore
      rw [List.nil_append, eval_extractAll_cons, hf]
    | cons g more ih =>
      rw [eval_extractAll_cons] at hbefore
      rw [List.cons_append, eval_extractAll_cons]
      rcases hg : eval (extract g) s with ⟨e | x, v⟩
      all_goals
        rw [hg] at hbefore
        dsimp only at hbefore ⊢
      · obtain ⟨h, -⟩ := Prod.mk.inj hbefore
        cases h
      · exact ih hbefore

/-! ## All of it -/

theorem eval_settingUp {α : Type} (a : Action α) (s : Script) :
    eval (settingUp a) s =
      match eval a s with
      | (.ok x, t) => (.ok x, t)
      | (.error (.accident a), t) => (.error (setupFault a), t)
      | (.error f, t) => (.error f, t) := by
  rw [settingUp, Step.eval_bind, eval_attempt]
  rcases eval a s with ⟨f | x, t⟩
  · cases f <;> rfl
  · rfl

/-- A script that comes to its first file: it can be read, its settings are good, and they do not skip it. -/
structure Begins (s : Script) (front : Front) (settings : Option Frontmatter) (body : String) : Prop
    extends s.Finds front where
  good : (Frontmatter.read front.text).result = .ok (settings, body)
  goesOn : settings.bind (·.skip) = none

/-- A script comes to its first file in one way. -/
theorem Begins.unique {s : Script} {front other : Front} {settings others : Option Frontmatter} {body text : String}
    (h : s.Begins front settings body) (h' : s.Begins other others text) :
    front = other ∧ settings = others ∧ body = text := by
  obtain rfl := h.toFinds.unique h'.toFinds
  have hread := Except.ok.inj (h.good.symm.trans h'.good)
  exact ⟨rfl, Prod.mk.inj hread⟩

/-- A script that has come to its first file. -/
def begun (front : Front) (settings : Option Frontmatter) (s : Script) : Script := (s.found front settings).furnished

theorem begun_eq (front : Front) (settings : Option Frontmatter) (s : Script) :
    (s.begun front settings).plan = s.plan ∧ (s.begun front settings).archive = some front.archive ∧
      (s.begun front settings).settings = settings := by
  cases settings <;> exact ⟨rfl, rfl, rfl⟩

/-- A script that comes to its first file is set up when its files are in their places and the host has dressed it. -/
theorem eval_setUp_dress {host : Host} {s : Script} {front : Front} {settings : Option Frontmatter} {body : String}
    (h : s.Begins front settings body) :
    eval (setUp host) s =
      match eval (extractAll front.archive.files) (s.begun front settings) with
      | (.ok _, t) =>
        match eval (dress host) t with
        | (.ok _, u) => (.ok body, u)
        | (.error f, u) => (.error f, u)
      | (.error f, t) => (.error f, t) := by
  have hread : eval (settingUp (reading s.workDir)) s = (.ok body, s.found front settings) := by
    rw [eval_settingUp, eval_reading h.toFinds, h.good]
  have happly : eval applySettings (s.found front settings) = (.ok (), s.begun front settings) := by
    rw [eval_applySettings, show (s.found front settings).settings.bind (·.skip) = none from h.goesOn]
    rfl
  have hrest : eval (setUp host) s =
      eval (extractAll front.archive.files >>= fun _ => dress host >>= fun _ => pure body) (s.begun front settings) := by
    rw [setUp, Step.eval_get_bind]
    refine (Step.eval_bind_of_ok hread).trans ((Step.eval_bind_of_ok happly).trans ?_)
    rw [Step.eval_get_bind, (begun_eq front settings s).2.1]
    rfl
  rw [hrest, Step.eval_bind]
  rcases eval (extractAll front.archive.files) (s.begun front settings) with ⟨f | u, t⟩
  · rfl
  · dsimp only
    rw [Step.eval_bind]
    rcases eval (dress host) t with ⟨f | u, t⟩ <;> rfl

/-- A script that nobody dresses is set up when its files are in their places. -/
theorem eval_setUp {host : Host} (hdress : host.dresser? = none) {s : Script} {front : Front}
    {settings : Option Frontmatter} {body : String} (h : s.Begins front settings body) :
    eval (setUp host) s =
      match eval (extractAll front.archive.files) (s.begun front settings) with
      | (.ok _, t) => (.ok body, t.retabled)
      | (.error f, t) => (.error f, t) := by
  rw [eval_setUp_dress h]
  rcases eval (extractAll front.archive.files) (s.begun front settings) with ⟨f | u, t⟩
  · rfl
  · rw [dress, hdress]
    rfl

/-- A script that was set up was read, and its files were put in their places before the host dressed it. -/
theorem begins_of_setUp {host : Host} {s t : Script} {text : String} (h : eval (setUp host) s = (.ok text, t)) :
    ∃ front settings u, s.Begins front settings text ∧
      eval (extractAll front.archive.files) (s.begun front settings) = (.ok (), u) ∧
      eval (dress host) u = (.ok (), t) := by
  rw [setUp, Step.eval_get_bind] at h
  obtain ⟨body, read, hread, hrest⟩ := Step.eval_bind_eq_ok h
  have hread : eval (settingUp (reading s.workDir)) s = (.ok body, read) := hread
  rw [eval_settingUp] at hread
  obtain ⟨front, hfinds⟩ | ⟨a, hrefused, -⟩ := finds_or_refused s
  case inr =>
    rcases hrun : eval (reading s.workDir) s with ⟨result, v⟩
    rw [hrun] at hrefused hread
    obtain rfl : result = _ := hrefused
    cases hread
  rw [eval_reading hfinds] at hread
  cases hgood : (Frontmatter.read front.text).result with
  | error e =>
    rw [hgood] at hread
    cases hread
  | ok pair =>
    obtain ⟨settings, found⟩ := pair
    rw [hgood] at hread
    cases hread
    obtain ⟨_, applied, happly, hrest⟩ := Step.eval_bind_eq_ok hrest
    rw [eval_applySettings] at happly
    cases hskip : (s.found front settings).settings.bind (·.skip) with
    | some reason =>
      rw [hskip] at happly
      cases happly
    | none =>
      rw [hskip] at happly
      cases happly
      rw [Step.eval_get_bind] at hrest
      obtain ⟨_, u, hextract, hrest⟩ := Step.eval_bind_eq_ok hrest
      obtain ⟨_, v, hdress, hrest⟩ := Step.eval_bind_eq_ok hrest
      cases hrest
      refine ⟨front, settings, u, ⟨hfinds, hgood, hskip⟩, ?_, hdress⟩
      have harchive : (s.found front settings).furnished.archive = some front.archive := (begun_eq front settings s).2.1
      rw [harchive] at hextract
      exact hextract

/-- What a script that was set up is left to perform is what follows its settings. -/
theorem body_of_setUp {host : Host} {s t : Script} {front : Front} {settings : Option Frontmatter} {body text : String}
    (hfinds : s.Finds front) (hgood : (Frontmatter.read front.text).result = .ok (settings, body))
    (h : eval (setUp host) s = (.ok text, t)) : text = body := by
  have hread : eval (settingUp (reading s.workDir)) s = (.ok body, s.found front settings) := by
    rw [eval_settingUp, eval_reading hfinds, hgood]
  rw [setUp, Step.eval_get_bind] at h
  have hrest := (Step.eval_bind_of_ok hread).symm.trans h
  obtain ⟨_, u, -, hrest⟩ := Step.eval_bind_eq_ok hrest
  rw [Step.eval_get_bind] at hrest
  obtain ⟨_, v, -, hrest⟩ := Step.eval_bind_eq_ok hrest
  obtain ⟨_, w, -, hrest⟩ := Step.eval_bind_eq_ok hrest
  cases hrest
  rfl

/-! ## A script to try things on -/

/-- A disk with the directory of a script without a name, and a file. -/
def sampleDisk (data : Bytes) : Files.Disk :=
  ⟨⟨[(["script-"], .directory 0o755), (["script-", "tmp"], .directory 0o755), (["a"], .file 0o644 data)]⟩, []⟩

/-- The script in that file. -/
def sample (plan : Plan) (data : Bytes) : Script :=
  opening plan ⟨"linux", "x86_64"⟩ "a" "" "" (.ofDisk (sampleDisk data) [])

theorem directory_sample (plan : Plan) (data : Bytes) : (sample plan data).directory = "script-" := by cbv

/-- What leads to the directory of the sample, or to the one in it. -/
theorem spot_sampleDisk {p : String} {names : List String} (data : Bytes)
    (hcut : (p.splitOn "/").filter (fun n => !n.isEmpty) = names)
    (hplain : p ≠ "" ∧ p.utf8ByteSize ≤ Files.maxPath ∧ '\x00' ∉ p.toList ∧ Files.endsInSlash p = false)
    (hnames : names = ["script-"] ∨ names = ["script-", "tmp"]) :
    (sampleDisk data).spot p none = .ok (.entry names (.directory 0o755)) ∧ (sampleDisk data).isDirectory p := by
  obtain ⟨hempty, hlong, hnull, hslash⟩ := hplain
  have hcontains : p.contains '\x00' = false := by rw [String.contains_char_eq, decide_eq_false hnull]
  have hwalk : ∀ follow, Files.walk (sampleDisk data).tree follow Files.maxLinks [] names =
      .ok (.entry names (.directory 0o755)) := by
    rintro follow
    rcases hnames with rfl | rfl <;> cases follow <;> cbv
  have hlocate : ∀ follow, Files.locate (sampleDisk data).tree (sampleDisk data).base follow p =
      .ok (.entry names (.directory 0o755)) := by
    intro follow
    rw [Files.locate, hcut, if_neg (by simpa using hempty), if_neg (Nat.not_lt.mpr hlong)]
    show Files.walk _ _ _ (if Path.isAbsolute p then [] else []) names = _
    rw [ite_self]
    exact hwalk follow
  constructor
  · rw [Files.Disk.spot, hcontains, hlocate]
    rfl
  · rw [Files.Disk.isDirectory, Files.Disk.find?, Files.Disk.find, hcontains, Files.find, hslash, hlocate]
    rfl

theorem spot_sampleDisk_outer (data : Bytes) :
    (sampleDisk data).spot "script-" none = .ok (.entry ["script-"] (.directory 0o755)) ∧
      (sampleDisk data).isDirectory "script-" := by
  refine spot_sampleDisk data ?_ ⟨by decide, by decide, by decide, by cbv⟩ (.inl rfl)
  rw [show "script-".splitOn "/" = _ from Line.splitOn_singleton '/' "script-"]
  cbv

theorem spot_sampleDisk_inner (data : Bytes) :
    (sampleDisk data).spot "script-/tmp" none = .ok (.entry ["script-", "tmp"] (.directory 0o755)) ∧
      (sampleDisk data).isDirectory "script-/tmp" := by
  refine spot_sampleDisk data ?_ ⟨by decide, by decide, by decide, by cbv⟩ (.inr rfl)
  rw [show "script-/tmp".splitOn "/" = _ from Line.splitOn_singleton '/' "script-/tmp"]
  cbv

section

variable {data : Bytes} {d : Files.Disk}

/-- What leads to the directories of the sample leads to directories that are there already, also on a disk that has
grown. -/
theorem makeDirectories_of_spot (hgrows : (sampleDisk data).Grows d) {outer inner : String}
    (houter : (sampleDisk data).spot outer none = .ok (.entry ["script-"] (.directory 0o755)) ∧
      (sampleDisk data).isDirectory outer)
    (hinner : (sampleDisk data).spot inner none = .ok (.entry ["script-", "tmp"] (.directory 0o755)) ∧
      (sampleDisk data).isDirectory inner)
    (hhead : (Files.Access.splitLastName outer).1 = "" ∨ d.exists? (Files.Access.splitLastName outer).1)
    (hfront : (Files.Access.splitLastName inner).1 = outer) :
    eval (Files.Access.makeDirectories outer) d = (.ok (), d) ∧ eval (Files.Access.makeDirectories inner) d = (.ok (), d) := by
  have hexists : d.exists? outer := by
    obtain ⟨r, e, hfind, -⟩ := Files.Disk.isDirectory_iff.mp (hgrows.isDirectory houter.2)
    rw [Files.Disk.exists?, Files.Disk.find?, hfind]
    rfl
  constructor
  · apply Files.Access.makeDirectories_of_entry (hgrows.spot_directory houter.1) (hgrows.isDirectory houter.2)
    rcases hhead with hempty | hthere
    · rw [hempty]
      rfl
    · rw [hthere, Bool.or_true]
  · apply Files.Access.makeDirectories_of_entry (hgrows.spot_directory hinner.1) (hgrows.isDirectory hinner.2)
    rw [hfront, hexists, Bool.or_true]

/-- The directory of the sample is there already, also on a disk that has grown. -/
theorem makeDirectories_of_grows (hgrows : (sampleDisk data).Grows d) :
    eval (Files.Access.makeDirectories "script-") d = (.ok (), d) ∧
      eval (Files.Access.makeDirectories "script-/tmp") d = (.ok (), d) :=
  makeDirectories_of_spot hgrows (spot_sampleDisk_outer data) (spot_sampleDisk_inner data)
    (.inl (by decide +kernel)) (by decide +kernel)

theorem makeDirectories_sampleDisk (data : Bytes) :
    eval (Files.Access.makeDirectories "script-") (sampleDisk data) = (.ok (), sampleDisk data) ∧
      eval (Files.Access.makeDirectories "script-/tmp") (sampleDisk data) = (.ok (), sampleDisk data) :=
  makeDirectories_of_grows (Lasting.refl _)

/-- The file of the sample is found, also on a disk that has grown around it. -/
theorem find_of_grows (hgrows : (sampleDisk data).Grows d) (hfile : d.tree.get? ["a"] = some (.file 0o644 data)) :
    d.find true (Path.clean "a") = .ok (["a"], .file 0o644 data) := by
  have hclean : Path.clean "a" = "a" := by cbv
  have hlocate : Files.locate (sampleDisk data).tree (sampleDisk data).base true "a" =
      .ok (.entry ["a"] (.file 0o644 data)) := by cbv
  have hcontains : "a".contains '\x00' = false := by rw [String.contains_char_eq]; decide
  obtain ⟨e, hfind, -⟩ := hgrows.find (Files.Disk.find_eq_file.mpr ⟨hcontains, by cbv, hlocate⟩)
  obtain rfl : e = .file 0o644 data := Option.some.inj ((Files.Disk.get?_of_find hfind).symm.trans hfile)
  rw [hclean]
  exact hfind

/-- What is found of the sample is what its file holds, also on a disk that has grown around it. -/
theorem finds_of_grows {plan : Plan} {archive : Archive} {text : String} (hgrows : (sampleDisk data).Grows d)
    (hfile : d.tree.get? ["a"] = some (.file 0o644 data)) (harchive : Archive.parse data = .ok archive)
    (htext : Utf8.decode archive.comment = .ok text) :
    (opening plan ⟨"linux", "x86_64"⟩ "a" "" "" (.ofDisk d [])).Finds ⟨d, data, archive, text⟩ := by
  have hdirectory : Path.join (sample plan data).workDir "tmp" = "script-/tmp" := by cbv
  constructor
  case made =>
    show eval (Files.Access.makeDirectories (Path.join (sample plan data).workDir "tmp")) d = (.ok (), d)
    rw [hdirectory]
    exact (makeDirectories_of_grows hgrows).2
  case data =>
    apply Files.Disk.read_of_find (find_of_grows hgrows hfile)
    simp [Files.Entry.allows, Files.Entry.mode, Files.readBit]
  case archive => exact harchive
  case text => exact htext

/-- What is found of the sample is what its file holds. -/
theorem finds_sample {plan : Plan} {archive : Archive} {text : String}
    (harchive : Archive.parse data = .ok archive) (htext : Utf8.decode archive.comment = .ok text) :
    (sample plan data).Finds ⟨sampleDisk data, data, archive, text⟩ :=
  finds_of_grows (Lasting.refl _) rfl harchive htext

end

end Rehearsal.Script
