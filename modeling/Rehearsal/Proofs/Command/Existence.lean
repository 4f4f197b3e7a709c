import Rehearsal.Proofs.Files.Resolution
import Rehearsal.Proofs.Script.Background

/-!
# Asking whether files exist

`exists` looks at its files one after the other and ends with the first that is not as it was asked to be. What it says of a
file is read off where the path leads (`Refuses`), and it leaves the script as it is.

The main law, `existence_decides_iff`: the plain form ends well exactly if all paths resolve, the negated one exactly if all are
missing. A path that is neither, since it cannot be told where it leads, is no outcome but a misuse, under every modifier. So
the command decides existence for exactly those paths of which none is untold: a path below a file is there as little as one
below nothing, and is refused all the same.
-/

namespace Rehearsal

open Step (eval)
open Files (Entry)

namespace Script

/-- A file of a command leads to an entry. -/
def Resolves (s : Script) (file : String) (e : Entry) : Prop := s.scene.disk.Resolves (s.absolute file) e

/-- It is known that there is no such file. -/
def Missing (s : Script) (file : String) : Prop := s.scene.disk.Missing (s.absolute file)

/-- It cannot be told whether there is. -/
def Untold (s : Script) (file : String) : Prop := s.scene.disk.Untold (s.absolute file)

end Script

namespace Command

/-! ## Turns that change nothing -/

/-- A loop whose turns leave the state as it is ends as the first that ends early. -/
theorem eval_forIn_of_still {γ : Type} {l : List γ} {body : γ → Action PUnit} {v : γ → Except Fault PUnit} {s : Script}
    (h : ∀ x ∈ l, eval (body x) s = (v x, s)) :
    eval (forIn l PUnit.unit fun x _ => do body x; pure (.yield PUnit.unit)) s = (forM l v, s) := by
  induction l with
  | nil => rfl
  | cons x rest ih =>
    rw [Step.eval_forIn_cons, h x List.mem_cons_self, List.forM_cons]
    cases v x with
    | error f => rfl
    | ok u => exact ih fun y hy => h y (List.mem_cons_of_mem x hy)

theorem forM_eq_ok_iff {γ : Type} {l : List γ} {v : γ → Except Fault PUnit} : forM l v = .ok ⟨⟩ ↔ ∀ x ∈ l, v x = .ok ⟨⟩ := by
  induction l with
  | nil => exact iff_of_true rfl nofun
  | cons x rest ih =>
    rw [List.forM_cons, List.forall_mem_cons]
    cases v x with
    | error f => exact iff_of_false nofun nofun
    | ok u => exact ih.trans (and_iff_right rfl).symm

theorem forM_eq_error_iff {γ : Type} {l : List γ} {v : γ → Except Fault PUnit} {f : Fault} :
    forM l v = .error f ↔ ∃ front x back, l = front ++ x :: back ∧ (∀ y ∈ front, v y = .ok ⟨⟩) ∧ v x = .error f := by
  induction l with
  | nil => exact iff_of_false nofun (by simp)
  | cons x rest ih =>
    rw [List.forM_cons]
    constructor
    · intro h
      cases hx : v x with
      | error g =>
        rw [hx] at h
        exact ⟨[], x, rest, rfl, nofun, hx.trans h⟩
      | ok u =>
        rw [hx] at h
        obtain ⟨front, y, back, rfl, hfront, hy⟩ := ih.mp h
        exact ⟨x :: front, y, back, rfl, List.forall_mem_cons.mpr ⟨hx, hfront⟩, hy⟩
    · rintro ⟨front, y, back, hl, hfront, hy⟩
      cases front with
      | nil =>
        obtain ⟨rfl, rfl⟩ := List.cons.inj hl
        rw [hy]
        rfl
      | cons z front =>
        obtain ⟨rfl, hrest⟩ := List.cons.inj hl
        obtain ⟨hx, hfront⟩ := List.forall_mem_cons.mp hfront
        rw [hx]
        exact ih.mpr ⟨front, y, back, hrest, hfront, hy⟩

/-! ## One file -/

variable {s : Script} {m : Modifier} {file : String}

/-- What is said of a file that is not as it was asked to be. -/
inductive Refuses (s : Script) : Modifier → String → Fault → Prop where
  | absent {file : String} (h : s.Missing file) : Refuses s .plain file (.mismatch (.absent file))
  | present {file : String} {e : Entry} (h : s.Resolves file e) :
    Refuses s .negated file (.mismatch (.present e.isDirectory file))
  | untold {m : Modifier} {file : String} {e : Files.Error} (h : s.Untold file)
    (hfind : s.scene.disk.find true (s.absolute file) = .error e) : Refuses s m file (.misuse (.accident (.file e)))

/-- A file is as it was asked to be. -/
def Accepts (s : Script) (m : Modifier) (file : String) : Prop :=
  match m with
  | .plain => ∃ e, s.Resolves file e
  | .negated => s.Missing file
  | .neutral => ¬s.Untold file

theorem Refuses.not_accepts {f : Fault} (h : Refuses s m file f) : ¬Accepts s m file := by
  cases h with
  | absent h => exact fun ⟨e, he⟩ => h.nothing e he
  | present h => exact fun hmissing => hmissing.nothing _ h
  | untold h =>
    cases m with
    | plain => exact fun ⟨e, he⟩ => he.not_untold h
    | negated => exact fun hmissing => hmissing.known h
    | neutral => exact fun hnot => hnot h

theorem Refuses.unique {f f' : Fault} (h : Refuses s m file f) (h' : Refuses s m file f') : f = f' := by
  cases h with
  | absent h =>
    cases h' with
    | absent => rfl
    | untold h' => exact absurd h' h.known
  | present h =>
    cases h' with
    | present h' => rw [h.unique h']
    | untold h' => exact absurd h' h.not_untold
  | untold h hfind =>
    cases h' with
    | absent h' => exact absurd h h'.known
    | present h' => exact absurd h h'.not_untold
    | untold h' hfind' =>
      cases hfind.symm.trans hfind'
      rfl

/-- Looking for the entry of a file changes nothing. -/
theorem eval_entry (path : String) (s : Script) :
    eval ( entry? path) s =
      (match s.scene.disk.find true path with
        | .ok (_, e) => .ok (some e)
        | .error (.refused .notFound _ _) => .ok none
        | .error e => .error (.accident (.file e)), s) := by
  rw [ entry?, Step.eval_get_bind]
  rcases s.scene.disk.find true path with e | ⟨place, e⟩
  · rcases e with ⟨why, path, link⟩ | _
    · cases why <;> rfl
    · rfl
  · rfl

/-- That a file cannot be looked at is a misuse which speaks for itself. -/
theorem judge_file {verb : String} (e : Files.Error) :
    eval (judge m verb (.accident (.file e))) s = (.error (.misuse (.accident (.file e))), s) := by
  cases e <;> rfl

/-- What a command without flags says of a file. -/
def checked (s : Script) (m : Modifier) (file : String) : Except Fault PUnit :=
  (eval (Wanted.check ⟨false, false⟩ m file) s).1

/-- What is said of a file, and what that is judged to be. Nothing is changed. -/
theorem check_cases (s : Script) (m : Modifier) (file : String) :
    (eval (Wanted.check ⟨false, false⟩ m file) s = (.ok ⟨⟩, s) ∧ Accepts s m file) ∨
      ∃ f g, eval (Wanted.check ⟨false, false⟩ m file) s = (.error f, s) ∧ Refuses s m file g ∧
        eval (judge m "exists" f) s = (.error g, s) := by
  have hsought := s.scene.disk.sought_find (s.absolute file)
  have hentry := eval_entry (s.absolute file) s
  have habsolute : eval (absolute file) s = (.ok (s.absolute file), s) := rfl
  rw [Wanted.check, Step.eval_bind_of_ok habsolute]
  generalize hfind : s.scene.disk.find true (s.absolute file) = found at hsought hentry
  cases hsought with
  | resolved h =>
    rw [Step.eval_bind_of_ok hentry]
    cases m with
    | plain => exact .inl ⟨rfl, _, h⟩
    | negated => exact .inr ⟨_, _, rfl, .present h, rfl⟩
    | neutral => exact .inl ⟨rfl, h.not_untold⟩
  | missing h =>
    rw [Step.eval_bind_of_ok hentry]
    cases m with
    | plain => exact .inr ⟨_, _, rfl, .absent h, rfl⟩
    | negated => exact .inl ⟨rfl, h⟩
    | neutral => exact .inl ⟨rfl, h.known⟩
  | @untold e h hwhy =>
    have herror : eval ( entry? (s.absolute file)) s = (.error (.accident (.file e)), s) := by
      rw [hentry]
      split
      next heq => cases heq
      next path link heq => exact absurd (Except.error.inj heq) (hwhy path link)
      next heq => cases heq; rfl
    rw [Step.eval_bind_of_error herror]
    exact .inr ⟨_, _, rfl, .untold h hfind, judge_file e⟩

theorem eval_check (s : Script) (m : Modifier) (file : String) :
    eval (Wanted.check ⟨false, false⟩ m file) s = (checked s m file, s) := by
  obtain ⟨hok, -⟩ | ⟨_, _, herror, -⟩ := check_cases s m file
  · rw [checked, hok]
  · rw [checked, herror]

theorem checked_eq_ok_iff : checked s m file = .ok ⟨⟩ ↔ Accepts s m file := by
  obtain ⟨hok, haccepts⟩ | ⟨f, g, herror, hrefuses, -⟩ := check_cases s m file
  · exact iff_of_true (congrArg Prod.fst hok) haccepts
  · exact iff_of_false (fun h => nomatch h.symm.trans (congrArg Prod.fst herror)) hrefuses.not_accepts

theorem judge_of_checked {f : Fault} (h : checked s m file = .error f) :
    ∃ g, Refuses s m file g ∧ eval (judge m "exists" f) s = (.error g, s) := by
  obtain ⟨hok, -⟩ | ⟨f', g, herror, hrefuses, hjudge⟩ := check_cases s m file
  · exact nomatch h.symm.trans (congrArg Prod.fst hok)
  · cases h.symm.trans (congrArg Prod.fst herror)
    exact ⟨g, hrefuses, hjudge⟩

theorem checked_of_refuses {g : Fault} (h : Refuses s m file g) :
    ∃ f, checked s m file = .error f ∧ eval (judge m "exists" f) s = (.error g, s) := by
  obtain ⟨-, haccepts⟩ | ⟨f, g', herror, hrefuses, hjudge⟩ := check_cases s m file
  · exact absurd haccepts h.not_accepts
  · obtain rfl := h.unique hrefuses
    exact ⟨f, congrArg Prod.fst herror, hjudge⟩

/-! ## Several files -/

/-- Words that name files, the first of which is no flag. -/
theorem split_of_plain (hflag : file ≠ "-readonly" ∧ file ≠ "-exec") (w : Wanted) (more : List String) :
    w.split (file :: more) = (w, file :: more) := by
  rw [Wanted.split.eq_def]
  split
  next h => exact absurd (List.cons.inj h).1 hflag.1
  next h => exact absurd (List.cons.inj h).1 hflag.2
  next => rfl

theorem eval_existence (hflag : file ≠ "-readonly" ∧ file ≠ "-exec") (m : Modifier) (more : List String) (s : Script) :
    eval (existence m (file :: more)) s = (forM (file :: more) (checked s m), s) := by
  rw [existence, split_of_plain hflag]
  dsimp only
  rw [List.isEmpty_cons, if_neg Bool.false_ne_true, Step.eval_bind, eval_forIn_of_still fun f _ => eval_check s m f]
  rcases forM (m := Except Fault) (file :: more) _ with f | u <;> rfl

theorem eval_exists (host : Host) (hflag : file ≠ "-readonly" ∧ file ≠ "-exec") (m : Modifier) (more : List String)
    (s : Script) :
    eval (dispatch host m ("exists" :: file :: more)) s =
      match forM (file :: more) (checked s m) with
      | .ok _ => (.ok (), s)
      | .error e => eval (judge m "exists" e) s := by
  have hfound : Registry.layered (builtin host) host.commands "exists" = some existence := rfl
  rw [eval_dispatch hfound, eval_existence hflag]
  rcases forM (m := Except Fault) (file :: more) _ with f | u <;> rfl

/-- The command ends well with files that are as they were asked to be, and else with what is said of the first that is not. -/
theorem exists_cases (host : Host) (s : Script) (hflag : file ≠ "-readonly" ∧ file ≠ "-exec") (m : Modifier)
    (more : List String) :
    let files := file :: more
    let ended := eval (dispatch host m ("exists" :: files)) s
    ended.2 = s ∧ (ended.1 = .ok () ↔ ∀ f ∈ files, Accepts s m f) ∧
      ∀ g, ended.1 = .error g ↔
        ∃ front f back, files = front ++ f :: back ∧ (∀ f ∈ front, Accepts s m f) ∧ Refuses s m f g := by
  intro files ended
  have hended := eval_exists host hflag m more s
  have hfirst : ∀ g front f back, files = front ++ f :: back → (∀ f ∈ front, Accepts s m f) → Refuses s m f g →
      ∃ e, forM files (checked s m) = .error e ∧ eval (judge m "exists" e) s = (.error g, s) := by
    intro g front f back hfiles hfront hf
    obtain ⟨e, he, hjudge⟩ := checked_of_refuses hf
    exact ⟨e, forM_eq_error_iff.mpr ⟨front, f, back, hfiles, fun f hf => checked_eq_ok_iff.mpr (hfront f hf), he⟩, hjudge⟩
  cases hchecked : forM files (checked s m) with
  | ok u =>
    have hended : ended = (.ok (), s) := by rw [show ended = _ from hended, hchecked]
    have hall := forM_eq_ok_iff.mp hchecked
    rw [hended]
    refine ⟨rfl, iff_of_true rfl fun f hf => checked_eq_ok_iff.mp (hall f hf), fun g => iff_of_false (fun h => by cases h) ?_⟩
    rintro ⟨front, f, back, hfiles, hfront, hf⟩
    obtain ⟨e, he, -⟩ := hfirst g front f back hfiles hfront hf
    cases he.symm.trans hchecked
  | error e =>
    obtain ⟨front, f, back, hfiles, hfront, hf⟩ := forM_eq_error_iff.mp hchecked
    obtain ⟨g, hrefuses, hjudge⟩ := judge_of_checked hf
    have hended : ended = (.error g, s) := by rw [show ended = _ from hended, hchecked, ← hjudge]
    rw [hended]
    refine ⟨rfl, iff_of_false (fun h => by cases h) fun hall => ?_, fun g' => ⟨?_, ?_⟩⟩
    · exact hrefuses.not_accepts (hall f (hfiles ▸ List.mem_append_right front List.mem_cons_self))
    · rintro ⟨⟩
      exact ⟨front, f, back, hfiles, fun f hf => checked_eq_ok_iff.mp (hfront f hf), hrefuses⟩
    · rintro ⟨front, f, back, hfiles, hfront, hf⟩
      obtain ⟨e', he', hjudge'⟩ := hfirst g' front f back hfiles hfront hf
      cases he'.symm.trans hchecked
      cases hjudge'.symm.trans hjudge
      rfl

/-- What is asked of files is decided if they are all there or all missing, and what is not as it was asked to be is an outcome
of the command and nothing worse. -/
structure Decides (host : Host) (s : Script) (files : List String) : Prop where
  present : (eval (dispatch host .plain ("exists" :: files)) s).1 = .ok () ↔ ∀ f ∈ files, ∃ e, s.Resolves f e
  absent : (eval (dispatch host .negated ("exists" :: files)) s).1 = .ok () ↔ ∀ f ∈ files, ∀ e, ¬s.Resolves f e
  neutral : (eval (dispatch host .neutral ("exists" :: files)) s).1 = .ok ()
  refuses : ∀ m f, (eval (dispatch host m ("exists" :: files)) s).1 = .error f → ∃ e, f = .mismatch e

/-- **Existence is decided for the paths that can be told.** Files are looked at one after the other, and nothing is changed. The
command ends with the first file that is not as it was asked to be, and says which, so the plain form ends well exactly if all
resolve and the negated one exactly if all are missing. A path that cannot be told is a misuse under each modifier. So the
command decides existence exactly if no path is one of these. -/
theorem existence_decides_iff (host : Host) (s : Script) {file : String} (more : List String)
    (hflag : file ≠ "-readonly" ∧ file ≠ "-exec") :
    let files := file :: more
    let ended m := eval (dispatch host m ("exists" :: files)) s
    (∀ m, (ended m).2 = s) ∧ (∀ m, (ended m).1 = .ok () ↔ ∀ f ∈ files, Accepts s m f) ∧
      (∀ m g, (ended m).1 = .error g ↔
        ∃ front f back, files = front ++ f :: back ∧ (∀ f ∈ front, Accepts s m f) ∧ Refuses s m f g) ∧
      (Decides host s files ↔ ∀ f ∈ files, ¬s.Untold f) := by
  intro files ended
  have hcases := fun m => exists_cases host s hflag m more
  have hok : ∀ m, (ended m).1 = .ok () ↔ ∀ f ∈ files, Accepts s m f := fun m => (hcases m).2.1
  refine ⟨fun m => (hcases m).1, hok, fun m => (hcases m).2.2, fun h => (hok .neutral).mp h.neutral, fun htold => ?_⟩
  constructor
  case present => exact hok .plain
  case absent =>
    rw [hok]
    exact forall₂_congr fun f hf => ⟨fun h => h.nothing, fun h => ⟨h, htold f hf⟩⟩
  case neutral => exact (hok .neutral).mpr htold
  case refuses =>
    intro m g h
    obtain ⟨front, f, back, hfiles, -, hf⟩ := ((hcases m).2.2 g).mp h
    have hmem : f ∈ files := by
      rw [show files = front ++ f :: back from hfiles]
      exact List.mem_append_right front List.mem_cons_self
    cases hf with
    | absent => exact ⟨_, rfl⟩
    | present => exact ⟨_, rfl⟩
    | untold huntold => exact absurd huntold (htold f hmem)

/-! ### A file with nothing below it -/

section Below

open Script (leavingDisk leavingReady)

/-- Paths from the root, and where the ways along them begin. -/
theorem departure_leaving :
    leavingDisk.departure "/p" = ⟨Files.maxLinks, [], ["p"]⟩ ∧ leavingDisk.departure "/p/x" = ⟨Files.maxLinks, [], ["p", "x"]⟩ := by
  have hroot : Path.isAbsolute "/p" = true ∧ Path.isAbsolute "/p/x" = true := by
    constructor <;> cbv
  have hcut : "/p".splitOn "/" = ["", "p"] ∧ "/p/x".splitOn "/" = ["", "p", "x"] := by
    rw [show "/p".splitOn "/" = _ from Line.splitOn_singleton '/' "/p",
      show "/p/x".splitOn "/" = _ from Line.splitOn_singleton '/' "/p/x"]
    constructor <;> cbv
  rw [Files.Disk.departure, Files.Disk.departure, Path.pieces, Path.pieces, hcut.1, hcut.2, hroot.1, hroot.2]
  exact ⟨rfl, rfl⟩

/-- The root can be searched, and the program is in it. -/
theorem program_leaving :
    leavingDisk.tree.Searchable [] ∧ Files.IsName "p" ∧
      leavingDisk.tree.get? ([] ++ ["p"]) = some (.file 0o755 (Program.fileOf "true")) :=
  ⟨⟨_, rfl, rfl, by decide⟩, ⟨by decide, by decide, by decide⟩, rfl⟩

theorem resolves_leaving : leavingReady.Resolves "/p" (.file 0o755 (Program.fileOf "true")) := by
  obtain ⟨hroot, hname, hget⟩ := program_leaving
  rw [Script.Resolves, Script.absolute_of_isAbsolute (by cbv)]
  have hleads : Files.Leads leavingDisk.tree (leavingDisk.departure "/p") ["p"] (.file 0o755 (Program.fileOf "true")) := by
    rw [departure_leaving.1]
    exact .last hroot hname hget rfl
  have hslash : Files.endsInSlash "/p" = false := by cbv
  exact ⟨by rw [String.contains_char_eq]; decide, by decide, by decide, ⟨_, hleads⟩, fun h => by cases hslash.symm.trans h⟩

theorem blocked_leaving : Files.Blocked leavingDisk.tree (leavingDisk.departure "/p/x") .notDirectory := by
  obtain ⟨hroot, hname, hget⟩ := program_leaving
  rw [departure_leaving.2]
  exact .file hroot hname hget rfl (by decide)

theorem existence_decides_iff_leaving :
    ("/p" ≠ "-readonly" ∧ "/p" ≠ "-exec") ∧ Decides (.bare false) leavingReady ["/p"] ∧
      (eval (dispatch (.bare false) .plain ["exists", "/p"]) leavingReady).1 = .ok () := by
  have hflag : "/p" ≠ "-readonly" ∧ "/p" ≠ "-exec" := by decide
  obtain ⟨-, hok, -, hdecides⟩ := existence_decides_iff (.bare false) leavingReady [] hflag
  refine ⟨hflag, hdecides.mpr ?_, (hok .plain).mpr ?_⟩
  · rw [List.forall_mem_singleton]
    exact resolves_leaving.not_untold
  · rw [List.forall_mem_singleton]
    exact ⟨_, resolves_leaving⟩

/-- Below a file there is nothing, but asking for it is a misuse, also when it is asked to be missing. -/
theorem existence_refuses_below_file :
    (∀ e, ¬leavingReady.Resolves "/p/x" e) ∧
      (eval (dispatch (.bare false) .negated ["exists", "/p/x"]) leavingReady).1 =
        .error (.misuse (.accident (.file (.refused .notDirectory "/p/x" none)))) ∧
      (eval (dispatch (.bare false) .neutral ["exists", "/p/x"]) leavingReady).1 =
        .error (.misuse (.accident (.file (.refused .notDirectory "/p/x" none)))) ∧
      ¬Decides (.bare false) leavingReady ["/p/x"] := by
  have hpath : leavingReady.absolute "/p/x" = "/p/x" := Script.absolute_of_isAbsolute (by cbv)
  have huntold : leavingReady.Untold "/p/x" := by
    rw [Script.Untold, hpath]
    exact .blocked blocked_leaving
  have hfind : leavingReady.scene.disk.find true (leavingReady.absolute "/p/x") =
      .error (.refused .notDirectory "/p/x" none) := by
    rw [hpath]
    refine (Files.Disk.find_of_walked (by rw [String.contains_char_eq]; decide) (by decide) (by decide)).trans ?_
    rw [show (leavingReady.scene.disk.departure "/p/x").walked leavingReady.scene.disk.tree = .error .notDirectory from
      blocked_leaving.walked_eq]
  have hended : ∀ m, (eval (dispatch (.bare false) m ["exists", "/p/x"]) leavingReady).1 =
      .error (.misuse (.accident (.file (.refused .notDirectory "/p/x" none)))) := fun m =>
    ((exists_cases (.bare false) leavingReady (by decide) m []).2.2 _).mpr
      ⟨[], "/p/x", [], rfl, List.forall_mem_nil _, .untold huntold hfind⟩
  refine ⟨fun e h => h.not_untold huntold, hended .negated, hended .neutral, fun hdecides => ?_⟩
  cases (hended .neutral).symm.trans hdecides.neutral

end Below

end Command

end Rehearsal
