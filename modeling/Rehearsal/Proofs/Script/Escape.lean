import Rehearsal.Proofs.Expansion
import Rehearsal.Proofs.Script.Containment

/-!
# What leaves a script

A script ends with an outcome, or with a golden file that is not one of its archive, unless it meets one of the accidents
in `Escapes` before its first line: settings that are refused in an unforeseen way, a null character in the path of a file,
or a limit of time beyond every float (`perform_escapes_iff`).
-/

namespace Rehearsal.Script

open Step (eval Keeps Fails Lasting)

/-! ## What escapes -/

/-- **The accidents that leave a script**, none of which happens once its first line is reached. -/
inductive Escapes (s : Script) : Accident → Prop where
  /-- The settings are refused otherwise than as a value that cannot be used. -/
  | settings {front : Front} {e : Frontmatter.Error} (finds : s.Finds front)
    (refused : (Frontmatter.read front.text).result = .error e)
    (label : Accident.settingsLabel e ≠ HostError.value.label) : Escapes s (.frontmatter e)
  /-- The first file that cannot be put in its place has a null character in its path, and no directory in front of it is
  refused. -/
  | nullCharacter {front : Front} {settings : Option Frontmatter} {body : String} {before after : List Archive.File}
    {f : Archive.File} {t : Script} (begins : s.Begins front settings body)
    (files : front.archive.files = before ++ f :: after)
    (before : eval (extractAll before) (s.begun front settings) = (.ok (), t)) (null : '\x00' ∈ (t.placeOf f).toList)
    (reached : ∀ why shown link,
      (eval (Files.Access.place (t.placeOf f) f.data) t.scene.disk).1 ≠ .error (.refused why shown link)) :
    Escapes s (.file .nullCharacter)
  /-- The script has no limit of its own, and that of the plan is greater than every float. -/
  | limit {front : Front} {settings : Option Frontmatter} {body : String} {t : Script} {n : Int}
    (begins : s.Begins front settings body)
    (files : eval (extractAll front.archive.files) (s.begun front settings) = (.ok (), t))
    (own : settings.bind (·.timeout) = none) (plan : s.plan.timeout = some (.whole n))
    (large : Binary.ofInt? n = none) : Escapes s .limitTooLarge

theorem setUp_of_reading {host : Host} {s t : Script} {f : Fault}
    (h : eval (settingUp (reading s.workDir)) s = (.error f, t)) : eval (setUp host) s = (.error f, t) := by
  rw [setUp, Step.eval_get_bind]
  exact Step.eval_bind_of_error h

/-- A script that cannot be read has failed. -/
theorem setUp_of_refused (host : Host) {s : Script} {a : Accident}
    (h : (eval (reading s.workDir) s).1 = .error (.accident a)) (ha : (a.isSystem || a.isValue) = true) :
    ∃ t, eval (setUp host) s = (.error (.misuse (.accident a)), t) := by
  rcases hread : eval (reading s.workDir) s with ⟨result, t⟩
  rw [hread] at h
  obtain rfl : result = _ := h
  refine ⟨t, setUp_of_reading ?_⟩
  rw [eval_settingUp, hread]
  simp only [setupFault, ha, if_true]

theorem setupFault_settings (e : Frontmatter.Error) :
    setupFault (.frontmatter e) =
      if Accident.settingsLabel e = HostError.value.label then .misuse (.accident (.frontmatter e))
      else .accident (.frontmatter e) := by
  simp only [setupFault, Accident.isSystem, Accident.isValue, Bool.false_or, beq_iff_eq]

/-- How a script that can be read ends where its settings are refused. -/
theorem setUp_of_settings (host : Host) {s : Script} {front : Front} {e : Frontmatter.Error} (hfinds : s.Finds front)
    (hrefused : (Frontmatter.read front.text).result = .error e) :
    ∃ t, eval (setUp host) s = (.error (setupFault (.frontmatter e)), t) := by
  refine ⟨s.found front s.settings, setUp_of_reading ?_⟩
  rw [eval_settingUp, eval_reading hfinds, hrefused]

/-- How a script ends whose settings skip it. -/
theorem setUp_of_skip (host : Host) {s : Script} {front : Front} {settings : Option Frontmatter} {body reason : String}
    (hfinds : s.Finds front) (hgood : (Frontmatter.read front.text).result = .ok (settings, body))
    (hskip : settings.bind (·.skip) = some reason) : ∃ t, eval (setUp host) s = (.error (.skip reason), t) := by
  have hread : eval (settingUp (reading s.workDir)) s = (.ok body, s.found front settings) := by
    rw [eval_settingUp, eval_reading hfinds, hgood]
  refine ⟨s.found front settings, ?_⟩
  rw [setUp, Step.eval_get_bind]
  refine (Step.eval_bind_of_ok hread).trans (Step.eval_bind_of_error ?_)
  rw [eval_applySettings, show (s.found front settings).settings.bind (·.skip) = some reason from hskip]

/-- An accident with a file that cannot be put in its place is one that escapes. -/
theorem escapes_of_extractAll {s t : Script} {front : Front} {settings : Option Frontmatter} {body : String} {a : Accident}
    (hbegins : s.Begins front settings body)
    (h : eval (extractAll front.archive.files) (s.begun front settings) = (.error (.accident a), t)) : s.Escapes a := by
  obtain ⟨before, f, after, u, hfiles, hbefore, hf⟩ := eval_extractAll_error_iff.mp h
  rw [eval_extract] at hf
  rcases hplace : eval (Files.Access.place (u.placeOf f) f.data) u.scene.disk with ⟨e | x, disk⟩
  all_goals rw [hplace] at hf
  case ok => cases hf
  case error =>
    cases e with
    | refused => cases hf
    | nullCharacter =>
      cases hf
      obtain ⟨hnull, hreached⟩ := (Files.Access.place_meets_null_iff _ _ _).mp (congrArg Prod.fst hplace)
      exact .nullCharacter hbegins hfiles hbefore hnull hreached

/-- How setting a script up ends: with all its files in their places, or with a fault that is no accident but one that
escapes. -/
theorem setUp_cases {host : Host} (hdress : host.dresser? = none) (s : Script) :
    (∃ front settings body t, s.Begins front settings body ∧
      eval (extractAll front.archive.files) (s.begun front settings) = (.ok (), t) ∧
      eval (setUp host) s = (.ok body, t.retabled)) ∨
    ∃ f t, eval (setUp host) s = (.error f, t) ∧ ∀ a, f = .accident a → s.Escapes a := by
  obtain ⟨front, hfinds⟩ | ⟨a, hread, ha⟩ := finds_or_refused s
  case inr =>
    obtain ⟨t, ht⟩ := setUp_of_refused host hread ha
    exact .inr ⟨_, t, ht, by rintro _ ⟨⟩⟩
  cases hgood : (Frontmatter.read front.text).result with
  | error e =>
    obtain ⟨t, ht⟩ := setUp_of_settings host hfinds hgood
    refine .inr ⟨_, t, ht, fun a ha => ?_⟩
    rw [setupFault_settings] at ha
    split at ha
    · cases ha
    next hlabel =>
      cases ha
      exact .settings hfinds hgood hlabel
  | ok pair =>
    obtain ⟨settings, body⟩ := pair
    cases hskip : settings.bind (·.skip) with
    | some reason =>
      obtain ⟨t, ht⟩ := setUp_of_skip host hfinds hgood hskip
      exact .inr ⟨_, t, ht, by rintro _ ⟨⟩⟩
    | none =>
      have hbegins : s.Begins front settings body := ⟨hfinds, hgood, hskip⟩
      have hsetup := eval_setUp hdress hbegins
      rcases hextract : eval (extractAll front.archive.files) (s.begun front settings) with ⟨fault | u, t⟩
      all_goals rw [hextract] at hsetup
      case ok => exact .inl ⟨front, settings, body, t, hbegins, hextract, hsetup⟩
      case error =>
        refine .inr ⟨fault, t, hsetup, fun a ha => ?_⟩
        subst ha
        exact escapes_of_extractAll hbegins hextract

theorem cancelTime_error_iff {now : Time} {limit : Seconds} {a : Accident} :
    cancelTime now limit = .error a ↔ a = .limitTooLarge ∧ ∃ n, limit = .whole n ∧ Binary.ofInt? n = none := by
  cases limit with
  | float x => simp [cancelTime]
  | whole n =>
    rw [cancelTime]
    cases hn : Binary.ofInt? n with
    | some x => simp [hn]
    | none => simp [hn, eq_comm]

/-- The limit of a script whose files are in their places is its own, or that of the plan. -/
theorem limit?_eq {front : Front} {settings : Option Frontmatter} {files : List Archive.File} {s t : Script}
    (h : eval (extractAll files) (s.begun front settings) = (.ok (), t)) :
    t.retabled.limit? =
      match settings.bind (·.timeout) with
      | some x => some (.float x)
      | none => s.plan.timeout := by
  obtain ⟨hplan, -, hsettings⟩ := begun_eq front settings s
  -- Files in their places change neither the settings of a script nor its plan.
  have hsame : t.retabled.limit? = (s.begun front settings).limit? := by
    obtain ⟨extracted, disk, rfl⟩ := exists_of_extractAll h
    rfl
  rw [hsame]
  cases hown : settings.bind (·.timeout) with
  | none => simp only [limit?, hsettings, hown, hplan]
  | some x => simp only [limit?, hsettings, hown]

/-- The timer of a script meets no accident but one that escapes. -/
theorem escapes_of_startTimer {s t : Script} {front : Front} {settings : Option Frontmatter} {body : String}
    {a : Accident} (hbegins : s.Begins front settings body)
    (hfiles : eval (extractAll front.archive.files) (s.begun front settings) = (.ok (), t))
    (h : (eval startTimer t.retabled).1 = .error (.accident a)) : s.Escapes a := by
  rw [eval_startTimer, limit?_eq hfiles] at h
  split at h
  · cases h
  next limit hlimit =>
    split at h
    · cases h
    next b hb =>
      cases h
      obtain ⟨rfl, n, rfl, hlarge⟩ := cancelTime_error_iff.mp hb
      split at hlimit
      · cases hlimit
      next hown => exact .limit hbegins hfiles hown hlimit hlarge

/-- What escapes ends a script before its first line. -/
theorem performAll_of_escapes {host : Host} (hdress : host.dresser? = none) {s : Script} {a : Accident}
    (h : s.Escapes a) : ∃ t, eval (performAll host) s = (.error (.accident a), t) := by
  cases h with
  | settings hfinds hrefused hlabel =>
    obtain ⟨t, ht⟩ := setUp_of_settings host hfinds hrefused
    rw [setupFault_settings, if_neg hlabel] at ht
    exact ⟨t, Step.eval_bind_of_error ht⟩
  | @nullCharacter front settings body _ after f u hbegins hfiles hbefore hnull hreached =>
    have hplace := (Files.Access.place_meets_null_iff _ f.data u.scene.disk).mpr ⟨hnull, hreached⟩
    have hf : eval (extract f) u = (.error (.accident (.file .nullCharacter)),
        u.extracting f (eval (Files.Access.place (u.placeOf f) f.data) u.scene.disk).2) := by
      rw [eval_extract]
      dsimp only
      rw [hplace]
      rfl
    have hextract := eval_extractAll_error_iff.mpr ⟨_, f, after, u, hfiles, hbefore, hf⟩
    have hsetup := eval_setUp hdress hbegins
    rw [hextract] at hsetup
    exact ⟨_, Step.eval_bind_of_error hsetup⟩
  | @limit front settings body t n hbegins hfiles hown hplan hlarge =>
    have hsetup := eval_setUp hdress hbegins
    rw [hfiles] at hsetup
    have hlimit : t.retabled.limit? = some (.whole n) := by rw [limit?_eq hfiles, hown, hplan]
    have htimer : eval startTimer t.retabled = (.error (.accident .limitTooLarge), t.retabled) := by
      rw [eval_startTimer, hlimit]
      simp only [cancelTime, hlarge]
    exact ⟨_, (Step.eval_bind_of_ok hsetup).trans (Step.eval_bind_of_error htimer)⟩

/-- A performance leaves no accident but one that escapes. -/
theorem fails_performAll {host : Host} (hhost : host.KeepsTo Anchored) (hdress : host.dresser? = none) (s : Script) :
    Fails (fun f => ∀ a, f = .accident a → s.Escapes a) (performAll host) s := by
  have hstays : ∀ f : Fault, f.Stays → ∀ a, f = .accident a → s.Escapes a := fun f hf a ha => absurd ha (hf a)
  obtain ⟨front, settings, body, t, hbegins, hfiles, hsetup⟩ | ⟨f, t, hsetup, hescapes⟩ := setUp_cases hdress s
  case inr =>
    rw [Fails, performAll, Step.eval_bind_of_error hsetup]
    rintro _ ⟨⟩
    exact hescapes
  -- The file of the script is the one that could be read.
  have hfile : ∀ {v}, Anchored s v → '\x00' ∉ (Path.clean v.file).toList := fun hv =>
    hv.file ▸ hbegins.file_plain
  have hafter : Anchored s t.retabled := by
    have h := keeps_setUp (anchored_dress hdress) s
    rwa [Keeps, hsetup] at h
  rw [Fails, performAll, Step.eval_bind_of_ok hsetup]
  refine Step.fails_bind (fun f hf a ha => ?_) fun _ u hu => ?_
  · subst ha
    exact escapes_of_startTimer hbegins hfiles hf
  have hstarted : Anchored s u := by
    have h := keeps_startTimer (R := Anchored) t.retabled
    rw [Keeps, hu] at h
    exact Lasting.trans hafter h
  refine Step.fails_bind ((fails_showVariables host u).mono hstays) fun _ v hv => ?_
  have hshown : Anchored s v := by
    have h := keeps_showVariables hhost u
    rw [Keeps, hv] at h
    exact Lasting.trans hstarted h
  refine Step.fails_bind (fails_attempt _ _ v) fun result w hw => ?_
  obtain ⟨hresult, hstate⟩ := Prod.mk.inj hw
  have hperformed : Anchored s w := hstate ▸ Lasting.trans hshown (keeps_performText hhost body v)
  refine Step.fails_bind ((fails_storeUpdates (hfile hperformed)).mono hstays) fun _ x _ => ?_
  split
  · exact Step.fails_pure _ x
  next f =>
    have hf : f.Stays := fails_performText host body v f (Except.ok.inj hresult)
    exact Step.fails_throw (hstays f hf) x

/-- How a script ends for which the host arranges nothing: an accident leaves it exactly if it is one that escapes, and
any other fault that leaves it is about a golden file. -/
theorem perform_cases {host : Host} (hhost : host.KeepsTo Anchored) (hdress : host.dresser? = none) {s : Script}
    (hs : s.deferred = []) :
    let ended := ((perform host).run s).1
    (∀ a, ended = .error (.accident a) ↔ s.Escapes a) ∧
      ((∃ outcome, ended = .ok outcome) ∨ (∃ i, ended = .error (.integrity i)) ∨ ∃ a, ended = .error (.accident a)) := by
  intro ended
  rcases hall : eval (performAll host) s with ⟨result, t⟩
  have hdeferred : t.deferred = [] := by
    have h := anchored_performAll hhost hdress s
    rw [Keeps, hall] at h
    exact h.deferred.trans hs
  have hends : ∀ f, ended = .error f ↔ _ := fun f => perform_error_iff (f := f) hall hdeferred
  refine ⟨fun a => ?_, ?_⟩
  · rw [hends, and_iff_left ⟨rfl, by rintro _ ⟨⟩⟩]
    constructor
    · rintro rfl
      exact fails_performAll hhost hdress s _ (congrArg Prod.fst hall) a rfl
    · intro h
      obtain ⟨u, hu⟩ := performAll_of_escapes hdress h
      rw [hall] at hu
      exact congrArg Prod.fst hu
  · cases hended : ended with
    | ok outcome => exact .inl ⟨outcome, rfl⟩
    | error f =>
      obtain ⟨-, hfailure, hskip⟩ := (hends f).mp hended
      cases f with
      | integrity i => exact .inr (.inl ⟨i, rfl⟩)
      | accident a => exact .inr (.inr ⟨a, rfl⟩)
      | skip reason => exact absurd rfl (hskip reason)
      | _ => cases hfailure

/-- An archive whose only file has a null character for a name. -/
def nullText : Bytes := Bytes.ascii "-- \x00 --\n"

/-- What is found of a script with that file. -/
def nullFront : Front := ⟨sampleDisk nullText, nullText, ⟨[], [⟨"\x00", []⟩]⟩, ""⟩

end Rehearsal.Script
