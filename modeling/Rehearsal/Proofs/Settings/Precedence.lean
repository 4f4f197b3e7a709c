import Rehearsal.Plan
import Rehearsal.Proofs.Table

/-!
# Which setting counts

A run is told what to do by its command line, by the settings of the project, and by what is usual. `settings_precedence` says
which of them counts, for every table of settings that is accepted and all options: what was given on the command line, else
what the table says, else what is usual. An empty text counts as none once it has been chosen, and so does a time limit of
zero. A switch is on if one of the two turns it on.

It rests on what `check` makes of a table (`findSome?_of_check`): under each name that is known the list of settings has what
the table has, and what is under other names is left out (`check_known`).
-/

namespace Rehearsal.Settings

variable {α : Type} {table table' : Table Value} {settings : List Setting} {key : Key}

/-! ## What a table says -/

theorem ofName?_eq_some_iff {name : String} : Key.ofName? name = some key ↔ key.name = name := by
  constructor
  · intro h
    simpa using List.find?_some h
  · rintro rfl
    rcases key with which | which | _
    all_goals first | rfl | cases which <;> rfl

theorem key_of_ofValue {v : Value} {s : Setting} (h : Setting.ofValue key v = .ok s) : s.key = key := by
  rcases key with which | which | _
  all_goals
    cases v <;> cases h
    all_goals rfl

theorem eq_of_inRange {s s' : Setting} (h : s.inRange = .ok s') : s' = s := by
  cases s with
  | switch => cases h; rfl
  | text which value =>
    rw [Setting.inRange] at h
    split at h <;> cases h
    rfl
  | timeout seconds =>
    rw [Setting.inRange] at h
    split at h <;> cases h
    rfl

/-- The first entry of a table that is accepted, under a name that is known. -/
theorem check_cons_known {name : String} {value : Value} {rest : Table Value} (hname : Key.ofName? name = some key)
    (h : check ((name, value) :: rest) = .ok settings) :
    ∃ s more, Setting.ofValue key value = .ok s ∧ check rest = .ok more ∧ settings = s :: more := by
  rw [check, hname] at h
  dsimp only at h
  split at h
  next => cases h
  next s hs =>
    split at h
    next more hmore =>
      cases h
      cases hvalue : Setting.ofValue key value with
      | error e =>
        rw [hvalue] at hs
        cases hs
      | ok s' =>
        rw [hvalue] at hs
        obtain rfl := eq_of_inRange hs
        exact ⟨s, more, rfl, hmore, rfl⟩
    next => cases h

theorem check_cons_unknown {name : String} {value : Value} {rest : Table Value} (hname : Key.ofName? name = none) :
    check ((name, value) :: rest) = check rest := by
  rw [check, hname]

/-- **What the settings hold about a key is what the table says under its name.** -/
theorem find?_of_check (h : check table = .ok settings) (key : Key) :
    (settings.find? fun s => s.key == key).map Except.ok = (table.get? key.name).map (Setting.ofValue key) := by
  induction table generalizing settings with
  | nil =>
    cases h
    rfl
  | cons pair rest ih =>
    obtain ⟨name, value⟩ := pair
    rw [Table.get?_cons]
    cases hname : Key.ofName? name with
    | none =>
      have hne : ¬(name == key.name) = true := fun heq => by
        rw [ofName?_eq_some_iff.mpr (eq_of_beq heq).symm] at hname
        cases hname
      rw [if_neg hne]
      rw [check_cons_unknown hname] at h
      exact ih h
    | some found =>
      obtain ⟨s, more, hs, hmore, rfl⟩ := check_cons_known hname h
      have hkey := key_of_ofValue hs
      by_cases hsame : found = key
      · subst hsame
        rw [List.find?_cons_of_pos (by simp [hkey]), ofName?_eq_some_iff.mp hname, if_pos (beq_self_eq_true name),
          Option.map_some, Option.map_some, hs]
      · have hne : ¬(name == key.name) = true := fun heq => by
          rw [eq_of_beq heq, ofName?_eq_some_iff.mpr rfl] at hname
          cases hname
          exact hsame rfl
        rw [if_neg hne, List.find?_cons_of_neg (by simp [hkey, hsame])]
        exact ih hmore

/-- Every entry of a table that is accepted has the kind that its name asks for, if the name is known. -/
theorem exists_ofValue_of_check (h : check table = .ok settings) {v : Value} (hget : table.get? key.name = some v) :
    ∃ s, Setting.ofValue key v = .ok s := by
  have hfind := find?_of_check h key
  rw [hget, Option.map_some, Option.map_eq_some_iff] at hfind
  obtain ⟨s, -, hs⟩ := hfind
  exact ⟨s, hs.symm⟩

/-- A question that only one key answers is answered by the first setting of that key. -/
theorem findSome?_eq_find? {f : Setting → Option α} (hother : ∀ s, s.key ≠ key → f s = none)
    (hown : ∀ s, s.key = key → (f s).isSome = true) (settings : List Setting) :
    settings.findSome? f = (settings.find? fun s => s.key == key).bind f := by
  induction settings with
  | nil => rfl
  | cons s rest ih =>
    by_cases hkey : s.key = key
    · obtain ⟨a, ha⟩ := Option.isSome_iff_exists.mp (hown s hkey)
      rw [List.findSome?_cons, ha, List.find?_cons_of_pos (by simp [hkey]), Option.bind_some, ha]
    · rw [List.findSome?_cons, hother s hkey, List.find?_cons_of_neg (by simp [hkey])]
      exact ih

/-- The text that a table holds under the name of a setting. -/
def textIn (which : TextKey) (table : Table Value) : Option String :=
  match table.get? (Key.text which).name with
  | some (.text s) => some s
  | _ => none

/-- The number of seconds that a table holds under the name of the time limit. -/
def secondsIn (table : Table Value) : Option Seconds :=
  match table.get? Key.timeout.name with
  | some (.int n) => some (.whole n)
  | some (.float x) => some (.float x)
  | _ => none

/-- Whether a table turns a switch on. -/
def IsOn (which : Switch) (table : Table Value) : Prop := table.get? (Key.switch which).name = some (.bool true)

/-- What is read from the settings about a key is what is read from the table under its name. -/
theorem findSome?_of_check {f : Setting → Option α} (h : check table = .ok settings) (hother : ∀ s, s.key ≠ key → f s = none)
    (hown : ∀ s, s.key = key → (f s).isSome = true) :
    settings.findSome? f = (table.get? key.name).bind fun v => (Setting.ofValue key v).toOption.bind f := by
  have hfind := find?_of_check h key
  rw [findSome?_eq_find? hother hown]
  cases hget : table.get? key.name with
  | none =>
    rw [hget, Option.map_none, Option.map_eq_none_iff] at hfind
    rw [hfind]
    rfl
  | some v =>
    rw [hget, Option.map_some, Option.map_eq_some_iff] at hfind
    obtain ⟨s, hfind, hs⟩ := hfind
    rw [hfind, Option.bind_some, Option.bind_some, ← hs]
    rfl

theorem text?_of_check (h : check table = .ok settings) (which : TextKey) : text? which settings = textIn which table := by
  rw [text?, @findSome?_of_check _ _ _ (.text which) _ h, textIn]
  · cases table.get? (Key.text which).name with
    | none => rfl
    | some v => cases v <;> simp [Setting.ofValue, Except.toOption]
  · rintro (_ | ⟨w, s⟩ | _) hs
    all_goals first | rfl | exact if_neg (by simpa [Setting.key] using hs)
  · rintro (_ | ⟨w, s⟩ | _) hs
    all_goals cases hs
    simp

theorem timeout?_of_check (h : check table = .ok settings) : timeout? settings = secondsIn table := by
  rw [timeout?, @findSome?_of_check _ _ _ .timeout _ h, secondsIn]
  · cases table.get? Key.timeout.name with
    | none => rfl
    | some v => cases v <;> simp [Setting.ofValue, Except.toOption]
  · rintro (_ | _ | seconds) hs
    all_goals first | rfl | exact absurd rfl hs
  · rintro (_ | _ | seconds) hs
    all_goals cases hs
    rfl

theorem switch?_of_check (h : check table = .ok settings) (which : Switch) :
    (switch? which settings).getD false = true ↔ IsOn which table := by
  rw [switch?, @findSome?_of_check _ _ _ (.switch which) _ h, IsOn]
  · cases table.get? (Key.switch which).name with
    | none => simp
    | some v => cases v <;> simp [Setting.ofValue, Except.toOption]
  · rintro (⟨w, on⟩ | _ | _) hs
    all_goals first | rfl | exact if_neg (by simpa [Setting.key] using hs)
  · rintro (⟨w, on⟩ | _ | _) hs
    all_goals cases hs
    simp

/-- The entries of a table whose names are known. -/
def known (table : Table Value) : Table Value := table.filter fun (name, _) => (Key.ofName? name).isSome

/-- Entries of other names are left out. -/
theorem check_known (table : Table Value) : check (known table) = check table := by
  induction table with
  | nil => rfl
  | cons pair rest ih =>
    obtain ⟨name, value⟩ := pair
    rw [known] at ih ⊢
    cases hname : Key.ofName? name with
    | none =>
      rw [List.filter_cons_of_neg (by simp [hname]), check_cons_unknown hname]
      exact ih
    | some key =>
      rw [List.filter_cons_of_pos (by simp [hname]), check, check, hname]
      dsimp only
      rw [ih]

/-! ## What counts -/

/-- The value that was given on the command line, or else the one of the settings. -/
def chosen (given : Given α) (setting : Option α) : Option α :=
  match given with
  | .absent => setting
  | .value a => some a
  | .nothing => none

/-- The text that was chosen. An empty one counts as none. -/
def textChosen (given : Given String) (setting : Option String) : Option String :=
  (chosen given setting).filter fun s => !s.isEmpty

theorem value?_orValue (given : Given α) (setting : Option α) : (given.orValue setting).value? = chosen given setting := by
  rcases given with _ | a | _ <;> cases setting <;> rfl

theorem orUsual_getD (text : Option String) (usual : String) :
    Plan.orUsual (text.getD "") usual = (text.filter fun s => !s.isEmpty).getD usual := by
  cases text with
  | none => rfl
  | some s =>
    rw [Plan.orUsual, Option.getD_some, Option.filter_some]
    cases s.isEmpty <;> rfl

theorem or_switch (h : check table = .ok settings) (which : Switch) (on : Bool) :
    (on || (switch? which settings).getD false) = true ↔ on = true ∨ IsOn which table := by
  rw [Bool.or_eq_true, switch?_of_check h]

/-- **What counts is the command line, then the settings, then what is usual.** A text or a time limit is the one on the
command line if it was given, else the one in the table, if there is one; an empty text and a limit of zero are none, and
where there is none a text is the usual one. A switch is on if the command line or the table turns it on, and work directories
are also kept if a directory for them was chosen. Every entry that is looked at is of its kind, and entries of other names
have no influence. -/
theorem settings_precedence (h : check table = .ok settings) (o : Options) :
    (Plan.ofOptions (o.withSettings settings)).glob = (textChosen o.glob (textIn .glob table)).getD Plan.usualGlob ∧
    (Plan.ofOptions (o.withSettings settings)).phasePrefix =
      (textChosen o.phasePrefix (textIn .phasePrefix table)).getD Plan.usualPhasePrefix ∧
    (Plan.ofOptions (o.withSettings settings)).commentPrefix =
      (textChosen o.commentPrefix (textIn .commentPrefix table)).getD Plan.usualCommentPrefix ∧
    (Plan.ofOptions (o.withSettings settings)).workdirRoot = textChosen o.workdirRoot (textIn .workdirRoot table) ∧
    (Plan.ofOptions (o.withSettings settings)).timeout =
      (chosen o.timeout (secondsIn table)).filter (fun seconds => !seconds.isZero) ∧
    ((Plan.ofOptions (o.withSettings settings)).updateScripts = true ↔ o.updateScripts = true ∨ IsOn .updateScripts table) ∧
    ((Plan.ofOptions (o.withSettings settings)).verbose = true ↔ o.verbose = true ∨ IsOn .verbose table) ∧
    ((Plan.ofOptions (o.withSettings settings)).short = true ↔ o.short = true ∨ IsOn .short table) ∧
    ((Plan.ofOptions (o.withSettings settings)).testWork = true ↔
      (o.testWork = true ∨ IsOn .testWork table) ∨ (textChosen o.workdirRoot (textIn .workdirRoot table)).isSome = true) ∧
    (∀ key v, table.get? key.name = some v → ∃ s, Setting.ofValue key v = .ok s) ∧
    ∀ table', known table' = known table → check table' = .ok settings := by
  refine ⟨?_, ?_, ?_, ?_, ?_, or_switch h _ _, or_switch h _ _, or_switch h _ _, ?_, fun key v => exists_ofValue_of_check h,
    fun table' hknown => ?_⟩
  · rw [textChosen, ← text?_of_check h, ← value?_orValue]
    exact orUsual_getD _ _
  · rw [textChosen, ← text?_of_check h, ← value?_orValue]
    exact orUsual_getD _ _
  · rw [textChosen, ← text?_of_check h, ← value?_orValue]
    exact orUsual_getD _ _
  · rw [textChosen, ← text?_of_check h, ← value?_orValue]
    rfl
  · rw [← timeout?_of_check h, ← value?_orValue]
    rfl
  · rw [textChosen, ← text?_of_check h, ← value?_orValue, ← or_switch h .testWork o.testWork, ← Bool.or_eq_true]
    rfl
  · rw [← check_known, hknown, check_known, h]

/-- A limit of zero on the command line lifts the one of the settings, and a pattern is taken from the settings. -/
theorem settings_precedence_zero :
    check [("color", .text "red"), ("glob", .text "*.txt"), ("timeout", .int 5), ("verbose", .bool true)] =
        .ok [.text .glob "*.txt", .timeout (.whole 5), .switch .verbose true] ∧
      (Plan.ofOptions ({ Options.default with timeout := .value (.whole 0) }.withSettings
        [.text .glob "*.txt", .timeout (.whole 5), .switch .verbose true])).glob = "*.txt" ∧
      (Plan.ofOptions ({ Options.default with timeout := .value (.whole 0) }.withSettings
        [.text .glob "*.txt", .timeout (.whole 5), .switch .verbose true])).timeout = none := by
  have hcheck : check [("color", .text "red"), ("glob", .text "*.txt"), ("timeout", .int 5), ("verbose", .bool true)] =
      .ok [.text .glob "*.txt", .timeout (.whole 5), .switch .verbose true] := rfl
  obtain ⟨hglob, -, -, -, htimeout, -⟩ :=
    settings_precedence hcheck { Options.default with timeout := .value (.whole 0) }
  refine ⟨hcheck, hglob.trans ?_, htimeout.trans rfl⟩
  rfl

end Rehearsal.Settings
