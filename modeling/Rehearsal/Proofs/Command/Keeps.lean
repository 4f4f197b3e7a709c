import Rehearsal.Command.Dispatch
import Rehearsal.Proofs.Script.Change
import Rehearsal.Proofs.Table
import Rehearsal.Script.Condition

/-!
# What commands keep

Every built-in command is made of changes, so it keeps whatever covers them: one lemma for each command, put together in
`keeps_front` for those that have nothing to do with programs beside a script, and in `keeps_builtin`. With a host whose
commands and functions keep the same, so does every line that names a command (`keeps_dispatch`).
-/

namespace Rehearsal

open Step (eval Keeps Lasting)

/-- A host whose commands and functions keep to a relation. -/
structure Host.KeepsTo (R : Script → Script → Prop) (host : Host) : Prop where
  command : ∀ verb command, Table.get? verb host.commands = some command →
    ∀ m args s, Keeps R (command m args) s
  function : ∀ name function, Table.get? name host.functions = some function →
    ∀ args s, R s ((function args).run s).2

/-- The host that brings nothing, measuring something or not. -/
def Host.bare (measuring : Bool) : Host := { Host.none with measuring }

/-- A host without commands and functions keeps to everything. -/
theorem Host.bare_keepsTo (R : Script → Script → Prop) (measuring : Bool) : (Host.bare measuring).KeepsTo R :=
  ⟨fun _ _ h => (nomatch h), fun _ _ h => (nomatch h)⟩

namespace Command

variable {R : Script → Script → Prop} {host : Host}

section InFront

variable [CoversFront R]

/-! ## What commands have in common -/

theorem keeps_refuseModifier (verb : String) (m : Modifier) (s : Script) : Keeps R (refuseModifier verb m) s := by
  rw [refuseModifier]
  split
  · exact Step.keeps_pure _ s
  · exact Step.keeps_throw _ s

theorem keeps_log (line : String) (s : Script) : Keeps R (log line) s :=
  Step.keeps_modify (Script.covers_logLine s line)

theorem keeps_absolute (path : String) (s : Script) : Keeps R (absolute path) s :=
  Step.keeps_get_bind (Step.keeps_pure _ s)

/-! ## Variables, and ending a script -/

theorem keeps_showVariable (key : String) (s : Script) : Keeps R (showVariable key) s :=
  Step.keeps_get_bind (keeps_log _ s)

theorem keeps_showOrAssign (arg : String) (s : Script) : Keeps R (showOrAssign arg) s := by
  rw [showOrAssign]
  split
  · exact keeps_showVariable _ s
  · exact keeps_assign _ _ s

theorem keeps_env (m : Modifier) (args : List String) (s : Script) : Keeps R (env m args) s := by
  refine Step.keeps_bind (keeps_refuseModifier _ m s) fun _ t _ => ?_
  split
  · refine Step.keeps_get_bind (Step.keeps_bind (Step.keeps_forIn (fun key _ u => ?_) t) fun _ u _ => Step.keeps_pure _ u)
    exact Step.keeps_bind (keeps_showVariable key u) fun _ v _ => Step.keeps_pure _ v
  · refine Step.keeps_bind (Step.keeps_forIn (fun arg _ u => ?_) t) fun _ u _ => Step.keeps_pure _ u
    exact Step.keeps_bind (keeps_showOrAssign arg u) fun _ v _ => Step.keeps_pure _ v

theorem keeps_skip (m : Modifier) (args : List String) (s : Script) : Keeps R (skip m args) s := by
  refine Step.keeps_bind (keeps_refuseModifier _ m s) fun _ t _ => ?_
  split <;> exact Step.keeps_throw _ t

theorem keeps_stop (m : Modifier) (args : List String) (s : Script) : Keeps R (stop m args) s := by
  refine Step.keeps_bind (keeps_refuseModifier _ m s) fun _ t _ => ?_
  extract_lets stopping
  have hstopping : ∀ u, Keeps R (stopping ()) u := fun u => Step.keeps_modify (CoversFront.front (.stop u) rfl)
  split
  · exact Step.keeps_bind (keeps_log _ t) fun _ u _ => hstopping u
  · exact Step.keeps_bind (keeps_log _ t) fun _ u _ => hstopping u
  · exact Step.keeps_throw_bind _ _ t

/-! ## Files -/

theorem keeps_cd (m : Modifier) (args : List String) (s : Script) : Keeps R (cd m args) s := by
  refine Step.keeps_bind (keeps_refuseModifier _ m s) fun _ t _ => ?_
  split
  next dir =>
    refine Step.keeps_get_bind ?_
    extract_lets directory going checking
    split
    · simp only [checking]
      split
      · exact Step.keeps_bind (Step.keeps_set (CoversFront.front (.directory t directory) rfl)) fun _ u _ => keeps_log _ u
      · exact Step.keeps_throw_bind _ _ t
    · exact Step.keeps_throw_bind _ _ t
  next => exact Step.keeps_throw _ t

theorem keeps_chmod (m : Modifier) (args : List String) (s : Script) : Keeps R (chmod m args) s := by
  refine Step.keeps_bind (keeps_refuseModifier _ m s) fun _ t _ => ?_
  split
  next =>
    split
    · exact Step.keeps_throw _ t
    · refine Step.keeps_bind (Step.keeps_forIn (fun path _ u => ?_) t) fun _ u _ => Step.keeps_pure _ u
      refine Step.keeps_bind (keeps_absolute path u) fun _ v _ => ?_
      exact Step.keeps_bind (keeps_files _ v) fun _ w _ => Step.keeps_pure _ w
  next => exact Step.keeps_throw _ t

theorem keeps_copied (source : String) (s : Script) : Keeps R (copied source) s := by
  refine Step.keeps_get_bind ?_
  split
  · exact Step.keeps_pure _ s
  split
  · exact Step.keeps_pure _ s
  · refine Step.keeps_bind (keeps_look _ s) fun _ t _ => ?_
    exact Step.keeps_bind (keeps_look _ t) fun _ u _ => Step.keeps_pure _ u

theorem keeps_cp (m : Modifier) (args : List String) (s : Script) : Keeps R (cp m args) s := by
  refine Step.keeps_bind (keeps_refuseModifier _ m s) fun _ t _ => ?_
  split
  next =>
    refine Step.keeps_bind (keeps_absolute _ t) fun target u _ => Step.keeps_get_bind ?_
    extract_lets intoDirectory copying
    have hcopying : ∀ u, Keeps R (copying ()) u := by
      intro u
      refine Step.keeps_bind (Step.keeps_forIn (fun source _ v => ?_) u) fun _ v _ => Step.keeps_pure _ v
      refine Step.keeps_bind (keeps_copied source v) fun _ w _ => ?_
      refine Step.keeps_bind (keeps_files _ w) fun _ x _ => ?_
      exact Step.keeps_bind (keeps_files _ x) fun _ y _ => Step.keeps_pure _ y
    split
    · exact Step.keeps_throw_bind _ _ u
    · exact hcopying u
  next => exact Step.keeps_throw _ t

theorem keeps_mkdir (m : Modifier) (args : List String) (s : Script) : Keeps R (mkdir m args) s := by
  refine Step.keeps_bind (keeps_refuseModifier _ m s) fun _ t _ => ?_
  extract_lets making
  split
  · exact Step.keeps_throw_bind _ _ t
  · refine Step.keeps_bind (Step.keeps_forIn (fun dir _ u => ?_) t) fun _ u _ => Step.keeps_pure _ u
    refine Step.keeps_bind (keeps_absolute dir u) fun _ v _ => ?_
    exact Step.keeps_bind (keeps_files _ v) fun _ w _ => Step.keeps_pure _ w

theorem keeps_rm (m : Modifier) (args : List String) (s : Script) : Keeps R (rm m args) s := by
  refine Step.keeps_bind (keeps_refuseModifier _ m s) fun _ t _ => ?_
  extract_lets removing
  split
  · exact Step.keeps_throw_bind _ _ t
  · refine Step.keeps_bind (Step.keeps_forIn (fun file _ u => ?_) t) fun _ u _ => Step.keeps_pure _ u
    refine Step.keeps_bind (keeps_absolute file u) fun _ v _ => ?_
    exact Step.keeps_bind (keeps_files _ v) fun _ w _ => Step.keeps_pure _ w

theorem keeps_symlink (m : Modifier) (args : List String) (s : Script) : Keeps R (symlink m args) s := by
  refine Step.keeps_bind (keeps_refuseModifier _ m s) fun _ t _ => ?_
  split
  · exact Step.keeps_bind (keeps_absolute _ t) fun _ u _ => keeps_files _ u
  · exact Step.keeps_throw _ t

theorem keeps_unquote (m : Modifier) (args : List String) (s : Script) : Keeps R (unquote m args) s := by
  refine Step.keeps_bind (keeps_refuseModifier _ m s) fun _ t _ => ?_
  refine Step.keeps_bind (Step.keeps_forIn (fun file _ u => ?_) t) fun _ u _ => Step.keeps_pure _ u
  refine Step.keeps_bind (keeps_absolute file u) fun _ v _ => ?_
  refine Step.keeps_bind (keeps_look _ v) fun data w _ => ?_
  split
  · exact Step.keeps_bind (keeps_files _ w) fun _ x _ => Step.keeps_pure _ x
  · exact Step.keeps_throw_bind _ _ w

theorem keeps_stdin (m : Modifier) (args : List String) (s : Script) : Keeps R (stdin m args) s := by
  refine Step.keeps_bind (keeps_refuseModifier _ m s) fun _ t _ => ?_
  split
  · exact Step.keeps_bind (keeps_text _ t) fun _ u _ => Step.keeps_modify (CoversFront.front (.stdin u _) rfl)
  · exact Step.keeps_throw _ t

theorem keeps_entry (path : String) (s : Script) : Keeps R ( entry? path) s := by
  refine Step.keeps_get_bind ?_
  split
  · exact Step.keeps_pure _ s
  · exact Step.keeps_pure _ s
  · exact Step.keeps_throw _ s

theorem keeps_check (w : Wanted) (m : Modifier) (file : String) (s : Script) : Keeps R (w.check m file) s := by
  refine Step.keeps_bind (keeps_absolute _ s) fun _ t _ => Step.keeps_bind (keeps_entry _ t) fun _ u _ => ?_
  split
  · exact Step.keeps_throw _ u
  · exact Step.keeps_throw _ u
  · extract_lets checking
    split
    · exact Step.keeps_throw_bind _ _ u
    · refine Step.keeps_get_bind ?_
      split
      · exact Step.keeps_throw _ u
      · exact Step.keeps_pure _ u
  · exact Step.keeps_pure _ u

theorem keeps_existence (m : Modifier) (args : List String) (s : Script) : Keeps R (existence m args) s := by
  rw [existence]
  split
  extract_lets checking
  split
  · exact Step.keeps_throw_bind _ _ s
  · refine Step.keeps_bind (Step.keeps_forIn (fun file _ t => ?_) s) fun _ t _ => Step.keeps_pure _ t
    exact Step.keeps_bind (keeps_check _ m file t) fun _ u _ => Step.keeps_pure _ u

/-! ## Texts -/

theorem keeps_compare (verb : String) (expanding : Bool) (m : Modifier) (args : List String) (s : Script) :
    Keeps R (compare verb expanding m args) s := by
  unfold compare
  extract_lets comparing
  split
  · exact Step.keeps_throw_bind _ _ s
  simp only [comparing]
  split
  next first second =>
    refine Step.keeps_bind (keeps_text first s) fun old t _ => ?_
    refine Step.keeps_bind (keeps_absolute second t) fun path u _ => ?_
    refine Step.keeps_bind (keeps_text path u) fun text v _ => Step.keeps_get_bind ?_
    generalize (if expanding then v.expand text else text) = new
    split
    · exact Step.keeps_pure _ v
    split
    next name hname =>
      split at hname
      · cases hname
      rw [golden?] at hname
      split at hname
      next hstream =>
        exact Step.keeps_set (CoversFront.front (.record v path name old (Bool.and_eq_true_iff.mp hstream).1 hname) rfl)
      next => cases hname
    next => exact Step.keeps_bind (keeps_log _ v) fun _ w _ => Step.keeps_throw _ w
  next => exact Step.keeps_throw _ s

theorem keeps_searchIn (m : Modifier) (count : Option Int) (shown : Bool) (source : String) (pattern : Pattern)
    (name text : String) (s : Script) : Keeps R (searchIn m count shown source pattern name text) s := by
  refine Step.keeps_get_bind ?_
  extract_lets text
  split
  · exact Step.keeps_pure _ s
  · extract_lets refusing
    split
    · exact Step.keeps_bind (keeps_log _ s) fun _ t _ => Step.keeps_throw _ t
    · exact Step.keeps_throw _ s
  · split
    · exact Step.keeps_bind (keeps_log _ s) fun _ t _ => Step.keeps_throw _ t
    · exact Step.keeps_throw _ s
  · split
    · split
      · exact Step.keeps_throw _ s
      · exact Step.keeps_pure _ s
    · exact Step.keeps_pure _ s

theorem keeps_patternOf (text : String) (s : Script) : Keeps R (patternOf text) s := by
  rw [patternOf]
  split
  · exact Step.keeps_pure _ s
  · exact Step.keeps_throw _ s

theorem keeps_searchArguments (form : String) (size : Nat) (m : Modifier) (args : List String) (s : Script) :
    Keeps R (searchArguments form size m args) s := by
  rw [searchArguments]
  split
  · exact Step.keeps_throw _ s
  · extract_lets answering counting
    split
    · exact Step.keeps_throw_bind _ _ s
    · simp only [counting]
      split
      · exact Step.keeps_throw_bind _ _ s
      · exact Step.keeps_pure _ s

theorem keeps_grep (m : Modifier) (args : List String) (s : Script) : Keeps R (grep m args) s := by
  refine Step.keeps_bind (keeps_searchArguments _ _ m args s) fun _ t _ => ?_
  split
  split
  · refine Step.keeps_bind (keeps_patternOf _ t) fun _ u _ => ?_
    exact Step.keeps_bind (keeps_text _ u) fun _ v _ => keeps_searchIn _ _ _ _ _ _ _ v
  · exact Step.keeps_pure _ t

theorem keeps_searchStream (name : String) (stream : Script → String) (m : Modifier) (args : List String) (s : Script) :
    Keeps R (searchStream name stream m args) s := by
  refine Step.keeps_bind (keeps_searchArguments _ _ m args s) fun _ t _ => ?_
  split
  split
  · refine Step.keeps_bind (keeps_patternOf _ t) fun _ u _ => ?_
    exact Step.keeps_get_bind (keeps_searchIn _ _ _ _ _ _ _ u)
  · exact Step.keeps_pure _ t

/-! ## Programs -/

theorem keeps_notStarted (m : Modifier) (f : Fault) (s : Script) : Keeps R (notStarted m f) s := by
  rw [notStarted.eq_def]
  split
  · split
    · exact Step.keeps_bind (keeps_log _ s) fun _ t _ => Script.keeps_expect _ _ _ t
    · exact Step.keeps_throw _ s
  · exact Step.keeps_throw _ s

theorem keeps_execInFront (m : Modifier) (command : String) (args : List String) (s : Script) :
    Keeps R (execInFront m command args) s := by
  refine Step.keeps_bind (keeps_attempt (Script.keeps_runKept command args s)) fun result t _ => ?_
  split
  · exact keeps_notStarted m _ t
  · extract_lets judging showing
    have hjudging : ∀ u, Keeps R (judging ()) u := fun u => Script.keeps_expect _ _ _ u
    split
    · exact Step.keeps_throw_bind _ _ t
    · simp only [showing]
      split
      · exact hjudging t
      · exact Step.keeps_bind (keeps_log _ t) fun _ u _ => hjudging u

theorem keeps_status (m : Modifier) (args : List String) (s : Script) : Keeps R (status m args) s := by
  rw [status.eq_def]
  split
  · split
    · exact Step.keeps_throw _ s
    · refine Step.keeps_get_bind ?_
      split
      all_goals
        extract_lets found
        split
        · exact Step.keeps_throw _ s
        · exact Step.keeps_pure _ s
  · exact Step.keeps_throw _ s

/-! ## Requests -/

theorem keeps_manageClients (args : List String) (s : Script) : Keeps R (manageClients args) s := by
  refine Step.keeps_get_bind ?_
  split
  · exact Step.keeps_set (CoversFront.front (.clients s _) rfl)
  · exact Step.keeps_throw _ s

theorem keeps_describe (args : List String) (s : Script) : Keeps R (describe args) s := by
  refine Step.keeps_get_bind ?_
  split
  · exact Step.keeps_pure _ s
  · exact Step.keeps_throw _ s

/-- An exchange never ends before it began. -/
theorem clock_le_timeAfter (s : Script) (o : Http.Exchange.Outcome) : s.scene.clock ≤ timeAfter s o := by
  rw [timeAfter]
  split
  · exact Nat.le_max_left _ _
  · exact Nat.le_add_right _ _

theorem keeps_send (t : Http.Template) (s : Script) : Keeps R (send t) s := by
  refine Step.keeps_get_bind ?_
  extract_lets o
  have hset : R s { s with
      scene := { s.scene with server := o.server, sent := s.scene.sent ++ o.sent, clock := timeAfter s o } } :=
    Lasting.trans (CoversFront.front (.exchange s o.server (s.scene.sent ++ o.sent)) rfl)
      (CoversFront.front (.clock _ _ (clock_le_timeAfter s o)) rfl)
  refine Step.keeps_bind (Step.keeps_set hset) fun _ u _ => ?_
  split
  · exact Step.keeps_pure _ u
  · exact Step.keeps_throw _ u

theorem keeps_checkAnswer (m : Modifier) (reason : Option String) (s : Script) : Keeps R (checkAnswer m reason) s := by
  rw [checkAnswer.eq_def]
  split
  · refine Step.keeps_bind (keeps_log _ s) fun _ t _ => ?_
    split
    · exact Step.keeps_throw _ t
    · exact Step.keeps_pure _ t
  · exact Script.keeps_expect _ _ _ s

theorem keeps_http (m : Modifier) (args : List String) (s : Script) : Keeps R (http m args) s := by
  rw [http.eq_def]
  split
  · exact Step.keeps_throw _ s
  · extract_lets managing
    split
    · exact Step.keeps_throw_bind _ _ s
    · exact keeps_manageClients _ s
  · refine Step.keeps_bind (keeps_describe _ s) fun t u _ => Step.keeps_bind (keeps_send t u) fun r v _ => ?_
    have hset : R v (({ v with stdout := r.stdout, stderr := r.stderr, status := r.status } : Script).logStreams
        r.stdout r.stderr) :=
      Lasting.trans (Lasting.trans (CoversFront.front (.streams v r.stdout r.stderr) rfl) (CoversFront.front (.status _ r.status) rfl))
        (Script.covers_logStreams _ _ _)
    exact Step.keeps_bind (Step.keeps_modify hset) fun _ w _ => keeps_checkAnswer _ _ w

/-! ## Functions of the host -/

/-- What a function leaves that has come to its end. -/
def returned (host : Host) (name : String) (r : Returned) : Action Called :=
  let left (accident : Option Accident) : Called := ⟨r.stdout, r.stderr, accident⟩
  match r.ending with
  | .normal => return left none
  | .fault (.accident a) => return left (some a)
  | .fault f => throw f
  | .exit code => do
    if host.measuring && !(← get).plan.ignoreMissedCoverage then Action.misuse (.exitMeasured name code)
    return left (exitAccident? code)

/-- Calling a function is running it, and then seeing what it leaves. -/
theorem callFunction_of_get? {name : String} {function : HostFunction} (h : Table.get? name host.functions = some function)
    (args : List String) : callFunction host name args = ExceptT.lift (function args) >>= returned host name := by
  rw [callFunction, h]
  rfl

theorem keeps_returned (name : String) (r : Returned) (s : Script) : Keeps R (returned host name r) s := by
  rw [returned]
  split
  · exact Step.keeps_pure _ s
  · exact Step.keeps_pure _ s
  · exact Step.keeps_throw _ s
  · refine Step.keeps_get_bind ?_
    split
    · exact Step.keeps_throw_bind _ _ s
    · exact Step.keeps_pure _ s

theorem keeps_callFunction (hhost : host.KeepsTo R) (name : String) (args : List String) (s : Script) :
    Keeps R (callFunction host name args) s := by
  cases hfunction : Table.get? name host.functions with
  | none =>
    rw [callFunction, hfunction]
    exact Step.keeps_throw _ s
  | some function =>
    rw [callFunction_of_get? hfunction]
    exact Step.keeps_bind (Step.keeps_liftM (hhost.function name function hfunction args s)) fun r t _ =>
      keeps_returned name r t

/-- Keeps what a function wrote, and judges it. -/
def kept (m : Modifier) (c : Called) : Action Unit := do
  modify fun s => ({ s with stdout := c.stdout, stderr := c.stderr } : Script).logStreams c.stdout c.stderr
  if let some a := c.accident then log s!"[{a.label}: {a.message}]"
  Script.expect m "call" c.accident.isNone

theorem call_cons (m : Modifier) (name : String) (args : List String) :
    call host m (name :: args) = callFunction host name args >>= kept m := rfl

theorem keeps_kept (m : Modifier) (c : Called) (s : Script) : Keeps R (kept m c) s := by
  have hset : R s (({ s with stdout := c.stdout, stderr := c.stderr } : Script).logStreams c.stdout c.stderr) :=
    Lasting.trans (CoversFront.front (.streams s c.stdout c.stderr) rfl) (Script.covers_logStreams _ _ _)
  refine Step.keeps_bind (Step.keeps_modify hset) fun _ u _ => ?_
  extract_lets judging
  have hjudging : ∀ v, Keeps R (judging ()) v := fun v => Script.keeps_expect _ _ _ v
  split
  · exact Step.keeps_bind (keeps_log _ u) fun _ v _ => hjudging v
  · exact hjudging u

theorem keeps_call (hhost : host.KeepsTo R) (m : Modifier) (args : List String) (s : Script) :
    Keeps R (call host m args) s := by
  cases args with
  | nil => exact Step.keeps_throw _ s
  | cons name rest =>
    rw [call_cons]
    exact Step.keeps_bind (keeps_callFunction hhost name rest s) fun c t _ => keeps_kept m c t

/-! ## Most of them -/

/-- The verbs of what may have to do with programs beside a script. -/
def besideVerbs : List String := ["call", "exec", "wait"]

theorem builtin_of_besideVerbs {verb : String} {command : Command} (h : Table.get? verb (builtin host) = some command)
    (hverb : verb ∈ besideVerbs) : command = call host ∨ command = exec ∨ command = wait := by
  simp only [besideVerbs, List.mem_cons, List.not_mem_nil, or_false] at hverb
  obtain rfl | rfl | rfl := hverb <;> cases h <;> simp

/-- The other built-in commands have nothing to do with programs beside a script. -/
theorem keeps_front {verb : String} {command : Command} (h : Table.get? verb (builtin host) = some command)
    (hverb : verb ∉ besideVerbs) (m : Modifier) (args : List String) (s : Script) : Keeps R (command m args) s := by
  have hall : ∀ pair ∈ builtin host, pair.1 ∉ besideVerbs → ∀ m args s, Keeps R (pair.2 m args) s := by
    have hbeside : ∀ {verb : String} {P : Prop}, verb ∈ besideVerbs → verb ∉ besideVerbs → P := fun h hnot => absurd h hnot
    simp only [builtin, List.forall_mem_cons]
    exact ⟨hbeside (by decide), fun _ => keeps_cd, fun _ => keeps_chmod, fun _ => keeps_compare _ _,
      fun _ => keeps_compare _ _, fun _ => keeps_cp, fun _ => keeps_env, hbeside (by decide), fun _ => keeps_existence,
      fun _ => keeps_grep, fun _ => keeps_http, fun _ => keeps_mkdir, fun _ => keeps_rm, fun _ => keeps_skip,
      fun _ => keeps_status, fun _ => keeps_searchStream _ _, fun _ => keeps_stdin, fun _ => keeps_searchStream _ _,
      fun _ => keeps_stop, fun _ => keeps_symlink, fun _ => keeps_unquote, hbeside (by decide),
      fun _ h => absurd h List.not_mem_nil⟩
  exact hall _ (Table.mem_of_get? h) hverb m args s

/-! ## How a command is judged -/

/-- Judging how a command ended adds a line to the transcript, or nothing. -/
theorem judge_logs (m : Modifier) (verb : String) (f : Fault) (s : Script) :
    (eval (judge m verb f) s).2 = s ∨ ∃ line, (eval (judge m verb f) s).2 = s.logLine line := by
  rw [judge.eq_def]
  split
  · split
    · exact .inr ⟨_, rfl⟩
    · exact .inl rfl
  · exact .inl rfl
  · exact .inl rfl

theorem keeps_judge (m : Modifier) (verb : String) (f : Fault) (s : Script) : Keeps R (judge m verb f) s := by
  rw [Keeps]
  obtain hsame | ⟨line, hline⟩ := judge_logs m verb f s
  · rw [hsame]
    exact Lasting.refl s
  · rw [hline]
    exact Script.covers_logLine s line

end InFront

/-! ## Programs beside a script -/

variable [Covers R]

theorem keeps_execBeside (m : Modifier) (command : String) (args : List String) (s : Script) :
    Keeps R (execBeside m command args) s := by
  refine Step.keeps_bind (keeps_attempt (Script.keeps_startBeside m command args s)) fun result t _ => ?_
  extract_lets emptying
  have hemptying : ∀ u, Keeps R (emptying ()) u := fun u => Step.keeps_modify (Covers.change (.streams u "" ""))
  split
  · exact Step.keeps_bind (keeps_notStarted m _ t) fun _ u _ => hemptying u
  · exact hemptying t

theorem keeps_exec (m : Modifier) (args : List String) (s : Script) : Keeps R (exec m args) s := by
  rw [exec.eq_def]
  split
  · exact Step.keeps_throw _ s
  split
  · exact Step.keeps_throw _ s
  split
  · exact keeps_execBeside m _ _ s
  · exact keeps_execInFront m _ _ s

theorem keeps_wait (m : Modifier) (args : List String) (s : Script) : Keeps R (wait m args) s := by
  refine Step.keeps_bind (keeps_refuseModifier _ m s) fun _ t _ => ?_
  extract_lets waiting
  split
  · exact Script.keeps_settle t
  · exact Step.keeps_throw_bind _ _ t

/-! ## All of them -/

/-- Every built-in command keeps what covers changes. -/
theorem keeps_builtin (hhost : host.KeepsTo R) {verb : String} {command : Command}
    (h : Table.get? verb (builtin host) = some command) (m : Modifier) (args : List String) (s : Script) :
    Keeps R (command m args) s := by
  by_cases hbeside : verb ∈ besideVerbs
  · rcases builtin_of_besideVerbs h hbeside with rfl | rfl | rfl
    · exact keeps_call hhost m args s
    · exact keeps_exec m args s
    · exact keeps_wait m args s
  · exact keeps_front h hbeside m args s

/-- A line that names a command comes to what is judged of it. -/
theorem eval_dispatch {verb : String} {command : Command}
    (h : Registry.layered (builtin host) host.commands verb = some command) (m : Modifier) (args : List String) (s : Script) :
    eval (dispatch host m (verb :: args)) s =
      match eval (command m args) s with
      | (.ok _, t) => (.ok (), t)
      | (.error f, t) => eval (judge m verb f) t := by
  rw [dispatch, h]
  dsimp only
  rw [Step.eval_bind, eval_attempt]
  rcases eval (command m args) s with ⟨f | u, t⟩ <;> rfl

/-- **A line that names a command keeps what every change keeps**, if the host's commands and functions do. -/
theorem keeps_dispatch (hhost : host.KeepsTo R) (m : Modifier) (words : List String) (s : Script) :
    Keeps R (dispatch host m words) s := by
  cases words with
  | nil => exact Step.keeps_pure _ s
  | cons verb args =>
    cases hcommand : Registry.layered (builtin host) host.commands verb with
    | none =>
      rw [dispatch, hcommand]
      exact Step.keeps_throw _ s
    | some command =>
      have hkeeps : Keeps R (command m args) s := by
        rw [Registry.layered] at hcommand
        split at hcommand
        next hbuiltin =>
          cases hcommand
          exact keeps_builtin hhost hbuiltin m args s
        next => exact hhost.command _ _ hcommand m args s
      rw [Keeps] at hkeeps ⊢
      rw [eval_dispatch hcommand]
      rcases hrun : eval (command m args) s with ⟨f | u, t⟩
      all_goals rw [hrun] at hkeeps
      · exact Lasting.trans hkeeps (keeps_judge m verb f t)
      · exact hkeeps

end Command

/-- Asking whether a condition holds changes nothing but what is known of programs. -/
theorem Script.keeps_condition {R : Script → Script → Prop} [CoversFront R] (host : Host) (name : String)
    (s : Script) : Keeps R (condition host name) s := by
  refine Step.keeps_get_bind ?_
  split
  · exact Step.keeps_pure _ s
  split
  · refine Step.keeps_get_bind ?_
    extract_lets scene pathList
    split
    exact Step.keeps_bind (Step.keeps_set (CoversFront.front (.programs s _) rfl)) fun _ t _ => Step.keeps_pure _ t
  split
  · split
    · exact Step.keeps_pure _ s
    · exact Step.keeps_throw _ s
  · exact Step.keeps_throw _ s

end Rehearsal
