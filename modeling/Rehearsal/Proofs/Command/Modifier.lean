import Rehearsal.Proofs.Command.Keeps
import Rehearsal.Proofs.Script.Containment

/-!
# What a modifier makes of a command

A command that can be asked to fail comes out in one way, and its modifier says whether that is what was asked for. What it
does up to there has nothing to do with the modifier, so its three forms differ in no more than how they end and in their
transcripts (`Forms`). A fault that is no outcome of the command ends all of them alike.

`Forms` goes through a part that the three forms have in common (`Forms.bind`), which leaves one small law for each way of
judging an outcome. From there `modifiers_dual` follows for every command that judges one: of the plain and the negated form
one is refused, and the neutral form goes through.
-/

namespace Rehearsal

open Step (eval Fails)

/-- Whether a fault is that of a line that cannot be understood or carried out. -/
def Fault.isFatal : Fault → Bool
  | .misuse _ | .words _ | .unknownCommand _ | .unknownCondition _ | .unknownFunction _ | .request _ => true
  | _ => false

/-- A fault that is no outcome of a command: its line is misused, the script out of time, or something else went wrong. -/
inductive Fault.Firm : Fault → Prop where
  | fatal {f : Fault} (h : f.isFatal) : Firm f
  | timeout : Firm .timeout
  | accident (a : Accident) : Firm (.accident a)

namespace Http

/-! ## Describing a request -/

variable {ε : Type} {read : ReadFile ε}

/-- A reading of arguments that fails with files only where one cannot be read. -/
def FromFiles {α : Type} (read : ReadFile ε) (r : Except (RequestError ε) α) : Prop :=
  ∀ e, r = .error (.file e) → ∃ name, read name = .error e

theorem fromFiles_ok {α : Type} (x : α) : FromFiles read (.ok x) := fun _ h => (nomatch h)

theorem fromFiles_argument {α : Type} (e : ArgumentError) : FromFiles (α := α) read (.error (.argument e)) :=
  fun _ h => (nomatch h)

theorem FromFiles.bind {α β : Type} {r : Except (RequestError ε) α} {f : α → Except (RequestError ε) β}
    (hr : FromFiles read r) (hf : ∀ x, FromFiles read (f x)) : FromFiles read (r >>= f) := by
  cases r with
  | ok x => exact hf x
  | error e =>
    intro e' h
    cases h
    exact hr e' rfl

theorem fromFiles_fileText (name : String) : FromFiles read (fileText read name) := by
  rw [fileText]
  split
  · exact fromFiles_ok _
  next e he =>
    intro e' h
    cases h
    exact ⟨name, he⟩

theorem fromFiles_valueText (value : String) : FromFiles read (valueText read value) := by
  rw [valueText]
  split
  · exact fromFiles_fileText _
  · exact fromFiles_ok _

theorem fromFiles_read {α : Type} (r : Except ArgumentError α) : FromFiles read (argument r) := by
  cases r with
  | ok x => exact fromFiles_ok x
  | error e => exact fromFiles_argument e

theorem fromFiles_change (arg : String) : FromFiles read (change read arg) := by
  rw [change]
  split
  split
  · exact fromFiles_argument _
  · exact fromFiles_ok _
  · exact fromFiles_ok _
  · exact fromFiles_ok _
  · extract_lets value
    split
    · exact fromFiles_argument _
    · exact fromFiles_ok _
  · exact (fromFiles_valueText _).bind fun _ => fromFiles_ok _
  · exact (fromFiles_read _).bind fun _ => fromFiles_ok _
  · exact (fromFiles_valueText _).bind fun _ => fromFiles_ok _
  · extract_lets value
    split
    exact (fromFiles_fileText _).bind fun _ => fromFiles_ok _
  · exact (fromFiles_read _).bind fun _ => fromFiles_ok _
  · exact (fromFiles_read _).bind fun _ => fromFiles_ok _
  · extract_lets value m
    split
    · exact fromFiles_ok _
    · exact fromFiles_argument _

theorem fromFiles_apply (t : Template) (args : List String) : FromFiles read (apply read t args) := by
  induction args generalizing t with
  | nil => exact fromFiles_ok t
  | cons arg rest ih =>
    rw [apply.eq_def]
    dsimp only
    split
    next e he =>
      intro e' h
      cases h
      exact fromFiles_change arg e' he
    next f _ => exact ih (f t)

/-- A request cannot be described because of its arguments, or because of a file that cannot be read. -/
theorem fromFiles_request (cs : Clients) (args : List String) : FromFiles read (cs.request read args) := by
  rw [Clients.request.eq_def]
  split
  · exact fromFiles_ok _
  · split
    · exact fromFiles_apply _ _
    · exact fromFiles_apply _ _

end Http

namespace Command

/-! ## Forms -/

/-- How a form may end of a command that came out well or not. The neutral one may end in a mismatch before it is judged. -/
inductive Ends (m : Modifier) (succeeded : Bool) : Except Fault Unit → Prop where
  | accepted (h : m.accepts succeeded) : Ends m succeeded (.ok ())
  | refused (e : Mismatch) (h : m = .neutral ∨ m.accepts succeeded = false) : Ends m succeeded (.error (.mismatch e))

/-- What the three forms of a command come to. -/
inductive Forms (run : Modifier → Except Fault Unit × Script) : Prop where
  /-- All of them end in the same fault, which is no outcome of the command. -/
  | firm (f : Fault) (hf : f.Firm) (h : ∀ m, (run m).1 = .error f)
  /-- Each ends as it has to, and all of them leave the same script but for its transcript. -/
  | judged (succeeded : Bool) (s : Script) (h : ∀ m, Ends m succeeded (run m).1 ∧ ∃ log, (run m).2 = { s with log })

/-- What the forms have in common they do alike. -/
theorem Forms.bind {α : Type} {a : Action α} {k : Modifier → α → Action Unit} {s : Script} (ha : Fails Fault.Firm a s)
    (hk : ∀ x t, eval a s = (.ok x, t) → Forms fun m => eval (k m x) t) : Forms fun m => eval (a >>= k m) s := by
  rcases hrun : eval a s with ⟨f | x, t⟩
  · refine .firm f (ha f (by rw [hrun])) fun m => ?_
    rw [Step.eval_bind_of_error hrun]
  · simp only [Step.eval_bind_of_ok hrun]
    exact hk x t hrun

theorem forms_expect (what : String) (succeeded : Bool) (s : Script) :
    Forms fun m => eval (Script.expect m what succeeded) s := by
  refine .judged succeeded s fun m => ?_
  rw [Script.expect]
  cases haccepts : m.accepts succeeded with
  | true => exact ⟨.accepted haccepts, s.log, rfl⟩
  | false => exact ⟨.refused _ (.inr haccepts), s.log, rfl⟩

theorem firm_log (line : String) (s : Script) : Fails Fault.Firm (log line) s := Step.fails_modify _ s

theorem firm_text {s : Script} {file : String} {f : Fault} (h : s.text file = .error f) : f.Firm := by
  rw [Script.text] at h
  split at h
  · cases h
  split at h
  · cases h
  split at h
  · cases h
    exact .accident _
  · cases h
    exact .fatal rfl
  · split at h
    · cases h
      exact .fatal rfl
    · cases h

theorem fails_text (file : String) (s : Script) : Fails Fault.Firm (Action.text file) s := by
  refine Step.fails_get_bind ?_
  split
  · exact Step.fails_pure _ s
  next f hf => exact Step.fails_throw (firm_text hf) s

/-! ## Searches -/

theorem fails_patternOf (text : String) (s : Script) : Fails Fault.Firm (patternOf text) s := by
  rw [patternOf]
  split
  · exact Step.fails_pure _ s
  · exact Step.fails_throw (.accident _) s

/-- A search finds something or does not. -/
theorem forms_searchIn (shown : Bool) (source : String) (pattern : Pattern) (name text : String) (s : Script) :
    Forms fun m => eval (searchIn m none shown source pattern name text) s := by
  simp only [searchIn, Step.eval_get_bind]
  cases pattern.search (text.replace s.workDir "$WORK") with
  | none =>
    refine .judged false s fun m => ?_
    cases m with
    | plain => cases shown <;> exact ⟨.refused _ (.inr rfl), _, rfl⟩
    | negated => exact ⟨.accepted rfl, _, rfl⟩
    | neutral => cases shown <;> exact ⟨.refused _ (.inl rfl), _, rfl⟩
  | some span =>
    refine .judged true s fun m => ?_
    cases m with
    | plain => exact ⟨.accepted rfl, _, rfl⟩
    | negated => cases shown <;> exact ⟨.refused _ (.inr rfl), _, rfl⟩
    | neutral => exact ⟨.accepted rfl, _, rfl⟩

/-- Arguments that ask for no number of matches. -/
def Uncounted (args : List String) : Prop := ∀ arg, args.head? = some arg → arg.startsWith countMark = false

/-- Where no number of matches is asked for, a modifier makes nothing of the arguments of a search. -/
theorem eval_searchArguments {args : List String} (h : Uncounted args) (form : String) (size : Nat) (m : Modifier)
    (s : Script) :
    eval (searchArguments form size m args) s =
      if args.length = size then (.ok (none, args), s) else (.error (.misuse (.usage form)), s) := by
  have hcount : countOf args = .ok (none, args) := by
    cases args with
    | nil => rfl
    | cons arg rest => rw [countOf, h arg rfl, if_neg Bool.false_ne_true]
  rw [searchArguments, hcount]
  dsimp only
  by_cases hsize : args.length = size
  · rw [if_pos hsize, hsize, bne_self_eq_false, if_neg Bool.false_ne_true]
    rfl
  · rw [if_neg hsize, bne_iff_ne.mpr hsize, if_pos rfl]
    rfl

/-- Arguments of a search that asks for no number of matches are as many as it takes, or refused. -/
theorem Forms.search {args : List String} (h : Uncounted args) {form : String} {size : Nat} {s : Script}
    {k : Modifier → Option Int × List String → Action Unit}
    (hk : args.length = size → Forms fun m => eval (k m (none, args)) s) :
    Forms fun m => eval (searchArguments form size m args >>= k m) s := by
  simp only [Step.eval_bind, eval_searchArguments h]
  by_cases hsize : args.length = size
  · simp only [if_pos hsize]
    exact hk hsize
  · simp only [if_neg hsize]
    exact .firm _ (.fatal rfl) fun _ => rfl

theorem forms_grep {args : List String} (h : Uncounted args) (s : Script) : Forms fun m => eval (grep m args) s := by
  refine Forms.search h fun hsize => ?_
  obtain ⟨source, file, rfl⟩ := List.length_eq_two.mp hsize
  refine Forms.bind (fails_patternOf source s) fun pattern t _ => ?_
  exact Forms.bind (fails_text file t) fun text u _ => forms_searchIn true source pattern file text u

theorem forms_searchStream (name : String) (stream : Script → String) {args : List String} (h : Uncounted args) (s : Script) :
    Forms fun m => eval (searchStream name stream m args) s := by
  refine Forms.search h fun hsize => ?_
  obtain ⟨source, rfl⟩ := List.length_eq_one_iff.mp hsize
  refine Forms.bind (fails_patternOf source s) fun pattern t _ => ?_
  simp only [Step.eval_get_bind]
  exact forms_searchIn false source pattern name (stream t) t

/-! ## Exit codes -/

theorem eval_status {code : String} {wanted : Int} (h : Integer.ofText code = .ok wanted) (m : Modifier) (s : Script) :
    eval (status m [code]) s =
      if s.status = wanted then
        (if m = .negated then .error (.mismatch (.isStatus s.status)) else .ok (), s)
      else
        (if m = .negated then .ok () else .error (.mismatch (.otherStatus s.status wanted)), s) := by
  simp only [status, h, Step.eval_get_bind]
  by_cases hfound : s.status = wanted
  · cases m <;> simp [hfound, Action.mismatch]
  · cases m <;> simp [hfound, Action.mismatch]

theorem forms_status (args : List String) (s : Script) : Forms fun m => eval (status m args) s := by
  rcases args with _ | ⟨code, _ | ⟨more, rest⟩⟩
  · exact .firm _ (.fatal rfl) fun _ => rfl
  · cases hcode : Integer.ofText code with
    | error e =>
      simp only [status, hcode]
      exact .firm _ (.fatal rfl) fun _ => rfl
    | ok wanted =>
      simp only [eval_status hcode]
      by_cases hfound : s.status = wanted
      · simp only [if_pos hfound]
        refine .judged true s fun m => ?_
        cases m with
        | plain | neutral => exact ⟨.accepted rfl, s.log, rfl⟩
        | negated => exact ⟨.refused _ (.inr rfl), s.log, rfl⟩
      · simp only [if_neg hfound]
        refine .judged false s fun m => ?_
        cases m with
        | plain => exact ⟨.refused _ (.inr rfl), s.log, rfl⟩
        | negated => exact ⟨.accepted rfl, s.log, rfl⟩
        | neutral => exact ⟨.refused _ (.inl rfl), s.log, rfl⟩
  · exact .firm _ (.fatal rfl) fun _ => rfl

/-! ## Programs -/

/-- A fault that is an accident. -/
def ByAccident (f : Fault) : Prop := ∃ a, f = .accident a

/-- That a program is not started is an accident. -/
theorem fails_launch (command : String) (args : List String) (s : Script) :
    Fails ByAccident (Script.launch command args) s := by
  refine Step.fails_get_bind (Step.fails_bind (Step.fails_set _ s) fun _ t _ => ?_)
  split
  next f hf =>
    refine Step.fails_throw ?_ t
    rw [Script.argv] at hf
    split at hf
    · cases hf
    split at hf
    · cases hf
    · cases hf
      exact ⟨_, rfl⟩
  next =>
    extract_lets
    split
    · exact Step.fails_pure _ t
    · exact Step.fails_throw ⟨_, rfl⟩ t
    · exact Step.fails_throw ⟨_, rfl⟩ t

theorem fails_runKept (command : String) (args : List String) (s : Script) :
    Fails ByAccident (Script.runKept command args) s := by
  have hrun : Fails ByAccident (Script.runProgram command args) s := by
    refine Step.fails_bind (fails_launch command args s) fun p t _ => Step.fails_get_bind ?_
    split
    exact Step.fails_bind (Step.fails_set _ t) fun _ u _ => Step.fails_pure _ u
  refine Step.fails_bind (fails_attempt _ _ s) fun result t hresult => ?_
  split
  · exact Step.fails_modify_bind (Step.fails_pure _ _)
  · extract_lets throwing
    split
    · exact Step.fails_modify_bind (Step.fails_throw ⟨_, rfl⟩ _)
    · exact Step.fails_throw ⟨_, rfl⟩ t
  next f hf =>
    rw [eval_attempt] at hresult
    exact Step.fails_throw (hrun f (Except.ok.inj (Prod.mk.inj hresult).1)) t

/-- A program that is not started has failed, or there is no judging it. -/
theorem forms_notStarted {f : Fault} (hf : ByAccident f) (s : Script) : Forms fun m => eval (notStarted m f) s := by
  obtain ⟨a, rfl⟩ := hf
  cases hsystem : a.isSystem with
  | true =>
    simp only [notStarted, hsystem, if_true]
    exact Forms.bind (firm_log _ s) fun _ t _ => forms_expect "command" false t
  | false =>
    simp only [notStarted, hsystem, Bool.false_eq_true, if_false]
    exact .firm _ (.accident a) fun _ => rfl

theorem forms_execInFront (command : String) (args : List String) (s : Script) :
    Forms fun m => eval (execInFront m command args) s := by
  refine Forms.bind (fails_attempt _ _ s) fun result t hresult => ?_
  rw [eval_attempt] at hresult
  cases result with
  | error f => exact forms_notStarted (fails_runKept command args s f (Except.ok.inj (Prod.mk.inj hresult).1)) t
  | ok r =>
    cases hcancelled : r.cancelled with
    | true =>
      simp only [hcancelled, if_true]
      exact .firm _ .timeout fun _ => rfl
    | false =>
      simp only [hcancelled, Bool.false_eq_true, if_false]
      cases hsucceeded : r.succeeded with
      | true => exact forms_expect "command" true t
      | false => exact Forms.bind (firm_log _ t) fun _ u _ => forms_expect "command" false u

/-- Arguments that do not ask for a program to run beside the script. -/
def InFront (args : List String) : Prop := args.getLast? = some besideMark → args = [besideMark]

theorem forms_exec {args : List String} (h : InFront args) (s : Script) : Forms fun m => eval (exec m args) s := by
  rcases args with _ | ⟨command, rest⟩
  · exact .firm _ (.fatal rfl) fun _ => rfl
  by_cases halone : command :: rest = [besideMark]
  · simp only [exec, halone, beq_self_eq_true, if_true]
    exact .firm _ (.fatal rfl) fun _ => rfl
  · have hfront : (rest.getLast? == some besideMark) = false := by
      refine beq_eq_false_iff_ne.mpr fun hlast => halone (h ?_)
      rw [List.getLast?_cons, hlast]
      rfl
    simp only [exec, beq_eq_false_iff_ne.mpr halone, hfront, Bool.false_eq_true, if_false]
    exact forms_execInFront command rest s

/-! ## Functions of the host -/

/-- Arguments that call a function of the host which ends, from a state on, in nothing that belongs to scripts. -/
def Foreign (host : Host) (s : Script) (args : List String) : Prop :=
  ∀ name rest function, args = name :: rest → Table.get? name host.functions = some function →
    ∀ f, ((function rest).run s).1.ending = .fault f → ByAccident f

theorem fails_callFunction {host : Host} {name : String} {args : List String} {s : Script}
    (h : Foreign host s (name :: args)) : Fails Fault.Firm (callFunction host name args) s := by
  rw [callFunction]
  split
  next => exact Step.fails_throw (.fatal rfl) s
  next function hfunction =>
    refine Step.fails_bind (Step.fails_liftM _ s) fun r t hr => ?_
    have hr : r = ((function args).run s).1 := (Except.ok.inj (congrArg Prod.fst hr)).symm
    extract_lets left
    split
    · exact Step.fails_pure _ t
    · exact Step.fails_pure _ t
    next f hnot hf =>
      rw [hr] at hf
      obtain ⟨a, rfl⟩ := h name args function rfl hfunction f hf
      exact absurd rfl (hnot a)
    · refine Step.fails_get_bind ?_
      split
      · exact Step.fails_throw_bind (.fatal rfl) _ t
      · exact Step.fails_pure _ t

theorem forms_call {host : Host} {args : List String} {s : Script} (h : Foreign host s args) :
    Forms fun m => eval (call host m args) s := by
  rcases args with _ | ⟨name, rest⟩
  · exact .firm _ (.fatal rfl) fun _ => rfl
  refine Forms.bind (fails_callFunction h) fun c t _ => ?_
  refine Forms.bind (Step.fails_modify _ t) fun _ u _ => ?_
  cases c.accident with
  | none => exact forms_expect "call" true u
  | some a => exact Forms.bind (firm_log _ u) fun _ v _ => forms_expect "call" false v

/-! ## Requests -/

theorem fails_describe (args : List String) (s : Script) : Fails Fault.Firm (describe args) s := by
  refine Step.fails_get_bind ?_
  split
  · exact Step.fails_pure _ s
  next e he =>
    refine Step.fails_throw ?_ s
    cases e with
    | argument e => exact .fatal rfl
    | file f =>
      obtain ⟨name, hname⟩ := Http.fromFiles_request s.clients args f he
      exact firm_text hname

theorem fails_send (t : Http.Template) (s : Script) : Fails Fault.Firm (send t) s := by
  refine Step.fails_get_bind ?_
  extract_lets o
  refine Step.fails_bind (Step.fails_set _ s) fun _ u _ => ?_
  split
  · exact Step.fails_pure _ u
  next f _ =>
    refine Step.fails_throw ?_ u
    cases f with
    | outOfTime => exact .timeout
    | argument e => exact .fatal rfl
    | _ => exact .accident _

theorem forms_checkAnswer (reason : Option String) (s : Script) : Forms fun m => eval (checkAnswer m reason) s := by
  cases reason with
  | none => exact forms_expect "http" true s
  | some reason =>
    refine Forms.bind (firm_log _ s) fun _ t _ => .judged false t fun m => ?_
    cases m with
    | plain => exact ⟨.refused _ (.inr rfl), t.log, rfl⟩
    | negated | neutral => exact ⟨.accepted rfl, t.log, rfl⟩

theorem forms_http {args : List String} (h : args.head? ≠ some "client") (s : Script) :
    Forms fun m => eval (http m args) s := by
  rcases args with _ | ⟨name, rest⟩
  · exact .firm _ (.fatal rfl) fun _ => rfl
  have hrequest : ∀ m, http m (name :: rest) = (do
      let t ← describe (name :: rest)
      let r ← send t
      modify fun s =>
        ({ s with stdout := r.stdout, stderr := r.stderr, status := r.status } : Script).logStreams r.stdout r.stderr
      checkAnswer m r.error) := by
    intro m
    rw [http]
    · nofun
    · rintro rest' heq
      cases heq
      exact h rfl
  simp only [hrequest]
  refine Forms.bind (fails_describe _ s) fun t u _ => Forms.bind (fails_send t u) fun r v _ => ?_
  exact Forms.bind (Step.fails_modify _ v) fun _ w _ => forms_checkAnswer r.error w

/-! ## All of them -/

/-- Words that judge an outcome, from a state of a script on. -/
inductive Judges (host : Host) (s : Script) : List String → Prop where
  | exec {args : List String} (h : InFront args) : Judges host s ("exec" :: args)
  | call {args : List String} (h : Foreign host s args) : Judges host s ("call" :: args)
  | http {args : List String} (h : args.head? ≠ some "client") : Judges host s ("http" :: args)
  | grep {args : List String} (h : Uncounted args) : Judges host s ("grep" :: args)
  | stdout {args : List String} (h : Uncounted args) : Judges host s ("stdout" :: args)
  | stderr {args : List String} (h : Uncounted args) : Judges host s ("stderr" :: args)
  | status (args : List String) : Judges host s ("status" :: args)

/-- What the three forms of a line come to when they are judged. Either all of them end in the same fault, for which the
line is to blame or the time; or one of the plain and the negated form ends in a mismatch and the other does not, the neutral
form does not either, and all three leave the same script but for its transcript. -/
def Dual (run : Modifier → Except Fault Unit × Script) : Prop :=
  (∃ f : Fault, (f.isFatal ∨ f = .timeout) ∧ ∀ m, (run m).1 = .error f) ∨
    ((∃ e, (run .plain).1 = .error (.mismatch e) ∧ (run .negated).1 = .ok ()) ∨
      ∃ e, (run .plain).1 = .ok () ∧ (run .negated).1 = .error (.mismatch e)) ∧
    (run .neutral).1 = .ok () ∧ ∃ s : Script, ∀ m, ∃ log, (run m).2 = { s with log }

/-- What no modifier has a say in stays a fault when it is judged. -/
theorem judge_firm {f : Fault} (hf : f.Firm) (verb : String) :
    ∃ g : Fault, (g.isFatal ∨ g = .timeout) ∧ ∀ m s, eval (judge m verb f) s = (.error g, s) := by
  cases hf with
  | timeout => exact ⟨.timeout, .inr rfl, fun _ _ => rfl⟩
  | accident a => exact ⟨.misuse (ofAccident verb a), .inl rfl, fun _ _ => rfl⟩
  | @fatal f h =>
    refine ⟨f, .inl h, fun m s => ?_⟩
    cases f with
    | misuse | words | unknownCommand | unknownCondition | unknownFunction | request => rfl
    | mismatch | timeout | skip | integrity | accident => cases h

/-- What a form has come to when it is judged. -/
def settled (m : Modifier) (verb : String) (ended : Except Fault Unit × Script) : Except Fault Unit × Script :=
  match ended with
  | (.ok _, s) => (.ok (), s)
  | (.error f, s) => eval (judge m verb f) s

/-- A form that is judged ends in a mismatch exactly if it does not accept how the command came out. -/
theorem settled_of_ends {m : Modifier} {succeeded : Bool} {ended : Except Fault Unit × Script} {s : Script}
    (hends : Ends m succeeded ended.1) (hstate : ∃ log, ended.2 = { s with log }) (verb : String) :
    (if m.accepts succeeded then (settled m verb ended).1 = .ok ()
      else ∃ e, (settled m verb ended).1 = .error (.mismatch e)) ∧ ∃ log, (settled m verb ended).2 = { s with log } := by
  obtain ⟨result, t⟩ := ended
  obtain ⟨log, rfl⟩ := hstate
  cases hends with
  | accepted haccepts =>
    rw [if_pos haccepts]
    exact ⟨rfl, log, rfl⟩
  | refused e h =>
    cases m with
    | neutral => exact ⟨rfl, _, rfl⟩
    | plain | negated =>
      obtain h | h := h
      · cases h
      · rw [h, if_neg Bool.false_ne_true]
        exact ⟨⟨e, rfl⟩, log, rfl⟩

/-- The forms of a command that is found are dual when they are judged. -/
theorem Forms.dual {host : Host} {verb : String} {args : List String} {command : Command} {s : Script}
    (hfound : Registry.layered (builtin host) host.commands verb = some command)
    (h : Forms fun m => eval (command m args) s) : Dual fun m => eval (dispatch host m (verb :: args)) s := by
  have hrun : ∀ m, eval (dispatch host m (verb :: args)) s = settled m verb (eval (command m args) s) := fun m =>
    eval_dispatch hfound m args s
  simp only [hrun]
  cases h with
  | firm f hf hends =>
    obtain ⟨g, hg, hjudge⟩ := judge_firm hf verb
    refine .inl ⟨g, hg, fun m => ?_⟩
    have hcommand : eval (command m args) s = (.error f, (eval (command m args) s).2) := Prod.ext (hends m) rfl
    show (settled m verb (eval (command m args) s)).1 = .error g
    rw [hcommand]
    exact congrArg Prod.fst (hjudge m _)
  | judged succeeded t hall =>
    have hform := fun m => settled_of_ends (hall m).1 (hall m).2 verb
    refine .inr ⟨?_, (hform .neutral).1, t, fun m => (hform m).2⟩
    cases succeeded with
    | false =>
      obtain ⟨e, hplain⟩ := (hform .plain).1
      exact .inl ⟨e, hplain, (hform .negated).1⟩
    | true =>
      obtain ⟨e, hnegated⟩ := (hform .negated).1
      exact .inr ⟨e, (hform .plain).1, hnegated⟩

/-- **The forms of a command are dual, and no modifier has a say in what the command does.** -/
theorem modifiers_dual {host : Host} {s : Script} {words : List String} (h : Judges host s words) :
    Dual fun m => eval (dispatch host m words) s := by
  cases h with
  | exec h => exact (forms_exec h s).dual rfl
  | call h => exact (forms_call h).dual rfl
  | http h => exact (forms_http h s).dual rfl
  | grep h => exact (forms_grep h s).dual rfl
  | stdout h => exact (forms_searchStream _ _ h s).dual rfl
  | stderr h => exact (forms_searchStream _ _ h s).dual rfl
  | status args => exact (forms_status args s).dual rfl

/-- A host with a function that writes something and gives up. -/
def givingUp : Host :=
  { Host.none with functions := [("f", fun _ => pure ⟨"out\n", "err\n", .fault (.accident (.host .runtime "no"))⟩)] }

theorem modifiers_dual_call :
    Judges givingUp default ["call", "f"] ∧ Dual (fun m => eval (dispatch givingUp m ["call", "f"]) default) ∧
      (eval (dispatch givingUp .plain ["call", "f"]) default).1 = .error (.mismatch (.surprise ⟨"call", false⟩)) ∧
      (eval (dispatch givingUp .neutral ["call", "f"]) default).2.stdout = "out\n" := by
  have hforeign : Foreign givingUp default ["f"] := by
    rintro name rest function ⟨⟩ hfunction f hf
    obtain rfl := Option.some.inj hfunction
    cases hf
    exact ⟨_, rfl⟩
  have hjudges : Judges givingUp default ["call", "f"] := .call hforeign
  exact ⟨hjudges, modifiers_dual hjudges, rfl, rfl⟩

end Command

end Rehearsal
