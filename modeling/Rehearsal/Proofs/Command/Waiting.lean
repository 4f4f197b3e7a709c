import Rehearsal.Proofs.Script.Background

/-!
# Waiting for programs is judging them as if they had run in front

The programs beside a script are waited for in the order they were started. What each comes to, with the files as the one
before has left them, are their `outcomes`; what all of them come to together is put together from these (`run_collectAll`).

`verdict` is how `exec` ends with a program in front that has come to a result (`eval_exec_of_runKept`). The main law,
`wait_judges_as_exec`: waiting ends as the verdicts on the outcomes say, names exactly the programs that would be refused in
front, and leaves their outputs, the exit code of the last of them, and none to be waited for again. So a program that is
waited for as soon as it was started does to the script what it does in front, but for the transcript.

Which outcome a program has depends on when it is told to stop and on the files it finds. That is taken as it is.
-/

namespace Rehearsal

open Step (eval)

/-! ## The transcript -/

namespace Script

theorem logLine_eq (s : Script) (text : String) :
    s.logLine text = { s with log := s.log.write (Report.dropNewlines text ++ "\n") } := rfl

theorem exists_log_logStream (s : Script) (head text : String) : ∃ log, s.logStream head text = { s with log } := by
  rw [logStream]
  split
  · exact ⟨s.log, rfl⟩
  · exact ⟨_, logLine_eq s _⟩

/-- What a program wrote is shown in the transcript and nowhere else. -/
theorem exists_log_logStreams (s : Script) (stdout stderr : String) :
    ∃ log, s.logStreams stdout stderr = { s with log } := by
  obtain ⟨log, hout⟩ := exists_log_logStream s "stdout" stdout
  obtain ⟨log', herr⟩ := exists_log_logStream { s with log } "stderr" stderr
  rw [logStreams, hout, herr]
  exact ⟨log', rfl⟩

end Script

/-! ## A program in front -/

namespace Command

open Script (runKept expect launch startBeside settle collect)

/-- How a command ends that has run a program, by what it comes to and what was asked for. -/
def verdict (m : Modifier) (r : Program.Result) : Except Fault Unit :=
  if r.cancelled then .error .timeout
  else if m.accepts r.succeeded then .ok ()
  else .error (.mismatch (.surprise ⟨"command", r.succeeded⟩))

theorem verdict_eq_timeout_iff {m : Modifier} {r : Program.Result} : verdict m r = .error .timeout ↔ r.cancelled := by
  rw [verdict]
  split
  next h => exact iff_of_true rfl h
  next h => exact iff_of_false (by split <;> nofun) h

theorem eval_expect (m : Modifier) (succeeded : Bool) (s : Script) :
    eval (expect m "command" succeeded) s =
      (if m.accepts succeeded then .ok () else .error (.mismatch (.surprise ⟨"command", succeeded⟩)), s) := by
  rw [expect]
  split <;> rfl

theorem eval_execInFront_of_runKept {m : Modifier} {command : String} {args : List String} {s t : Script} {r : Program.Result}
    (h : eval (runKept command args) s = (.ok r, t)) :
    ∃ log, eval (execInFront m command args) s = (verdict m r, { t with log }) := by
  have hrun : eval (attempt (runKept command args)) s = (.ok (.ok r), t) := by rw [eval_attempt, h]
  rw [execInFront, Step.eval_bind_of_ok hrun, verdict]
  dsimp only
  split
  · exact ⟨t.log, by rw [Step.eval_throw_bind]⟩
  split
  · exact ⟨t.log, by rw [eval_expect]⟩
  · rw [log, Step.eval_modify_bind, eval_expect, Script.logLine_eq]
    exact ⟨_, rfl⟩

/-- A verdict stands when it is judged: behind a question mark there is no mismatch. -/
theorem judge_verdict {m : Modifier} {r : Program.Result} {f : Fault} (h : verdict m r = .error f) (verb : String)
    (s : Script) : eval (judge m verb f) s = (.error f, s) := by
  rw [verdict] at h
  split at h
  · cases h
    rfl
  split at h
  · cases h
  next hrefused =>
    cases h
    cases m with
    | plain | negated => rfl
    | neutral => exact absurd rfl hrefused

/-- What ends without a mark at its end runs in front. -/
theorem exec_inFront {command : String} {args : List String} (h : (command :: args).getLast? ≠ some besideMark)
    (m : Modifier) : exec m (command :: args) = execInFront m command args := by
  have halone : ¬(command :: args == [besideMark]) = true := fun heq => h (by rw [eq_of_beq heq]; rfl)
  have hbeside : ¬(args.getLast? == some besideMark) = true := fun heq => h (by rw [List.getLast?_cons, eq_of_beq heq]; rfl)
  rw [exec.eq_def]
  dsimp only
  rw [if_neg halone, if_neg hbeside]

/-- What ends with the mark runs beside the script. -/
theorem exec_beside (command : String) (args : List String) (m : Modifier) :
    exec m (command :: args ++ [besideMark]) = execBeside m command args := by
  have halone : ¬(command :: (args ++ [besideMark]) == [besideMark]) = true := fun heq => by
    simp at heq
  have hbeside : ((args ++ [besideMark]).getLast? == some besideMark) = true := by
    rw [List.getLast?_append]
    rfl
  rw [List.cons_append, exec.eq_def]
  dsimp only
  rw [if_neg halone, if_pos hbeside, List.dropLast_concat]

/-- **A program in front is judged by what it comes to**, and the judgement is no more than a line in the transcript. -/
theorem eval_exec_of_runKept (host : Host) {m : Modifier} {command : String} {args : List String} {s t : Script}
    {r : Program.Result} (hfront : (command :: args).getLast? ≠ some besideMark)
    (h : eval (runKept command args) s = (.ok r, t)) :
    ∃ log, eval (dispatch host m ("exec" :: command :: args)) s = (verdict m r, { t with log }) := by
  obtain ⟨log, hrun⟩ := eval_execInFront_of_runKept (m := m) h
  have hfound : Registry.layered (builtin host) host.commands "exec" = some exec := rfl
  rw [eval_dispatch hfound, exec_inFront hfront, hrun]
  refine ⟨log, ?_⟩
  cases hverdict : verdict m r with
  | ok _ => rfl
  | error f => exact judge_verdict hverdict "exec" _

end Command

namespace Script

/-! ## Starting a program -/

theorem eval_launch (command : String) (args : List String) (s : Script) :
    (eval (launch command args) s).2 = { s with stdin := "" } := by
  rw [launch, Step.eval_get_bind, Step.eval_set_bind]
  cases s.argv command args with
  | error f => rfl
  | ok argv =>
    dsimp only
    split <;> rfl

/-- A program that was started in front comes to what it does when it is waited for. -/
theorem eval_runKept {command : String} {args : List String} {s : Script} {p : Program.Started}
    (h : (eval (launch command args) s).1 = .ok p) :
    let (f, cancelled, after) := p.wait s.stopPolicy s.cancelAt .never s.scene.disk
    let r := f.result cancelled
    ∃ log, eval (runKept command args) s =
      (.ok r, { s with
        stdin := "", stdout := r.stdout, stderr := r.stderr, status := r.code, scene := Scene.after s.scene f after, log }) := by
  have hlaunch : eval (launch command args) s = (.ok p, { s with stdin := "" }) := Prod.ext h (eval_launch command args s)
  obtain ⟨⟨f, cancelled, after⟩, hwait⟩ : ∃ w, p.wait s.stopPolicy s.cancelAt .never s.scene.disk = w := ⟨_, rfl⟩
  have hrun : eval (attempt (runProgram command args)) s = (.ok (.ok (f.result cancelled)),
      { s with stdin := "", status := f.code, scene := Scene.after s.scene f after }) := by
    have hwait : p.wait ({ s with stdin := "" } : Script).stopPolicy s.cancelAt .never s.scene.disk = (f, cancelled, after) := hwait
    rw [eval_attempt, runProgram, Step.eval_bind_of_ok hlaunch, Step.eval_get_bind, hwait]
    rfl
  rw [hwait]
  dsimp only
  rw [runKept, Step.eval_bind_of_ok hrun]
  dsimp only
  rw [Step.eval_modify_bind, Step.eval_pure]
  obtain ⟨log, hlog⟩ := exists_log_logStreams _ _ _
  rw [hlog]
  exact ⟨log, rfl⟩

/-! ## Programs beside a script -/

theorem eval_startBeside {m : Modifier} {command : String} {args : List String} {s : Script} {p : Program.Started}
    (h : (eval (launch command args) s).1 = .ok p) :
    eval (startBeside m command args) s =
      (.ok (), { s with stdin := "", background := s.background ++ [⟨command :: args, m, p⟩] }) := by
  have hlaunch : eval (launch command args) s = (.ok p, { s with stdin := "" }) := Prod.ext h (eval_launch command args s)
  rw [startBeside, Step.eval_bind_of_ok hlaunch]
  rfl

/-- What programs come to that are waited for one after the other, each told to stop when the others are. -/
def outcomesIn (policy : Program.StopPolicy) (cancelAt : Option Time) (given : Program.Stop) :
    Scene → List Background → List (Background × Program.Result)
  | _, [] => []
  | scene, b :: rest =>
    let (f, cancelled, after) := b.process.wait policy cancelAt given scene.disk
    (b, f.result cancelled) :: outcomesIn policy cancelAt given (Scene.after scene f after) rest

/-- The scene when they have been waited for. -/
def sceneBehind (policy : Program.StopPolicy) (cancelAt : Option Time) (given : Program.Stop) (scene : Scene)
    (bs : List Background) : Scene :=
  bs.foldl (fun scene b =>
    let (f, _, after) := b.process.wait policy cancelAt given scene.disk
    Scene.after scene f after) scene

section Outcomes

variable {policy : Program.StopPolicy} {cancelAt : Option Time} {given : Program.Stop} {scene : Scene} {b : Background}
  {rest : List Background} {f : Program.Finish} {cancelled : Bool} {after : Files.Disk}

theorem outcomesIn_cons (h : b.process.wait policy cancelAt given scene.disk = (f, cancelled, after)) :
    outcomesIn policy cancelAt given scene (b :: rest) =
      (b, f.result cancelled) :: outcomesIn policy cancelAt given (Scene.after scene f after) rest := by
  rw [outcomesIn, h]

theorem sceneBehind_cons (h : b.process.wait policy cancelAt given scene.disk = (f, cancelled, after)) :
    sceneBehind policy cancelAt given scene (b :: rest) =
      sceneBehind policy cancelAt given (Scene.after scene f after) rest := by
  rw [sceneBehind, List.foldl_cons, h]
  rfl

end Outcomes

/-- What the programs beside a script come to. -/
def outcomes (s : Script) (given : Program.Stop) : List (Background × Program.Result) :=
  outcomesIn s.stopPolicy s.cancelAt given s.scene s.background

theorem map_fst_outcomesIn (policy : Program.StopPolicy) (cancelAt : Option Time) (given : Program.Stop) (scene : Scene)
    (bs : List Background) : (outcomesIn policy cancelAt given scene bs).map Prod.fst = bs := by
  induction bs generalizing scene with
  | nil => rfl
  | cons b rest ih => rw [outcomesIn, List.map_cons, ih]

/-- What is said of a program that was not asked to come out as it has. -/
def problem? (p : Background × Program.Result) : Option (Surprise × List String) :=
  match Command.verdict p.1.modifier p.2 with
  | .error (.mismatch (.surprise x)) => some (x, p.1.argv)
  | _ => none

/-- The collection of programs with what they have come to. -/
def Collection.of (ran : List (Background × Program.Result)) : Collection where
  stdout := String.join (ran.map (·.2.stdout))
  stderr := String.join (ran.map (·.2.stderr))
  cancelled := ran.any (·.2.cancelled)
  problems := ran.filterMap problem?

theorem Collection.of_append (ran : List (Background × Program.Result)) (b : Background) (r : Program.Result) :
    (Collection.of ran).add b r = Collection.of (ran ++ [(b, r)]) := by
  have hproblem : (if r.cancelled || b.modifier.accepts r.succeeded then [] else [(⟨"command", r.succeeded⟩, b.argv)]) =
      [(b, r)].filterMap problem? := by
    rw [List.filterMap_cons, problem?, Command.verdict]
    cases r.cancelled <;> cases b.modifier.accepts r.succeeded <;> rfl
  simp only [Collection.add, Collection.of, hproblem, List.map_append, List.filterMap_append, List.any_append, String.join,
    List.foldl_append, List.map_cons, List.map_nil, List.foldl_cons, List.foldl_nil, List.any_cons, List.any_nil, Bool.or_false]

theorem Collection.stdout_of_singleton (p : Background × Program.Result) : (Collection.of [p]).stdout = p.2.stdout :=
  String.empty_append

theorem Collection.stderr_of_singleton (p : Background × Program.Result) : (Collection.of [p]).stderr = p.2.stderr :=
  String.empty_append

/-- A script when a program beside it has been waited for. -/
theorem run_collectOne (given : Program.Stop) (c : Collection) (b : Background) (s : Script) :
    let (f, cancelled, after) := b.process.wait s.stopPolicy s.cancelAt given s.scene.disk
    ∃ log, (collectOne given c b).run s =
      (c.add b (f.result cancelled), { s with scene := Scene.after s.scene f after, status := f.code, log }) := by
  obtain ⟨⟨f, cancelled, after⟩, hwait⟩ : ∃ w, b.process.wait s.stopPolicy s.cancelAt given s.scene.disk = w := ⟨_, rfl⟩
  rw [hwait]
  dsimp only
  rw [collectOne, Step.run_bind, StateT.run_get]
  dsimp only [pure]
  rw [hwait]
  dsimp only
  let t : Script := { s with scene := Scene.after s.scene f after, status := f.code }
  let command := " ".intercalate b.argv
  let line := s!"[background] {command}: exit {f.code}"
  obtain ⟨log, hlog⟩ := exists_log_logStreams (t.logLine line) (f.result cancelled).stdout (f.result cancelled).stderr
  refine ⟨log, ?_⟩
  show (c.add b (f.result cancelled), (t.logLine line).logStreams (f.result cancelled).stdout (f.result cancelled).stderr) = _
  rw [hlog, logLine_eq]

/-- The exit code of the last of several programs, if there are any. -/
def lastCode (ran : List (Background × Program.Result)) (status : Int) : Int := (ran.getLast?.map (·.2.code)).getD status

theorem lastCode_cons (p : Background × Program.Result) (ran : List (Background × Program.Result)) (status : Int) :
    lastCode (p :: ran) status = lastCode ran p.2.code := by
  rw [lastCode, lastCode, List.getLast?_cons]
  cases ran.getLast? <;> rfl

/-- Waiting for programs one by one adds their outcomes to a collection, in the order they were started. -/
theorem run_collectAll (given : Program.Stop) (before : List (Background × Program.Result)) (bs : List Background)
    (s : Script) :
    let ran := outcomesIn s.stopPolicy s.cancelAt given s.scene bs
    let scene := sceneBehind s.stopPolicy s.cancelAt given s.scene bs
    ∃ log, (bs.foldlM (collectOne given) (.of before)).run s =
      (.of (before ++ ran), { s with scene, status := lastCode ran s.status, log }) := by
  induction bs generalizing before s with
  | nil =>
    refine ⟨s.log, ?_⟩
    rw [outcomesIn, List.append_nil]
    rfl
  | cons b rest ih =>
    obtain ⟨⟨f, cancelled, after⟩, hwait⟩ : ∃ w, b.process.wait s.stopPolicy s.cancelAt given s.scene.disk = w := ⟨_, rfl⟩
    have hone := run_collectOne given (.of before) b s
    rw [hwait] at hone
    obtain ⟨log, hone⟩ := hone
    obtain ⟨log, hrest⟩ := ih (before ++ [(b, f.result cancelled)])
      { s with scene := Scene.after s.scene f after, status := f.code, log }
    refine ⟨log, ?_⟩
    rw [List.foldlM_cons, Step.run_bind, hone, Collection.of_append, hrest, outcomesIn_cons hwait, sceneBehind_cons hwait,
      lastCode_cons, List.append_assoc]
    rfl

/-- **All programs beside a script are waited for together**: what is left of them is their outcomes. -/
theorem run_collect_outcomes (given : Program.Stop) (s : Script) :
    let ran := s.outcomes given
    let c := Collection.of ran
    let scene := sceneBehind s.stopPolicy s.cancelAt given s.scene s.background
    ∃ log, (collect given).run s =
      (c, { s with background := [], stdout := c.stdout, stderr := c.stderr, status := lastCode ran s.status, scene, log }) := by
  obtain ⟨log, hall⟩ := run_collectAll given [] s.background s
  refine ⟨log, ?_⟩
  have hempty : (⟨"", "", false, []⟩ : Collection) = .of [] := rfl
  rw [run_collect, hempty, hall, List.nil_append]
  rfl

/-! ## How waiting ends -/

/-- How a collection is judged. -/
def Collection.verdict (c : Collection) : Except Fault Unit :=
  if c.cancelled then .error .timeout
  else if c.problems.isEmpty then .ok ()
  else .error (.mismatch (.background c.problems))

theorem eval_judged (c : Collection) (s : Script) : eval (judged c) s = (c.verdict, s) := by
  rw [judged, Collection.verdict]
  cases c.cancelled with
  | true => rfl
  | false => cases c.problems <;> rfl

theorem problem?_eq_some_iff {p : Background × Program.Result} {x : Surprise} {argv : List String} :
    problem? p = some (x, argv) ↔
      Command.verdict p.1.modifier p.2 = .error (.mismatch (.surprise x)) ∧ p.1.argv = argv := by
  rw [problem?]
  split
  next y h => simp [h]
  next hnone => exact ⟨nofun, fun h => (hnone x h.1).elim⟩

/-- There is nothing to be said of a program that was not told to stop, and came out as it was asked to. -/
theorem problem?_eq_none_iff {p : Background × Program.Result} (h : ¬p.2.cancelled) :
    problem? p = none ↔ Command.verdict p.1.modifier p.2 = .ok () := by
  rw [problem?, Command.verdict, if_neg h]
  split
  next x hrefused => exact iff_of_false nofun (by rw [hrefused]; nofun)
  next hnone =>
    split
    · exact iff_of_true rfl rfl
    next hrefused => exact (hnone _ (if_neg hrefused)).elim

/-- Programs with what they came to are judged together as each of them would be in front. -/
structure JudgedAsInFront (ran : List (Background × Program.Result)) (result : Except Fault Unit) : Prop where
  timeout : result = .error .timeout ↔ ∃ p ∈ ran, p.2.cancelled
  mismatch : (∃ e, result = .error (.mismatch e)) ↔
    (∀ p ∈ ran, ¬p.2.cancelled) ∧ ∃ p ∈ ran, ∃ e, Command.verdict p.1.modifier p.2 = .error (.mismatch e)
  ok : result = .ok () ↔ ∀ p ∈ ran, Command.verdict p.1.modifier p.2 = .ok ()
  /-- A fault is a timeout, or it names those that would be refused. -/
  names : ∀ f, result = .error f → f = .timeout ∨ f = .mismatch (.background (ran.filterMap problem?))

theorem judgedAsInFront_verdict (ran : List (Background × Program.Result)) :
    JudgedAsInFront ran (Collection.of ran).verdict := by
  have hcancelled : (Collection.of ran).cancelled ↔ ∃ p ∈ ran, p.2.cancelled := List.any_eq_true
  rw [Collection.verdict]
  split
  next hstopped =>
    obtain ⟨p, hp, hstopped⟩ := hcancelled.mp hstopped
    have hverdict : Command.verdict p.1.modifier p.2 = .error .timeout := if_pos hstopped
    constructor
    case timeout => exact iff_of_true rfl ⟨p, hp, hstopped⟩
    case mismatch => exact iff_of_false nofun fun h => h.1 p hp hstopped
    case ok => exact iff_of_false nofun fun h => nomatch hverdict.symm.trans (h p hp)
    case names => exact fun f h => .inl (Except.error.inj h).symm
  next hran =>
    have hran : ∀ p ∈ ran, ¬p.2.cancelled := fun p hp hstopped => hran (hcancelled.mpr ⟨p, hp, hstopped⟩)
    have hnostop : ¬∃ p ∈ ran, p.2.cancelled := fun ⟨p, hp, hstopped⟩ => hran p hp hstopped
    split
    next hnone =>
      have hok : ∀ p ∈ ran, Command.verdict p.1.modifier p.2 = .ok () := fun p hp =>
        (problem?_eq_none_iff (hran p hp)).mp (List.filterMap_eq_nil_iff.mp (List.isEmpty_iff.mp hnone) p hp)
      constructor
      case timeout => exact iff_of_false nofun hnostop
      case mismatch => exact iff_of_false nofun fun ⟨_, p, hp, e, he⟩ => nomatch he.symm.trans (hok p hp)
      case ok => exact iff_of_true rfl hok
      case names => nofun
    next hsome =>
      obtain ⟨⟨x, argv⟩, hx⟩ := List.exists_mem_of_ne_nil _ (mt List.isEmpty_iff.mpr hsome)
      obtain ⟨p, hp, hproblem⟩ := List.mem_filterMap.mp hx
      have hverdict := (problem?_eq_some_iff.mp hproblem).1
      constructor
      case timeout => exact iff_of_false nofun hnostop
      case mismatch => exact iff_of_true ⟨_, rfl⟩ ⟨hran, p, hp, _, hverdict⟩
      case ok => exact iff_of_false nofun fun h => nomatch hverdict.symm.trans (h p hp)
      case names => exact fun f h => .inr (Except.error.inj h).symm

/-- What is left of programs when they have been waited for. -/
structure Collected (s : Script) (ran : List (Background × Program.Result)) (t : Script) : Prop where
  background : t.background = []
  stdout : t.stdout = String.join (ran.map (·.2.stdout))
  stderr : t.stderr = String.join (ran.map (·.2.stderr))
  status : t.status = lastCode ran s.status

theorem collected_collect (given : Program.Stop) (s : Script) :
    Collected s (s.outcomes given) ((collect given).run s).2 := by
  obtain ⟨log, hrun⟩ := run_collect_outcomes given s
  rw [hrun]
  exact ⟨rfl, rfl, rfl, rfl⟩

end Script

namespace Command

open Script (runKept launch startBeside collect JudgedAsInFront judgedAsInFront_verdict)

/-- Waiting is collecting, and then judging all of it. -/
theorem eval_wait (host : Host) (s : Script) :
    eval (dispatch host .plain ["wait"]) s =
      ((Script.Collection.of (s.outcomes .never)).verdict, ((collect .never).run s).2) := by
  have hcollect : eval (liftM (collect .never) : Action Script.Collection) s =
      (.ok (.of (s.outcomes .never)), ((collect .never).run s).2) := by
    obtain ⟨log, hrun⟩ := Script.run_collect_outcomes .never s
    have hcollected : ((collect .never).run s).1 = .of (s.outcomes .never) := congrArg Prod.fst hrun
    exact Prod.ext (congrArg Except.ok hcollected) rfl
  have hsettle : eval (wait .plain []) s =
      ((Script.Collection.of (s.outcomes .never)).verdict, ((collect .never).run s).2) := by
    show eval Script.settle s = _
    rw [Script.settle_eq, Step.eval_bind_of_ok hcollect, Script.eval_judged]
  have hfound : Registry.layered (builtin host) host.commands "wait" = some wait := rfl
  rw [eval_dispatch hfound, hsettle]
  cases hverdict : (Script.Collection.of (s.outcomes .never)).verdict with
  | ok _ => rfl
  | error f => obtain rfl | rfl := (judgedAsInFront_verdict _).names f hverdict <;> rfl

/-- What is started with the mark behind it goes on beside the script. -/
theorem eval_exec_beside (host : Host) {m : Modifier} {command : String} {args : List String} {s : Script}
    {p : Program.Started} (h : (eval (launch command args) s).1 = .ok p) :
    eval (dispatch host m ("exec" :: (command :: args ++ [besideMark]))) s =
      (.ok (), { s with
        stdin := "", stdout := "", stderr := "", background := s.background ++ [⟨command :: args, m, p⟩] }) := by
  have hstarted : eval (attempt (startBeside m command args)) s =
      (.ok (.ok ()), { s with stdin := "", background := s.background ++ [⟨command :: args, m, p⟩] }) := by
    rw [eval_attempt, Script.eval_startBeside h]
  have hexec : eval (exec m (command :: args ++ [besideMark])) s = (.ok (), { s with
      stdin := "", stdout := "", stderr := "", background := s.background ++ [⟨command :: args, m, p⟩] }) := by
    rw [exec_beside, execBeside, Step.eval_bind_of_ok hstarted]
    rfl
  have hfound : Registry.layered (builtin host) host.commands "exec" = some exec := rfl
  rw [eval_dispatch hfound, hexec]

/-- **A program that is waited for as soon as it was started does what it does in front**, but for the transcript. -/
theorem wait_of_beside (host : Host) {m : Modifier} {command : String} {args : List String} {s : Script}
    {p : Program.Started} (halone : s.background = []) (hfront : (command :: args).getLast? ≠ some besideMark)
    (h : (eval (launch command args) s).1 = .ok p) :
    let front := eval (dispatch host m ("exec" :: command :: args)) s
    let beside := eval (dispatch host m ("exec" :: (command :: args ++ [besideMark]))) s
    let waited := eval (dispatch host .plain ["wait"]) beside.2
    beside.1 = .ok () ∧ (∃ log, waited.2 = { front.2 with log }) ∧ (waited.1 = .ok () ↔ front.1 = .ok ()) ∧
      (waited.1 = .error .timeout ↔ front.1 = .error .timeout) ∧
      ((∃ e, waited.1 = .error (.mismatch e)) ↔ ∃ e, front.1 = .error (.mismatch e)) := by
  obtain ⟨⟨f, cancelled, after⟩, hwait⟩ : ∃ w, p.wait s.stopPolicy s.cancelAt .never s.scene.disk = w := ⟨_, rfl⟩
  have hkept := Script.eval_runKept h
  rw [hwait] at hkept
  obtain ⟨log, hkept⟩ := hkept
  obtain ⟨log, hfront⟩ := eval_exec_of_runKept host (m := m) hfront hkept
  let started : Script :=
    { s with stdin := "", stdout := "", stderr := "", background := [⟨command :: args, m, p⟩] }
  have hbeside : eval (dispatch host m ("exec" :: (command :: args ++ [besideMark]))) s = (.ok (), started) := by
    rw [eval_exec_beside host h, halone]
    rfl
  have hran : started.outcomes .never = [(⟨command :: args, m, p⟩, f.result cancelled)] := Script.outcomesIn_cons hwait
  have hscene : Script.sceneBehind started.stopPolicy started.cancelAt .never started.scene started.background =
      Script.Scene.after s.scene f after := Script.sceneBehind_cons hwait
  have hjudged := judgedAsInFront_verdict (started.outcomes .never)
  obtain ⟨log', hcollect⟩ := Script.run_collect_outcomes .never started
  rw [hran] at hjudged hcollect
  rw [hbeside]
  dsimp only
  rw [eval_wait, hran, hcollect, hfront]
  dsimp only
  refine ⟨rfl, ⟨log', ?_⟩, ?_, ?_, ?_⟩
  · rw [Script.Collection.stdout_of_singleton, Script.Collection.stderr_of_singleton, hscene, halone]
    rfl
  · rw [hjudged.ok, List.forall_mem_singleton]
  · rw [hjudged.timeout]
    simp only [List.mem_singleton, exists_eq_left, verdict_eq_timeout_iff]
  · rw [hjudged.mismatch]
    rw [List.forall_mem_singleton]
    simp only [List.mem_singleton, exists_eq_left]
    refine and_iff_right_of_imp fun ⟨e, he⟩ hstopped => ?_
    exact nomatch he.symm.trans (verdict_eq_timeout_iff.mpr hstopped)

/-- **Waiting judges programs as if they had run in front.** It takes them in the order they were started, times out if one
of them was told to stop, and else refuses them exactly if one of them would be refused in front with its modifier, naming
those. Whatever comes of it, and also when they are told to stop, none is left, and their outputs and the last exit code are.
So a program that could be started and is waited for alone does what it does in front. -/
theorem wait_judges_as_exec (host : Host) (s : Script) :
    let ran := s.outcomes .never
    let ended := eval (dispatch host .plain ["wait"]) s
    ran.map Prod.fst = s.background ∧ JudgedAsInFront ran ended.1 ∧ Script.Collected s ran ended.2 ∧
      (∀ given, Script.Collected s (s.outcomes given) ((collect given).run s).2) ∧
      (∀ m command args r t u, (command :: args).getLast? ≠ some besideMark → eval (runKept command args) t = (.ok r, u) →
        (eval (dispatch host m ("exec" :: command :: args)) t).1 = verdict m r) ∧
      ∀ m command args p, s.background = [] → (command :: args).getLast? ≠ some besideMark →
        (eval (launch command args) s).1 = .ok p →
        let front := eval (dispatch host m ("exec" :: command :: args)) s
        let beside := eval (dispatch host m ("exec" :: (command :: args ++ [besideMark]))) s
        let waited := eval (dispatch host .plain ["wait"]) beside.2
        beside.1 = .ok () ∧ (∃ log, waited.2 = { front.2 with log }) ∧ (waited.1 = .ok () ↔ front.1 = .ok ()) ∧
          (waited.1 = .error .timeout ↔ front.1 = .error .timeout) ∧
          ((∃ e, waited.1 = .error (.mismatch e)) ↔ ∃ e, front.1 = .error (.mismatch e)) := by
  intro ran ended
  have hended : ended = ((Script.Collection.of ran).verdict, ((collect .never).run s).2) := eval_wait host s
  refine ⟨Script.map_fst_outcomesIn _ _ _ _ _, ?_, ?_, fun given => Script.collected_collect given s, ?_, ?_⟩
  · rw [hended]
    exact judgedAsInFront_verdict ran
  · rw [hended]
    exact Script.collected_collect .never s
  · intro m command args r t u hfront h
    obtain ⟨log, hrun⟩ := eval_exec_of_runKept host (m := m) hfront h
    rw [hrun]
  · intro m command args p halone hfront h
    exact wait_of_beside host halone hfront h

/-- A program beside a script that is ready, and the same in front. -/
theorem wait_judges_as_exec_leaving :
    let s := Script.leavingReady
    let front := eval (dispatch (.bare false) .negated ["exec", "/p"]) s
    let waited := eval (dispatch (.bare false) .plain ["wait"])
      (eval (dispatch (.bare false) .negated ["exec", "/p", "&"]) s).2
    s.background = [] ∧ (∃ p, (eval (launch "/p" []) s).1 = .ok p) ∧
      (∃ r u, eval (runKept "/p" []) s = (.ok r, u) ∧ front.1 = verdict .negated r) ∧
      (waited.1 = .ok () ↔ front.1 = .ok ()) ∧ ∃ log, waited.2 = { front.2 with log } := by
  intro s
  dsimp only
  obtain ⟨p, hlaunch⟩ : ∃ p, (eval (launch "/p" []) s).1 = .ok p := Script.launch_leaving rfl rfl rfl
  obtain ⟨log, hkept⟩ := Script.eval_runKept hlaunch
  have hmark : ["/p"].getLast? ≠ some besideMark := by decide
  obtain ⟨-, -, -, -, hjudged, halone⟩ := wait_judges_as_exec (.bare false) s
  obtain ⟨-, hstate, hok, -⟩ := halone .negated "/p" [] p rfl hmark hlaunch
  have hmarked : ["/p"] ++ [besideMark] = ["/p", "&"] := rfl
  rw [hmarked] at hok hstate
  exact ⟨rfl, ⟨p, hlaunch⟩, ⟨_, _, hkept, hjudged .negated "/p" [] _ s _ hmark hkept⟩, hok, hstate⟩

end Command

end Rehearsal
