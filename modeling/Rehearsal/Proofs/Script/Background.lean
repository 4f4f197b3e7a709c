import Rehearsal.Proofs.Command.Beside
import Rehearsal.Proofs.Script.LineNumber
import Rehearsal.Proofs.Script.Reachable
import Rehearsal.Proofs.Script.Workplace
import Rehearsal.Proofs.Words

/-!
# No program beside a script is lost

A line that is met does beside its script what the command it comes to does: `lineEvents` follows it through its guards and
its modifier to that command (`brings_performLine`). What the lines of a script have done (`events`) and what is collected
behind them (`closing`) is the history of the script. Programs are collected there in two places: when the lines come to
their end, and when the script is taken down with programs that still run.

The main law, `background_accounted`, is about a script from its opening on, however it ends: with its last line, at a
`stop` or a `skip`, at a line that fails, when its updates cannot be stored, or with a deferred function that fails. What
runs beside it at a line is what was started since the last collection, and over its whole history what was started is what
was collected.

What the commands and functions of a host do is taken from the host's account. A program counts as started when the system
has started it; whether one that was not started should have been is not said here.
-/

namespace Rehearsal

open Step (eval Keeps Lasting)

namespace Script

/-! ## Lines -/

variable {host : Host}

/-- What a command with its modifier does beside a script. -/
def commandEvents (a : host.Account) (words : List String) (s : Script) : List Event :=
  match words with
  | [] => []
  | word :: rest =>
    match Modifier.ofWord? word with
    | none => Command.events a .plain (word :: rest) s
    | some m => if rest.isEmpty then [] else Command.events a m rest s

/-- What a command behind guards does there: nothing, unless they all hold. -/
def guardedEvents (a : host.Account) (words : List String) (s : Script) : List Event :=
  match eval (Guard.select (condition host) words) s with
  | (.ok (some words), t) => commandEvents a words t
  | _ => []

/-- What a line does there. A header and a comment do nothing, and neither does a line that has no words or is not cut into
any. -/
def lineEvents (a : host.Account) (line : String) (s : Script) : List Event :=
  if line.startsWith s.plan.phasePrefix then []
  else if line.startsWith s.plan.commentPrefix then []
  else
    match Words.split s.expand line with
    | .error _ | .ok [] => []
    | .ok words => guardedEvents a words ((s.atLine line).write s!"> {line}\n")

theorem brings_command (a : host.Account) (words : List String) (s : Script) :
    Brings (command (performer host) words) s (commandEvents a words s) := by
  cases words with
  | nil => exact brings_nothing (Step.keeps_pure _ s)
  | cons word rest =>
    simp only [command, commandEvents]
    cases Modifier.ofWord? word with
    | none => exact Command.brings_dispatch a .plain (word :: rest) s
    | some m =>
      dsimp only
      split
      · exact brings_nothing (Step.keeps_throw _ s)
      · exact Command.brings_dispatch a m rest s

theorem brings_guarded (a : host.Account) (words : List String) (s : Script) :
    Brings (do
      match ← Guard.select (condition host) words with
      | some words => command (performer host) words
      | none => pure ()) s (guardedEvents a words s) := by
  have hselect : Keeps SameBackground (Guard.select (condition host) words) s := keeps_select (keeps_condition host) words s
  rw [Brings, Step.eval_bind, guardedEvents]
  rcases hrun : eval (Guard.select (condition host) words) s with ⟨f | words?, t⟩
  all_goals rw [Keeps, hrun] at hselect
  · exact .nothing hselect
  · cases words? with
    | none => exact .nothing hselect
    | some words => exact .quietly hselect (brings_command a words t)

theorem sameBackground_openPhase (header : String) (s : Script) : SameBackground s (s.openPhase header) := by
  have hclosed : SameBackground s s.closePhase := by
    rw [closePhase_eq]
    rfl
  rw [SameBackground, openPhase]
  exact hclosed

/-- **A line brings about what the command it comes to does.** -/
theorem brings_performLine (a : host.Account) (line : String) (s : Script) :
    Brings (performLine (performer host) line) s (lineEvents a line s) := by
  rw [Brings, eval_performLine, lineEvents]
  split
  · exact .nothing (sameBackground_openPhase line s.counted)
  split
  · exact .nothing rfl
  rw [performCommand, Step.eval_bind, eval_parse, show s.counted.expand = s.expand from rfl]
  cases Words.split s.expand line with
  | error e => exact .nothing rfl
  | ok words =>
    cases words with
    | nil => exact .nothing rfl
    | cons word rest =>
      have hwritten : SameBackground s ((s.atLine line).write s!"> {line}\n") := rfl
      dsimp only
      rw [List.isEmpty_cons, if_neg Bool.false_ne_true, Step.eval_modify_bind]
      exact .quietly hwritten (brings_guarded a (word :: rest) _)

/-! ## The lines of a script -/

/-- What a line that was met has done beside its script. -/
def Visit.events (a : host.Account) (v : Visit) : List Event := lineEvents a v.line v.before

/-- What lines that were met have done beside their script. -/
def events (a : host.Account) (vs : List Visit) : List Event := vs.flatMap (·.events a)

theorem happens_visit (a : host.Account) {lines : List String} {s : Script} {v : Visit}
    (h : v ∈ visits (performer host) lines s) : Happens v.before (v.events a) v.after := by
  have hbrings := brings_performLine a v.line v.before
  rwa [Brings, eval_of_mem_visits h] at hbrings

theorem events_cons (a : host.Account) (v : Visit) (vs : List Visit) : events a (v :: vs) = v.events a ++ events a vs := rfl

theorem brings_performLines (a : host.Account) (lines : List String) (s : Script) :
    Brings (performLines (performer host) lines) s (events a (visits (performer host) lines s)) := by
  induction lines generalizing s with
  | nil => exact brings_nothing (Step.keeps_pure _ s)
  | cons line rest ih =>
    have hline := brings_performLine a line s
    rw [Brings, eval_performLines_cons, visits, events_cons]
    refine Happens.trans hline ?_
    dsimp only
    split
    · exact ih _
    · exact .nothing rfl

/-- The lines in front of one that is met have brought about what each of them does. -/
theorem happens_visits (a : host.Account) {lines : List String} {s : Script} {front back : List Visit} {v : Visit}
    (h : visits (performer host) lines s = front ++ v :: back) : Happens s (events a front) v.before := by
  induction lines generalizing s front with
  | nil =>
    rw [visits] at h
    simp at h
  | cons line rest ih =>
    have hline := brings_performLine a line s
    rw [visits] at h
    cases front with
    | nil =>
      obtain rfl := (List.cons.inj h).1
      exact .nothing rfl
    | cons w front =>
      obtain ⟨rfl, hrest⟩ := List.cons.inj h
      rw [events_cons]
      refine Happens.trans hline ?_
      split at hrest
      · exact ih hrest
      · simp at hrest

/-! ## A script from beginning to end -/

/-- What is performed before the first line of a script. -/
def prepare (host : Host) : Action String := do
  let text ← setUp host
  startTimer
  showVariables host
  return text

/-- What is performed once a script is prepared. -/
def performPrepared (host : Host) (text : String) : Action Unit := do
  let result ← attempt (performText host text)
  storeUpdates
  match result with
  | .ok () => pure ()
  | .error f => throw f

theorem performAll_eq (host : Host) : performAll host = prepare host >>= performPrepared host := by
  simp only [performAll, prepare, bind_assoc, pure_bind]
  rfl

/-- The lines that a script meets, from beginning to end. -/
def met (host : Host) (s : Script) : List Visit :=
  match eval (prepare host) s with
  | (.ok text, t) => visits (performer host) (Line.split text) t
  | (.error _, _) => []

/-- What is done beside a script whose lines have come to their end: the programs that still run are collected. -/
def endEvents : Except Fault Unit × Script → List Event
  | (.ok _, t) => [.collected t.background]
  | (.error _, _) => []

/-- What is done beside a script that is taken down: if programs still run, they are collected. -/
def downEvents (s : Script) : List Event := if s.background.isEmpty then [] else [.collected s.background]

/-- What is done beside a script behind its lines: when they come to their end, and when it is taken down. -/
def closing (host : Host) (s : Script) : List Event :=
  (match eval (prepare host) s with
    | (.ok text, t) => endEvents (eval (performLines (performer host) (Line.split text)) t)
    | (.error _, _) => []) ++ downEvents (eval (performAll host) s).2

/-- All that is done beside a script, from beginning to end. -/
def history (a : host.Account) (s : Script) : List Event := events a (met host s) ++ closing host s

theorem sameBackground_markTime (s : Script) : SameBackground s s.markTime := by
  rw [markTime_eq]
  rfl

theorem quiet_startTimer (s : Script) : Keeps SameBackground startTimer s := by
  rw [Keeps, eval_startTimer]
  split
  · rfl
  split <;> rfl

theorem quiet_showVariables (s : Script) : Keeps SameBackground (showVariables host) s := by
  obtain ⟨log, mark, hshown⟩ := shown_showVariables host s
  rw [Keeps, hshown]
  rfl

theorem quiet_prepare (s : Script) : Keeps SameBackground (prepare host) s := by
  refine Step.keeps_bind (idle_setUp host s).background fun text t _ => ?_
  refine Step.keeps_bind (quiet_startTimer t) fun _ u _ => ?_
  exact Step.keeps_bind (quiet_showVariables u) fun _ v _ => Step.keeps_pure text v

theorem happens_dismiss (s : Script) : Happens s [.collected s.background] (dismiss.run s).2 := by
  rw [dismiss, Step.run_bind, StateT.run_get]
  exact .collected (s.stopPolicy.stopAt s.scene.clock) s

theorem happens_finished (s : Script) : Happens s [.collected s.background] s.finished := by
  refine (happens_dismiss s).quiet ?_
  have hsettled : SameBackground (dismiss.run s).2 (dismiss.run s).2.rewind.markTime := by
    rw [markTime_eq, rewind_eq]
    rfl
  rw [finished]
  split
  · exact hsettled
  · exact hsettled

/-- The text of a script brings about what its lines do, and the last collection if they come to their end. -/
theorem brings_performText (a : host.Account) (text : String) (s : Script) :
    Brings (performText host text) s
      (events a (visits (performer host) (Line.split text) s) ++
        endEvents (eval (performLines (performer host) (Line.split text)) s)) := by
  have hlines := brings_performLines a (Line.split text) s
  rw [Brings] at hlines ⊢
  rw [eval_performText]
  rcases hrun : eval (performLines (performer host) (Line.split text)) s with ⟨f | u, t⟩
  all_goals rw [hrun] at hlines
  · exact hlines.trans (.nothing rfl)
  · exact hlines.trans (happens_finished t)

theorem quiet_storing (result : Except Fault Unit) (s : Script) :
    Keeps SameBackground (do
      storeUpdates
      match result with
      | .ok () => pure ()
      | .error f => throw f) s := by
  refine Step.keeps_bind (keeps_storeUpdates s) fun _ t _ => ?_
  split
  · exact Step.keeps_pure _ t
  · exact Step.keeps_throw _ t

/-- What is performed before a script is taken down brings about all of its history but what is done then. -/
theorem brings_performAll (a : host.Account) (s : Script) :
    ∃ es, Brings (performAll host) s es ∧ history a s = es ++ downEvents (eval (performAll host) s).2 := by
  have hprepare : Keeps SameBackground (prepare host) s := quiet_prepare s
  rw [history, met, closing, ← List.append_assoc]
  refine ⟨_, ?_, rfl⟩
  rw [Brings, performAll_eq, Step.eval_bind]
  rcases hrun : eval (prepare host) s with ⟨f | text, t⟩
  all_goals rw [Keeps, hrun] at hprepare
  · exact .nothing hprepare
  · exact .quietly hprepare ((brings_performText a text t).attempt.bind quiet_storing)

theorem happens_alone (s : Script) : Happens s (downEvents s) s.alone := by
  rw [alone, downEvents]
  split
  · exact .nothing rfl
  · exact happens_dismiss s

theorem background_alone (s : Script) : s.alone.background = [] := by
  rw [alone]
  split
  next hnone => exact List.isEmpty_iff.mp hnone
  next => rfl

/-- A script is left alone when it is abandoned. -/
theorem abandoned_eq (s : Script) : s.abandoned = { s.withoutTimer with deferred := [] }.alone := rfl

theorem happens_abandoned (s : Script) : Happens s (downEvents s) s.abandoned.markTime := by
  have hleft : SameBackground s { s.withoutTimer with deferred := [] } := rfl
  have halone : Happens s (downEvents s) s.abandoned := .quietly hleft (happens_alone { s.withoutTimer with deferred := [] })
  exact halone.quiet (sameBackground_markTime _)

/-- **Performing a script brings about its history.** -/
theorem happens_perform (a : host.Account) (s : Script) : Happens s (history a s) ((perform host).run s).2 := by
  obtain ⟨notes, log, hended⟩ := perform_eq host s
  obtain ⟨es, hall, hhistory⟩ := brings_performAll a s
  rw [hended, hhistory]
  rw [Brings] at hall
  refine hall.trans ?_
  generalize (eval (performAll host) s).2 = t
  have hnoted : SameBackground t (t.withNotes notes log) := rfl
  exact .quietly hnoted (happens_abandoned (t.withNotes notes log))

/-- **Nothing runs beside a script that is over**, however it has ended. -/
theorem background_perform (host : Host) (s : Script) : ((perform host).run s).2.background = [] := by
  obtain ⟨notes, log, hended⟩ := perform_eq host s
  rw [hended, sameBackground_markTime, abandoned_eq]
  exact background_alone _

/-- In front of a line that is met, the events of the lines before it have taken place, and nothing else. -/
theorem happens_before (a : host.Account) {s : Script} {front back : List Visit} {v : Visit}
    (h : met host s = front ++ v :: back) : Happens s (events a front) v.before ∧ Happens v.before (v.events a) v.after := by
  have hprepare : Keeps SameBackground (prepare host) s := quiet_prepare s
  rw [met] at h
  rcases hrun : eval (prepare host) s with ⟨f | text, t⟩
  all_goals
    rw [hrun] at h
    dsimp only at h
  · simp at h
  · rw [Keeps, hrun] at hprepare
    have hmem : v ∈ visits (performer host) (Line.split text) t := by
      rw [h]
      exact List.mem_append_right front List.mem_cons_self
    exact ⟨.quietly hprepare (happens_visits a h), happens_visit a hmem⟩

theorem background_opening (plan : Plan) (platform : Platform) (file name root : String) (scene : Scene) :
    (opening plan platform file name root scene).background = [] := rfl

/-- A script that starts a program beside it and ends. -/
def leavingText : Bytes := Bytes.ascii "exec /p &\n"

/-- The disk it is on, with the program. -/
def leavingDisk : Files.Disk := (sampleDisk leavingText).putEntry ["p"] (.file 0o755 (Program.fileOf "true"))

/-- What is found of it. -/
def leavingFront : Front := ⟨leavingDisk, leavingText, ⟨leavingText, []⟩, "exec /p &\n"⟩

/-- The script on that disk. -/
def leavingScript : Script := opening .usual ⟨"linux", "x86_64"⟩ "a" "" "" (.ofDisk leavingDisk [])

/-- The script when it is set up. -/
def leavingReady : Script := (leavingScript.begun leavingFront none).retabled

/-- The script when its line is shown. -/
def leavingShown : Script :=
  let line := "exec /p &"
  (leavingReady.atLine line).write s!"> {line}\n"

theorem grows_leavingDisk : (sampleDisk leavingText).Grows leavingDisk := by
  have hfree : (sampleDisk leavingText).tree.get? ([] ++ ["p"]) = none := rfl
  exact Files.Disk.grows_putEntry_free hfree _

theorem eval_prepare_leaving : eval (prepare (.bare false)) leavingScript = (.ok "exec /p &\n", leavingReady) := by
  have hread : Frontmatter.read "exec /p &\n" = ⟨[], .ok (none, "exec /p &\n")⟩ := by cbv
  have harchive : Archive.parse leavingFront.data = .ok leavingFront.archive := (Archive.parse_eq_ofLines _).trans (by cbv)
  have hfinds : leavingScript.Finds leavingFront := finds_of_grows grows_leavingDisk rfl harchive (by cbv)
  have hbegins : leavingScript.Begins leavingFront none "exec /p &\n" :=
    ⟨hfinds, congrArg Frontmatter.Read.result hread, rfl⟩
  have hsetup : eval (setUp (.bare false)) leavingScript = (.ok "exec /p &\n", leavingReady) := by
    rw [eval_setUp rfl hbegins, show leavingFront.archive.files = [] from rfl, eval_extractAll_nil]
    rfl
  rw [prepare, Step.eval_bind_of_ok hsetup, Step.eval_bind_of_ok (eval_startTimer_of_none rfl rfl),
    Step.eval_bind_of_ok (eval_showVariables rfl rfl)]
  rfl

/-- The program is found and may be run, from wherever. -/
theorem loaded_leaving (base : List String) :
    Program.loaded { leavingDisk with base } "/p" = .ok (Program.fileOf "true") := by
  have hcut : "/p".splitOn "/" = ["", "p"] := by
    rw [show "/p".splitOn "/" = _ from Line.splitOn_singleton '/' "/p"]
    cbv
  have hroot : Path.isAbsolute "/p" = true := by cbv
  have hlocate : Files.locate leavingDisk.tree base true "/p" = .ok (.entry ["p"] (.file 0o755 (Program.fileOf "true"))) := by
    rw [Files.locate, hcut, if_neg (by decide), if_neg (by decide), if_pos hroot]
    cbv
  have hfind : ({ leavingDisk with base } : Files.Disk).find true "/p" = .ok (["p"], .file 0o755 (Program.fileOf "true")) :=
    Files.Disk.find_eq_file.mpr ⟨by rw [String.contains_char_eq]; decide, by cbv, hlocate⟩
  rw [Program.loaded, hfind]
  simp [Files.Entry.allows, Files.Entry.mode, Files.searchBit]

/-- Programs can be started in the directory of the script. -/
theorem enter_leaving : Program.enter leavingDisk "script-" = .ok { leavingDisk with base := ["script-"] } := by
  have hcut : "script-".splitOn "/" = ["script-"] := by
    rw [show "script-".splitOn "/" = _ from Line.splitOn_singleton '/' "script-"]
    cbv
  have hroot : Path.isAbsolute "script-" = false := by cbv
  have hlocate : Files.locate leavingDisk.tree leavingDisk.base true "script-" =
      .ok (.entry ["script-"] (.directory 0o755)) := by
    rw [Files.locate, hcut, if_neg (by decide), if_neg (by decide), if_neg (by simp [hroot])]
    cbv
  have hnull : "script-".contains '\x00' = false := by rw [String.contains_char_eq]; decide
  have hslash : Files.endsInSlash "script-" = false := by cbv
  have hfind : leavingDisk.find true "script-" = .ok (["script-"], .directory 0o755) := by
    rw [Files.Disk.find, hnull, Files.find, hslash, Bool.or_false, hlocate]
    rfl
  rw [Program.enter, hfind]
  simp [Files.Entry.isDirectory, Files.Entry.allows, Files.Entry.mode, Files.searchBit]

theorem load_leaving (vars : Table String) (base : List String) :
    ∃ run, Program.load vars "/p" [] Program.maxNesting { leavingDisk with base } "/p" = .ok run := by
  have hname : Utf8.decodeLossy ((Program.fileOf "true").drop Program.programMark.length) = "true" := by cbv
  have hmark : Program.programMark.isPrefixOf (Program.fileOf "true") = true := by cbv
  rw [show Program.maxNesting = 15 + 1 from rfl, Program.load, loaded_leaving]
  simp only [hmark, hname, if_true]
  exact ⟨_, rfl⟩

/-- The variables that programs of the script see. -/
theorem processVariables_leaving : leavingReady.directory = "script-" ∧ leavingReady.processVariables =
    [("WORK", "script-"), ("PATH", ""), ("HOME", "/no-home"), ("TMPDIR", "script-/tmp"), ("devnull", "/dev/null"),
      ("/", "/"), (":", ":"), ("exe", ""), ("PWD", "script-")] := by
  have hjoin : Path.join "" "script-" = "script-" := by cbv
  have hdirectory : leavingReady.directory = "script-" := hjoin ▸ rfl
  have hentries : leavingReady.entries = Environment.standard ⟨"linux", "x86_64"⟩ [] "script-" := hjoin ▸ rfl
  have hplatform : leavingReady.platform = ⟨"linux", "x86_64"⟩ := rfl
  refine ⟨hdirectory, ?_⟩
  rw [processVariables, hentries, hdirectory, hplatform]
  cbv

/-- The program can be started once the script is ready. -/
theorem start_leaving (stdin : Bytes) (time : Time) :
    ∃ p, Program.start leavingDisk ⟨["/p"], leavingReady.directory, leavingReady.processVariables⟩ stdin time = .ok p := by
  obtain ⟨hdirectory, hvars⟩ := processVariables_leaving
  obtain ⟨run, hload⟩ := load_leaving leavingReady.processVariables ["script-"]
  have hpaths : ∀ pathList, Program.candidates pathList "/p" = ["/p"] := fun _ => by
    rw [Program.candidates, if_pos (by decide)]
  have hprepare : Program.prepare leavingDisk ⟨["/p"], leavingReady.directory, leavingReady.processVariables⟩ =
      .ok (run, { leavingDisk with base := ["script-"] }) := by
    rw [hvars] at hload ⊢
    -- neither the name of a variable nor a text has a character that the system refuses
    rw [hdirectory, Program.prepare, if_neg (by decide), if_neg (by decide), enter_leaving]
    simp [hpaths, Program.firstOf, hload]
  rw [Program.start, hprepare]
  exact ⟨_, rfl⟩

theorem launch_leaving {s : Script} (hdisk : s.scene.disk = leavingDisk) (hdirectory : s.directory = leavingReady.directory)
    (hvars : s.processVariables = leavingReady.processVariables) : ∃ p, (eval (launch "/p" []) s).1 = .ok p := by
  obtain ⟨p, hstart⟩ := start_leaving (Utf8.encode s.stdin) s.scene.clock
  have hargv : s.argv "/p" [] = .ok ["/p"] := by rw [argv, if_pos (by decide)]
  rw [launch, Step.eval_get_bind, Step.eval_set_bind, hargv]
  dsimp only
  rw [hdisk, hdirectory, hvars, hstart]
  exact ⟨p, rfl⟩

end Script

end Rehearsal
