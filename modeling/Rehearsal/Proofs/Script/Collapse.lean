import Rehearsal.Proofs.Script.Containment
import Rehearsal.Proofs.Script.Setup

/-!
# What a transcript comes to

A script that comes to the end of its lines leaves the headers of its phases and nothing of what was logged in them; one
that fails leaves the phases before in the same form, and all of the last one (`perform_collapses`). It is supposed that
nothing is shown beyond that, that no golden file was found out of date, and that nothing is left to do in the end.

Setting a script up writes nothing to its transcript, so its first line finds it empty (`stands_opening`).
-/

namespace Rehearsal.Script

open Step (eval Keeps Lasting)

/-! ## Before the first line -/

/-- A script whose transcript nothing has happened to. -/
structure Unlogged (s t : Script) : Prop where
  plan : t.plan = s.plan
  file : t.file = s.file
  log : t.log = s.log
  mark : t.mark = s.mark
  phaseStart : t.phaseStart = s.phaseStart
  lineNumber : t.lineNumber = s.lineNumber

instance : Lasting Unlogged where
  refl _ := ⟨rfl, rfl, rfl, rfl, rfl, rfl⟩
  trans h h' := ⟨h'.plan.trans h.plan, h'.file.trans h.file, h'.log.trans h.log, h'.mark.trans h.mark,
    h'.phaseStart.trans h.phaseStart, h'.lineNumber.trans h.lineNumber⟩

instance : CoversSetup Unlogged where
  setUp _ _ _ _ _ _ _ _ := ⟨rfl, rfl, rfl, rfl, rfl, rfl⟩

theorem unlogged_dress (host : Host) (s : Script) : Keeps Unlogged (dress host) s :=
  keeps_dress (fun _ => ⟨rfl, rfl, rfl, rfl, rfl, rfl⟩) (fun _ _ => ⟨rfl, rfl, rfl, rfl, rfl, rfl⟩)
    (fun _ _ => ⟨rfl, rfl, rfl, rfl, rfl, rfl⟩) host s

theorem unlogged_startTimer (s : Script) : Keeps Unlogged startTimer s := by
  rw [Keeps, eval_startTimer]
  split
  · exact Lasting.refl s
  split
  · exact ⟨rfl, rfl, rfl, rfl, rfl, rfl⟩
  · exact Lasting.refl s

/-- The first line of a script finds an empty transcript. -/
theorem stands_opening {host : Host} {plan : Plan} {platform : Platform} {file name root : String} {scene : Scene}
    {s₁ s : Script} {text : String} (hquiet : plan.verbose = false)
    (hsetup : eval (setUp host) (opening plan platform file name root scene) = (.ok text, s₁))
    (htimer : eval startTimer s₁ = (.ok (), s)) :
    Unlogged (opening plan platform file name root scene) s ∧ Stands [] .opening s := by
  have h₁ := keeps_setUp (unlogged_dress host) (opening plan platform file name root scene)
  have h₂ := unlogged_startTimer s₁
  rw [Keeps, hsetup] at h₁
  rw [Keeps, htimer] at h₂
  have h := Lasting.trans h₁ h₂
  refine ⟨h, ?_⟩
  constructor
  case quiet => exact h.plan ▸ hquiet
  case whole => exact h.log ▸ Transcript.whole_empty
  case text => exact h.log ▸ rfl
  case mark => exact h.mark
  case phaseStart => exact h.phaseStart
  case alone => exact fun _ => rfl
  case body => exact fun v hv => absurd hv List.not_mem_nil

/-! ## After the last line -/

theorem background_dismiss (s : Script) : (dismiss.run s).2.background = [] := rfl

/-- A line that failed is the last that was met. -/
theorem getLast?_visits {p : Performer} {lines : List String} {s : Script} {v : Visit} {f : Fault}
    (hv : v ∈ visits p lines s) (hf : v.result = .error f) : (visits p lines s).getLast? = some v := by
  induction lines generalizing s with
  | nil => exact absurd hv List.not_mem_nil
  | cons line rest ih =>
    rw [visits] at hv ⊢
    rcases hrun : eval (performLine p line) s with ⟨result, t⟩
    rw [hrun] at hv
    cases hgoes : goesOn (result, t) with
    | false =>
      simp only [hgoes, Bool.false_eq_true, if_false, List.mem_singleton] at hv ⊢
      rw [hv, List.getLast?_singleton]
    | true =>
      simp only [hgoes, if_true, List.mem_cons] at hv ⊢
      rcases hv with rfl | hv
      · cases result_of_goesOn hgoes
        cases hf
      · rw [List.getLast?_cons, ih hv]
        rfl

/-- Lines of which none failed came to their end. -/
theorem result_of_visits {p : Performer} {lines : List String} {s : Script}
    (h : ∀ v ∈ visits p lines s, v.result = .ok ()) : (eval (performLines p lines) s).1 = .ok () := by
  rw [eval_performLines]
  split
  next => rfl
  next v hlast => exact h v (List.mem_of_getLast? hlast)

/-- A line that failed ends the lines. -/
theorem result_of_visit_error {p : Performer} {lines : List String} {s : Script} {v : Visit} {f : Fault}
    (hv : v ∈ visits p lines s) (hf : v.result = .error f) : (eval (performLines p lines) s).1 = .error f := by
  rw [eval_performLines, getLast?_visits hv hf]
  exact hf

/-- Where lines came to their end, the transcript is cut back to the last header, which gets its time, and the script
passes unless it was stopped. -/
theorem Stands.finished {front : List Char} {current : Phase} {s : Script} (h : Stands front current s) :
    s.finished.log.text = front ++ current.timed s.finished.scene.clock ++
      (if s.finished.stopped then [] else s!"{Status.pass.label}\n".toList) := by
  have hlogs : Logs s (dismiss.run s).2 := covers_dismiss s
  obtain ⟨hwhole, htext⟩ := h.rewind_markTime hlogs
  have hclock : (dismiss.run s).2.rewind.markTime.scene = (dismiss.run s).2.scene := by rw [markTime_eq, rewind_eq]
  rw [Script.finished]
  generalize (dismiss.run s).2.rewind.markTime = t at hwhole htext hclock ⊢
  cases hstopped : t.stopped with
  | true =>
    rw [if_pos rfl, hstopped, if_pos rfl, List.append_nil, hclock]
    exact htext
  | false =>
    have hwritten : (t.write s!"{Status.pass.label}\n").log.text = t.log.text ++ s!"{Status.pass.label}\n".toList := by
      rw [Script.write, hwhole.write]
    have hsame : (t.write s!"{Status.pass.label}\n").stopped = false := hstopped
    rw [if_neg Bool.false_ne_true, hsame, if_neg Bool.false_ne_true, hwritten, htext, ← hclock]
    rfl

/-- Settling a transcript does not stop a script. -/
theorem stopped_finished {s : Script} (h : s.background = []) : s.finished.stopped = s.stopped := by
  obtain ⟨log, hfinished⟩ := finished_of_nil h
  rw [hfinished]

/-- A script whose lines came to their end is left alone when it is taken down. -/
theorem abandoned_finished {s : Script} :
    s.finished.abandoned.markTime.log = s.finished.log ∧ s.finished.abandoned.markTime.scene = s.finished.scene := by
  have hsettled : s.finished.background = [] ∧ s.finished.phaseStart = none := by
    rw [Script.finished, markTime_eq, rewind_eq]
    split <;> exact ⟨background_dismiss s, rfl⟩
  have habandoned := abandoned_of_nil hsettled.1
  have hmark : s.finished.abandoned.markTime = s.finished.abandoned := by
    have hstart : s.finished.abandoned.phaseStart = none := habandoned ▸ hsettled.2
    rw [markTime, hstart]
  rw [hmark, habandoned]
  exact ⟨rfl, rfl⟩

/-- Taking a script down logs what the programs beside it have written, and nothing else. -/
theorem logs_abandoned (s : Script) : Logs s s.abandoned := by
  have hsettled : Logs s { s.withoutTimer with deferred := [] } := .of_log_eq rfl rfl rfl rfl rfl rfl
  rw [abandoned]
  dsimp only
  split
  · exact hsettled
  · exact Lasting.trans hsettled (covers_dismiss (R := Logs) _)

section Performed

variable {host : Host} {s₀ s₁ s t : Script} {text : String}

/-- What a performance leaves where nothing is shown, recorded or left to do. -/
theorem run_perform_of_ok (hquiet : s.plan.verbose = false) (hwork : s.plan.testWork = false)
    (hsetup : eval (setUp host) s₀ = (.ok text, s₁)) (htimer : eval startTimer s₁ = (.ok (), s))
    (htext : eval (performText host text) s = (.ok (), t)) (hupdates : t.updates = []) (hdeferred : t.deferred = []) :
    ((perform host).run s₀).2 = t.abandoned.markTime := by
  have hall := eval_performAll hsetup htimer (eval_showVariables hquiet hwork)
  rw [htext, eval_storeUpdates_of_nil hupdates] at hall
  have hexecute : (execute host).run s₀ = (.ok .pass, t) := by rw [run_execute, hall]
  rw [run_perform hexecute (run_takeDown hdeferred)]

/-- What a performance leaves where a line has failed. -/
theorem run_perform_of_failure (hquiet : s.plan.verbose = false) (hwork : s.plan.testWork = false)
    (hsetup : eval (setUp host) s₀ = (.ok text, s₁)) (htimer : eval startTimer s₁ = (.ok (), s)) {f : Fault}
    (htext : eval (performText host text) s = (.error f, t)) (hf : f.isFailure) (hupdates : t.updates = [])
    (hdeferred : t.deferred = []) :
    ((perform host).run s₀).2 = (t.writeFailure s!":{t.lineNumber}" f.message).abandoned.markTime := by
  have hall := eval_performAll hsetup htimer (eval_showVariables hquiet hwork)
  rw [htext, eval_storeUpdates_of_nil hupdates] at hall
  rw [run_perform (run_execute_of_failure hall hf) (run_takeDown hdeferred)]

end Performed

/-- A failure is written behind all that was logged, and what programs beside the script log when they are stopped
behind that. -/
theorem Stands.failed {front : List Char} {current : Phase} {s : Script} (h : Stands front current s)
    (place message : String) :
    let failed := s.writeFailure place message
    failed.abandoned.markTime.log.text = front ++ current.timed failed.abandoned.markTime.scene.clock ++
      current.logged ++ s!"{Status.fail.label}: {s.file}{place}: {message}\n".toList ++ failed.logged failed.abandoned := by
  intro failed
  have hwrite : Logs s failed := Covers.change (.write s _)
  have habandoned := failed.logs_abandoned
  have hfailure : s.logged failed = s!"{Status.fail.label}: {s.file}{place}: {message}\n".toList := by
    have hlog : failed.log = s.log.write s!"{Status.fail.label}: {s.file}{place}: {message}\n" := rfl
    rw [logged, hlog, h.whole.write, List.drop_left]
  obtain ⟨-, htext⟩ := h.markTime (Lasting.trans hwrite habandoned)
  have hclock : failed.abandoned.markTime.scene = failed.abandoned.scene := by rw [markTime_eq]
  rw [htext, hclock, hwrite.logged_trans habandoned h.whole, hfailure]
  simp only [List.append_assoc]

/-- **What a transcript comes to.** Where the lines of a script come to their end, it holds the headers of the phases,
each with its time if there was a command in it or it is the last, and the mark of a script that passed, unless it was
stopped. Where a line fails, it holds the phases before in the same form, the header of the last one with its time, all
that was logged since, the failure, and what programs beside the script logged when they were stopped. -/
theorem perform_collapses {host : Host} (hhost : host.KeepsTo Logs) {plan : Plan} (hquiet : plan.verbose = false)
    (hwork : plan.testWork = false) {platform : Platform} {file name root : String} {scene : Scene} {s₁ s : Script}
    {text : String} (hsetup : eval (setUp host) (opening plan platform file name root scene) = (.ok text, s₁))
    (htimer : eval startTimer s₁ = (.ok (), s))
    (hupdates : (eval (performText host text) s).2.updates = [])
    (hdeferred : (eval (performText host text) s).2.deferred = []) :
    let met := visits (performer host) (Line.split text) s
    let (ended, last) := phases .opening met
    let t := (eval (performText host text) s).2
    let final := ((perform host).run (opening plan platform file name root scene)).2
    ((∀ v ∈ met, v.result = .ok ()) →
      final.log.text = settled ended ++ last.timed final.scene.clock ++
        (if t.stopped then [] else s!"{Status.pass.label}\n".toList)) ∧
    ∀ v ∈ met, ∀ f, v.result = .error f → f.isFailure →
      let failed := t.writeFailure s!":{met.length}" f.message
      final.log.text = settled ended ++ last.timed final.scene.clock ++ last.logged ++
        s!"{Status.fail.label}: {file}:{met.length}: {f.message}\n".toList ++ failed.logged failed.abandoned := by
  obtain ⟨hunlogged, hbegin⟩ := stands_opening hquiet hsetup htimer
  have hp := performer_keepsTo hhost
  have hstands := hbegin.performLines hp (Line.split text)
  obtain ⟨hnumber, -, hfile⟩ := counts_performLines hp (Line.split text) s
  have htext := eval_performText host text s
  have hquiet' : s.plan.verbose = false := hunlogged.plan ▸ hquiet
  have hwork' : s.plan.testWork = false := hunlogged.plan ▸ hwork
  intro met
  have hended : (∀ v ∈ met, v.result = .ok ()) → _ := fun hok => result_of_visits hok
  have hfailed : ∀ v ∈ met, ∀ f, v.result = .error f → _ := fun v hv f hf => result_of_visit_error hv hf
  rcases hdivided : phases .opening met with ⟨ended, last⟩
  rcases hlines : eval (performLines (performer host) (Line.split text)) s with ⟨result, u⟩
  simp only [hlines, show visits (performer host) (Line.split text) s = met from rfl, hdivided, List.nil_append]
    at hstands hnumber hfile hended hfailed htext
  dsimp only
  refine ⟨fun hok => ?_, fun v hv f hf hfailure => ?_⟩
  · cases hended hok
    rw [htext] at hupdates hdeferred ⊢
    rw [run_perform_of_ok hquiet' hwork' hsetup htimer htext hupdates hdeferred, (abandoned_finished (s := u)).1,
      (abandoned_finished (s := u)).2]
    exact hstands.finished
  · cases hfailed v hv f hf
    rw [htext] at hupdates hdeferred ⊢
    dsimp only at hupdates hdeferred ⊢
    have hplace : u.lineNumber = met.length := by
      rw [hnumber, hunlogged.lineNumber]
      exact Nat.zero_add _
    have hname : u.file = file := hfile.trans hunlogged.file
    rw [run_perform_of_failure hquiet' hwork' hsetup htimer htext hfailure hupdates hdeferred, hplace, ← hname]
    have hlog := hstands.failed s!":{met.length}" f.message
    simp only [toString, String.append_assoc] at hlog ⊢
    exact hlog

/-- A script that is no more than a header. -/
def headerText : Bytes := Bytes.ascii "# a\n"

/-- What is found of it. -/
def headerFront : Front := ⟨sampleDisk headerText, headerText, ⟨headerText, []⟩, "# a\n"⟩

/-- The script when it is set up. -/
def headerScript : Script := ((sample .usual headerText).begun headerFront none).retabled

theorem begins_header : (sample .usual headerText).Begins headerFront none "# a\n" := by
  have hread : Frontmatter.read "# a\n" = ⟨[], .ok (none, "# a\n")⟩ := by cbv
  exact ⟨finds_sample ((Archive.parse_eq_ofLines _).trans (by cbv)) (by cbv), congrArg Frontmatter.Read.result hread, rfl⟩

theorem setUp_header : eval (setUp (.bare false)) (sample .usual headerText) = (.ok "# a\n", headerScript) := by
  rw [eval_setUp rfl begins_header, show headerFront.archive.files = [] from rfl, eval_extractAll_nil]
  rfl

theorem headerScript_eq :
    headerScript.plan = .usual ∧ headerScript.settings = none ∧ headerScript.updates = [] ∧ headerScript.deferred = [] ∧
      headerScript.background = [] ∧ headerScript.stopped = false :=
  ⟨rfl, rfl, rfl, rfl, rfl, rfl⟩

theorem startTimer_header : eval startTimer headerScript = (.ok (), headerScript) := by
  obtain ⟨hplan, hsettings, -⟩ := headerScript_eq
  exact eval_startTimer_of_none (by rw [hsettings]; rfl) (by rw [hplan]; rfl)

/-- Its lines are the header and an empty line. -/
theorem visits_header {p : Performer} {s : Script} (hplan : s.plan.phasePrefix = "#" ∧ s.plan.commentPrefix = "~")
    (hstopped : s.stopped = false) :
    ∃ t u, visits p (Line.split "# a\n") s = [⟨"# a", s, .ok (), t⟩, ⟨"", t, .ok (), u⟩] ∧
      t.plan = s.plan ∧ u.stopped = false ∧ u.background = s.background := by
  have hopened : ∀ t : Script, t = s.counted.openPhase "# a" →
      t.plan = s.plan ∧ t.stopped = false ∧ t.background = s.background := by
    rintro _ rfl
    rw [openPhase, closePhase_eq]
    exact ⟨rfl, hstopped, rfl⟩
  have hfirst : eval (performLine p "# a") s = (.ok (), s.counted.openPhase "# a") := by
    rw [eval_performLine, hplan.1, if_pos (by cbv)]
  generalize s.counted.openPhase "# a" = t at hopened hfirst
  obtain ⟨htplan, htstopped, htbackground⟩ := hopened t rfl
  have hsecond : eval (performLine p "") t = (.ok (), { t.counted with line := "" }) := by
    have hwords : ∀ expand, Words.split expand "" = .ok [] := fun _ => by cbv
    rw [eval_performLine, htplan, hplan.1, hplan.2, if_neg (Bool.eq_false_iff.mp (by cbv)),
      if_neg (Bool.eq_false_iff.mp (by cbv)), performCommand, Step.eval_bind, eval_parse, hwords]
    rfl
  have hgoes : goesOn (.ok (), t) = true := by
    rw [goesOn, htstopped]
    rfl
  refine ⟨t, { t.counted with line := "" }, ?_, htplan, htstopped, htbackground⟩
  rw [show Line.split "# a\n" = ["# a", ""] by cbv, visits, hfirst]
  simp only [hgoes, if_true, visits, hsecond, ite_self]

theorem perform_collapses_header :
    ∃ span, ((perform (.bare false)).run (sample .usual headerText)).2.log.text =
      "# a".toList ++ (phaseTime span).toList ++ "PASS\n".toList := by
  obtain ⟨hplan, -, hupdates, hdeferred, hbackground, hstopped⟩ := headerScript_eq
  have hmarks : headerScript.plan.phasePrefix = "#" ∧ headerScript.plan.commentPrefix = "~" := by
    rw [hplan]
    exact ⟨rfl, rfl⟩
  obtain ⟨t, u, hvisits, htplan, hustopped, hubackground⟩ := visits_header (p := performer (.bare false)) hmarks hstopped
  have hkeeps := keeps_performText (Host.bare_keepsTo Anchored false) "# a\n" headerScript
  have hlaw := perform_collapses (Host.bare_keepsTo Logs false) rfl rfl setUp_header startTimer_header
    ((hkeeps.updates (by rw [hplan]; rfl)).trans hupdates) (hkeeps.deferred.trans hdeferred)
  have hheader : (⟨"# a", headerScript, .ok (), t⟩ : Visit).isHeader = true := by
    change "# a".startsWith headerScript.plan.phasePrefix = true
    rw [hmarks.1]
    cbv
  have hempty : (⟨"", t, .ok (), u⟩ : Visit).isHeader = false := by
    change "".startsWith t.plan.phasePrefix = false
    rw [htplan, hmarks.1]
    cbv
  have hpassed : (eval (performText (.bare false) "# a\n") headerScript).2.stopped = false := by
    rw [eval_performText, eval_performLines, hvisits]
    exact (stopped_finished (hubackground.trans hbackground)).trans hustopped
  rw [hvisits] at hlaw
  simp only [phases, hheader, hempty, if_true, Bool.false_eq_true, if_false, hpassed] at hlaw
  exact ⟨_, hlaw.1 (by simp)⟩

end Rehearsal.Script
