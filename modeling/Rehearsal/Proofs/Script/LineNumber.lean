import Rehearsal.Proofs.Archive.Comment
import Rehearsal.Proofs.Frontmatter
import Rehearsal.Proofs.Script.Collapse

/-!
# The numbers of failed lines

A script that fails at a line tells its number. `failure_names_line` says that this is the number of the line in the
file: what is counted are the lines behind the settings, which have the numbers they had in front of them
(`Frontmatter.lines_of_read`), and those are the numbers of the file (`Archive.line_of_comment`).

The number is found in the transcript in the end because nothing is cut off in front of the mark and nothing is lost
behind it (`Marked.exists_markTime`), whatever is done after the failure.
-/

namespace Rehearsal.Script

open Step (eval Keeps Lasting)

/-! ## What is behind the mark stays -/

/-- A transcript with no gap at its end and with its mark in it. -/
structure Marked (s : Script) : Prop where
  whole : s.log.Whole
  mark : s.mark ≤ s.log.text.length

theorem Marked.of_logs {s t : Script} (h : s.Marked) (hlogs : Logs s t) : t.Marked := by
  have hlog := hlogs.text_eq h.whole
  constructor
  · rw [hlog]
    rfl
  · rw [hlogs.mark, hlog, List.length_append]
    exact Nat.le_add_right_of_le h.mark

theorem length_phaseTime (span : Time) : 0 < (phaseTime span).toList.length := by
  rw [List.length_pos_iff, Ne, String.toList_eq_nil_iff, phaseTime]
  simp only [String.append_eq_empty_iff, not_and]
  exact fun h => absurd h.1 (by decide)

/-- What stands behind the mark stands there still when the time of a phase is written. -/
theorem exists_markTime {s : Script} {front behind : List Char} (hwhole : s.log.Whole)
    (htext : s.log.text = front ++ behind) (hmark : s.mark ≤ front.length) :
    s.markTime.log.Whole ∧ ∃ front', s.markTime.log.text = front' ++ behind ∧ s.mark ≤ front'.length := by
  cases hstart : s.phaseStart with
  | none =>
    have hsame : s.markTime = s := by rw [markTime, hstart]
    rw [hsame]
    exact ⟨hwhole, front, htext, hmark⟩
  | some start =>
    by_cases hpos : 0 < s.mark
    · let time := phaseTime (s.scene.clock - start)
      let cut := s.log.truncate (s.mark - 1)
      have hlog : s.markTime.log = (cut.write time).write (String.ofList (s.log.text.drop s.mark)) := by
        simp only [markTime, hstart, if_pos hpos]
        rfl
      have hcutText : cut.text = front.take (s.mark - 1) := by
        show s.log.text.take (s.mark - 1) = _
        rw [htext, List.take_append_of_le_length (by omega)]
      have hcut : cut.Whole := by
        rw [Transcript.Whole, hcutText, List.length_take]
        show s.mark - 1 = _
        omega
      have hbelow : s.log.text.drop s.mark = front.drop s.mark ++ behind := by
        rw [htext, List.drop_append_of_le_length hmark]
      rw [hlog, hbelow]
      refine ⟨Transcript.whole_write (Transcript.whole_write hcut _) _,
        front.take (s.mark - 1) ++ time.toList ++ front.drop s.mark, ?_, ?_⟩
      · rw [(Transcript.whole_write hcut _).write, hcut.write, hcutText, String.toList_ofList]
        simp only [List.append_assoc]
      · have htime : 0 < time.toList.length := length_phaseTime _
        simp only [List.length_append, List.length_take, List.length_drop]
        omega
    · have hlog : s.markTime.log = s.log := by simp only [markTime, hstart, if_neg hpos]
      rw [hlog]
      exact ⟨hwhole, front, htext, hmark⟩

theorem Marked.rewind {s : Script} (h : s.Marked) : s.rewind.Marked := by
  unfold Script.rewind
  split
  next => exact h
  next =>
    have hlength : (s.log.text.take s.mark).length = s.mark := List.length_take_of_le h.mark
    exact ⟨hlength.symm, hlength.ge⟩

theorem Marked.markTime {s : Script} (h : s.Marked) : s.markTime.Marked := by
  obtain ⟨hwhole, front, htext, hmark⟩ := exists_markTime h.whole (List.append_nil _).symm h.mark
  refine ⟨hwhole, ?_⟩
  rw [htext, List.append_nil, markTime_eq]
  exact hmark

theorem Marked.openPhase {s : Script} (h : s.Marked) (header : String) : (s.openPhase header).Marked := by
  have hclosed : s.closePhase.Marked := by
    unfold closePhase
    split
    next => exact h.rewind.markTime
    next => exact h
  have hwritten := Transcript.whole_write hclosed.whole (header ++ "\n")
  exact ⟨hwritten, hwritten.le⟩

/-- A script whose transcript stays marked. -/
def StaysMarked (s t : Script) : Prop := s.Marked → t.Marked

instance : CoversLines StaysMarked where
  refl _ h := h
  trans h h' hs := h' (h hs)
  change h hs := hs.of_logs (Covers.change h)
  line _ _ h := ⟨h.whole, h.mark⟩
  count _ h := ⟨h.whole, h.mark⟩
  openPhase _ header h := h.openPhase header

/-- Who only logs keeps a transcript marked. -/
theorem Performer.KeepsTo.staysMarked {p : Performer} (hp : p.KeepsTo Logs) : p.KeepsTo StaysMarked :=
  ⟨fun condition s hs => hs.of_logs (hp.ask condition s), fun m words s hs => hs.of_logs (hp.carryOut m words s)⟩

/-! ## The lines that are met -/

/-- The lines that are met are the first ones. -/
theorem visits_front (p : Performer) (lines : List String) (s : Script) : (visits p lines s).map (·.line) <+: lines := by
  induction lines generalizing s with
  | nil => exact List.prefix_rfl
  | cons line rest ih =>
    rw [visits, List.map_cons, List.prefix_cons_inj]
    split
    next => exact ih _
    next => exact List.nil_prefix

/-- A line that is met is performed. -/
theorem eval_of_mem_visits {p : Performer} {lines : List String} {s : Script} {v : Visit} (h : v ∈ visits p lines s) :
    eval (performLine p v.line) v.before = (v.result, v.after) := by
  induction lines generalizing s with
  | nil => cases h
  | cons line rest ih =>
    rw [visits, List.mem_cons] at h
    rcases h with rfl | h
    · rfl
    · split at h
      · exact ih h
      · cases h

/-- An empty line does not fail, whatever headers and comments begin with. -/
theorem result_performLine_empty (p : Performer) (s : Script) : (eval (performLine p "") s).1 = .ok () := by
  have hwords : Words.split s.counted.expand "" = .ok [] := by cbv
  rw [eval_performLine]
  split
  · rfl
  split
  · rfl
  · rw [performCommand, Step.eval_bind, eval_parse, hwords]
    rfl

/-- A line that failed is the last of the lines met, and it is not empty. -/
theorem line_of_visit_error {p : Performer} {lines : List String} {s : Script} {v : Visit} {f : Fault}
    (hv : v ∈ visits p lines s) (hf : v.result = .error f) :
    lines[(visits p lines s).length - 1]? = some v.line ∧ v.line ≠ "" := by
  constructor
  · have hlast := getLast?_visits hv hf
    rw [List.getLast?_eq_getElem?] at hlast
    have hmap : ((visits p lines s).map (·.line))[(visits p lines s).length - 1]? = some v.line := by
      rw [List.getElem?_map, hlast]
      rfl
    obtain ⟨hlt, hget⟩ := List.getElem?_eq_some_iff.mp hmap
    rw [← hget]
    exact List.prefix_iff_getElem?.mp (visits_front p lines s) _ hlt
  · intro hempty
    have hrun := congrArg Prod.fst (eval_of_mem_visits hv)
    rw [hempty, result_performLine_empty, hf] at hrun
    cases hrun

/-! ## What stands around them -/

/-- Variables that are shown are settled in the transcript. -/
theorem logs_showVariables {host : Host} (hhost : host.KeepsTo Logs) {s t : Script}
    (h : eval (showVariables host) s = (.ok (), t)) : ∃ u, Logs s u ∧ (t = u ∨ t = u.setMark) := by
  rw [showVariables, Step.eval_get_bind] at h
  split at h
  next =>
    have hlogs := Command.keeps_dispatch hhost .plain ["env"] s
    rw [Keeps] at hlogs
    rw [Step.eval_bind] at h
    rcases hrun : eval (Command.dispatch host .plain ["env"]) s with ⟨f | x, u⟩
    · rw [hrun] at h
      cases h
    · rw [hrun] at h hlogs
      cases h
      exact ⟨u.write "\n", Lasting.trans hlogs (Covers.change (.write u "\n")), .inr rfl⟩
  next =>
    cases h
    exact ⟨s, Lasting.refl s, .inl rfl⟩

/-- Where nothing was performed yet, the transcript is marked and no line is counted. -/
theorem marked_showVariables {host : Host} (hhost : host.KeepsTo Logs) {s t : Script} (hs : s.Marked)
    (h : eval (showVariables host) s = (.ok (), t)) : t.Marked ∧ t.file = s.file ∧ t.lineNumber = s.lineNumber := by
  obtain ⟨u, hlogs, rfl | rfl⟩ := logs_showVariables hhost h
  · exact ⟨hs.of_logs hlogs, hlogs.file, hlogs.lineNumber⟩
  · have hu := hs.of_logs hlogs
    exact ⟨⟨hu.whole, hu.whole.le⟩, hlogs.file, hlogs.lineNumber⟩

theorem logs_noted (note : String) (line : Option String) (s : Script) : Logs s (s.noted note line) := by
  have hnote : Logs s { s with scene := { s.scene with notes := s.scene.notes ++ [note] } } :=
    .of_log_eq rfl rfl rfl rfl rfl rfl
  cases line with
  | none => exact hnote
  | some text => exact Lasting.trans hnote (covers_logLine _ text)

/-- What is done when a script is over logs. -/
theorem logs_runDeferred (todo : List Deferred) (s : Script) : Logs s ((runDeferred todo).run s).2 := by
  induction todo using runDeferred.induct generalizing s with
  | case1 =>
    rw [runDeferred]
    exact Lasting.refl s
  | case2 note line more fault rest ih =>
    rw [run_runDeferred_cons]
    have hnoted := logs_noted note line s
    cases fault with
    | some f => exact hnoted
    | none =>
      have hmore := ih.1 (s.noted note line)
      rcases hrun : (runDeferred more).run (s.noted note line) with ⟨_ | f, t⟩
      · rw [hrun] at hmore
        exact Lasting.trans hnoted (Lasting.trans hmore (ih.2 t))
      · rw [hrun] at hmore
        exact Lasting.trans hnoted hmore

theorem logs_judgeDeferred (f : Fault) (s : Script) : Logs s ((judgeDeferred f).run s).2 := by
  unfold judgeDeferred
  split
  next => exact Covers.change (.write s _)
  next =>
    split
    next => exact Covers.change (.write s _)
    next => exact Lasting.refl s

/-- What runs beside a script is stopped before the time of its last phase is written. -/
theorem run_stopping {α : Type} (result : α) (s : Script) :
    ∃ t, Logs s t ∧ ((do
      unless (← get).background.isEmpty do dismiss
      modify (·.markTime)
      return result : StateM Script α).run s).2 = t.markTime := by
  cases hbackground : s.background with
  | nil =>
    refine ⟨s, Lasting.refl s, ?_⟩
    rw [StateT.run_bind, StateT.run_get, pure_bind, hbackground]
    rfl
  | cons b rest =>
    refine ⟨(dismiss.run s).2, covers_dismiss s, ?_⟩
    rw [StateT.run_bind, StateT.run_get, pure_bind, hbackground]
    rfl

/-- Taking a script down logs, and then writes the time of the last phase. -/
theorem logs_takeDown (s : Script) : ∃ t, Logs s t ∧ (takeDown.run s).2 = t.markTime := by
  have hbegin : Logs s { s.withoutTimer with deferred := [] } := .of_log_eq rfl rfl rfl rfl rfl rfl
  have hdone := Lasting.trans hbegin (logs_runDeferred s.deferred _)
  rw [takeDown]
  simp only [StateT.run_bind, StateT.run_get, StateT.run_modify, pure_bind]
  rcases hrun : (runDeferred s.deferred).run { s.withoutTimer with deferred := [] } with ⟨_ | f, t⟩
  all_goals rw [hrun] at hdone
  · obtain ⟨u, hlogs, hmark⟩ := run_stopping (Except.ok (ε := Fault) false) t
    exact ⟨u, Lasting.trans hdone hlogs, hmark⟩
  · have hjudged := Lasting.trans hdone (logs_judgeDeferred f t)
    obtain ⟨u, hlogs, hmark⟩ := run_stopping ((judgeDeferred f).run t).1 ((judgeDeferred f).run t).2
    exact ⟨u, Lasting.trans hjudged hlogs, hmark⟩

/-- A failure that is written stays in the transcript when the script is taken down. -/
theorem Marked.log_takeDown {s : Script} (h : s.Marked) (place message : String) :
    ∃ before after, (takeDown.run (s.writeFailure place message)).2.log.text =
      before ++ s!"{Status.fail.label}: {s.file}{place}: {message}\n".toList ++ after := by
  let line := s!"{Status.fail.label}: {s.file}{place}: {message}\n"
  obtain ⟨t, hlogs, ht⟩ := logs_takeDown (s.writeFailure place message)
  have hfailed : (s.writeFailure place message).log.text = s.log.text ++ line.toList := by
    show (s.log.write line).text = _
    rw [h.whole.write]
  have hwhole : (s.writeFailure place message).log.Whole := Transcript.whole_write h.whole line
  have hlog := hlogs.text_eq hwhole
  rw [hfailed, List.append_assoc] at hlog
  have hmark : t.mark ≤ s.log.text.length := hlogs.mark ▸ h.mark
  have htwhole : t.log.Whole := by
    rw [hlog]
    rfl
  obtain ⟨-, before, hbefore, -⟩ := exists_markTime htwhole (congrArg Transcript.text hlog) hmark
  refine ⟨before, (s.writeFailure place message).logged t, ?_⟩
  rw [ht, hbefore, List.append_assoc]

/-! ## The number in the file -/

/-- A line behind the settings that is not empty has the same number in the file. -/
theorem line_of_body {front : Front} {settings : Option Frontmatter} {body line : String} {i : Nat}
    (harchive : Archive.parse front.data = .ok front.archive) (htext : Utf8.decode front.archive.comment = .ok front.text)
    (hgood : (Frontmatter.read front.text).result = .ok (settings, body)) (hline : (Line.split body)[i]? = some line)
    (hne : line ≠ "") : (front.data.splitOn Bytes.newline)[i]? = some (Utf8.encode line) := by
  obtain ⟨n, hn, hlines, -⟩ := Frontmatter.lines_of_read hgood
  apply Archive.line_of_comment harchive htext _ hne
  rw [hlines] at hline
  by_cases hi : i < n
  · rw [List.getElem?_append_left (by rwa [List.length_replicate]), List.getElem?_replicate, if_pos hi] at hline
    exact absurd (Option.some.inj hline).symm hne
  · rw [List.getElem?_append_right (by rw [List.length_replicate]; omega), List.length_replicate, List.getElem?_drop] at hline
    rwa [Nat.add_sub_cancel' (by omega)] at hline

/-- How a script ends whose lines have failed: with that failure, unless golden files cannot be stored. -/
theorem eval_performAll_of_error {host : Host} {s₀ s₁ s₂ s t : Script} {text : String} {f : Fault}
    (hsetup : eval (setUp host) s₀ = (.ok text, s₁)) (htimer : eval startTimer s₁ = (.ok (), s₂))
    (hshow : eval (showVariables host) s₂ = (.ok (), s)) (htext : eval (performText host text) s = (.error f, t)) :
    ∃ g, eval (performAll host) s₀ = (.error g, (eval storeUpdates t).2) ∧
      ((eval storeUpdates t).1 = .ok () → g = f) := by
  have hall := eval_performAll hsetup htimer hshow
  rw [htext] at hall
  rcases hstore : eval storeUpdates t with ⟨e | u, u⟩
  · rw [hstore] at hall
    exact ⟨e, hall, fun h => nomatch h⟩
  · rw [hstore] at hall
    exact ⟨f, hall, fun _ => rfl⟩

/-- **A failed line is told by its number in the file.** -/
theorem failure_names_line {plan : Plan} {platform : Platform} {file name root : String} {scene : Scene} {front : Front}
    {settings : Option Frontmatter} {body : String}
    (hfinds : (opening plan platform file name root scene).Finds front)
    (hgood : (Frontmatter.read front.text).result = .ok (settings, body)) :
    (∃ n ≤ (Line.split front.text).length,
      Line.split body = List.replicate n "" ++ (Line.split front.text).drop n ∧
        (Frontmatter.split front.text = none → n = 0)) ∧
    ∀ {host : Host} {s₁ s₂ s : Script} {text : String}, host.KeepsTo Logs →
      eval (setUp host) (opening plan platform file name root scene) = (.ok text, s₁) →
      eval startTimer s₁ = (.ok (), s₂) → eval (showVariables host) s₂ = (.ok (), s) →
      text = body ∧
      ∀ v ∈ visits (performer host) (Line.split body) s, ∀ f, v.result = .error f → f.isFailure →
        ∃ k, 0 < k ∧ (front.data.splitOn Bytes.newline)[k - 1]? = some (Utf8.encode v.line) ∧
        ∃ g, (eval (performAll host) (opening plan platform file name root scene)).1 = .error g ∧
          ((eval storeUpdates v.after).1 = .ok () → g = f) ∧
          (g.isFailure →
            ((execute host).run (opening plan platform file name root scene)).1 = .ok .fail ∧
            ∃ before after,
              ((perform host).run (opening plan platform file name root scene)).2.log.text =
                before ++ s!"{Status.fail.label}: {file}:{k}: {g.message}\n".toList ++ after) := by
  refine ⟨Frontmatter.lines_of_read hgood, ?_⟩
  intro host s₁ s₂ s text hhost hsetup htimer hshow
  obtain rfl := body_of_setUp hfinds hgood hsetup
  refine ⟨rfl, ?_⟩
  intro v hv f hf hfailure
  let met := visits (performer host) (Line.split text) s
  obtain ⟨hline, hne⟩ := line_of_visit_error hv hf
  have hpos : 0 < met.length := List.length_pos_of_mem hv
  refine ⟨met.length, hpos, line_of_body hfinds.archive hfinds.text hgood hline hne, ?_⟩
  -- What the transcript is when the line has failed.
  have hp := performer_keepsTo hhost
  have hbegin : Unlogged (opening plan platform file name root scene) s₂ := by
    have h₁ := keeps_setUp (unlogged_dress host) (opening plan platform file name root scene)
    have h₂ := unlogged_startTimer s₁
    rw [Keeps, hsetup] at h₁
    rw [Keeps, htimer] at h₂
    exact Lasting.trans h₁ h₂
  have hempty : s₂.Marked := ⟨hbegin.log ▸ Transcript.whole_empty, by rw [hbegin.mark]; exact Nat.zero_le _⟩
  obtain ⟨hmarked, hfile, hnumber⟩ := marked_showVariables hhost hempty hshow
  have hlines : eval (performLines (performer host) (Line.split text)) s = (.error f, v.after) := by
    rw [eval_performLines, getLast?_visits hv hf]
    exact congrArg (·, v.after) hf
  have htext : eval (performText host text) s = (.error f, v.after) := by rw [eval_performText, hlines]
  have hafter : v.after.Marked := by
    have hkeeps := keeps_performLines hp.staysMarked (Line.split text) s
    rw [Keeps, hlines] at hkeeps
    exact hkeeps hmarked
  obtain ⟨hcount, -, hname⟩ := counts_performLines hp (Line.split text) s
  rw [hlines] at hcount hname
  -- Storing golden files only adds to it.
  have hstored : Logs v.after (eval storeUpdates v.after).2 := keeps_storeUpdates v.after
  obtain ⟨g, hall, hsame⟩ := eval_performAll_of_error hsetup htimer hshow htext
  refine ⟨g, congrArg Prod.fst hall, hsame, fun hg => ?_⟩
  generalize (eval storeUpdates v.after).2 = t at hstored hall
  have ht := hafter.of_logs hstored
  have hplace : t.lineNumber = met.length := by
    rw [hstored.lineNumber, hcount, hnumber, hbegin.lineNumber]
    exact Nat.zero_add _
  have hnamed : t.file = file := by
    rw [hstored.file, hname, hfile, hbegin.file]
    rfl
  have hended := run_execute_of_failure hall hg
  refine ⟨congrArg Prod.fst hended, ?_⟩
  obtain ⟨before, after, hlog⟩ := ht.log_takeDown s!":{t.lineNumber}" g.message
  refine ⟨before, after, ?_⟩
  rcases hdown : takeDown.run (t.writeFailure s!":{t.lineNumber}" g.message) with ⟨down, u⟩
  rw [hdown, hplace, hnamed] at hlog
  rw [run_perform hended hdown, hlog]
  simp only [toString, String.append_assoc]

/-- A script whose settings say nothing and whose first line opens quotes that are never closed. -/
def unclosedText : Bytes := Bytes.ascii "---\n---\n'\n"

/-- What is found of it. -/
def unclosedFront : Front := ⟨sampleDisk unclosedText, unclosedText, ⟨unclosedText, []⟩, "---\n---\n'\n"⟩

/-- The script when it is set up. -/
def unclosedScript : Script := ((sample .usual unclosedText).begun unclosedFront none).retabled

theorem unclosed_reads :
    (sample .usual unclosedText).Finds unclosedFront ∧
      (Frontmatter.read unclosedFront.text).result = .ok (none, "\n\n'\n") := by
  have hread : Frontmatter.read "---\n---\n'\n" = ⟨[], .ok (none, "\n\n'\n")⟩ := by cbv
  exact ⟨finds_sample ((Archive.parse_eq_ofLines _).trans (by cbv)) (by cbv), congrArg Frontmatter.Read.result hread⟩

theorem setUp_unclosed : eval (setUp (.bare false)) (sample .usual unclosedText) = (.ok "\n\n'\n", unclosedScript) := by
  have hbegins : (sample .usual unclosedText).Begins unclosedFront none "\n\n'\n" :=
    ⟨unclosed_reads.1, unclosed_reads.2, rfl⟩
  rw [eval_setUp rfl hbegins, show unclosedFront.archive.files = [] from rfl, eval_extractAll_nil]
  rfl

theorem unclosedScript_eq :
    unclosedScript.plan = .usual ∧ unclosedScript.settings = none ∧ unclosedScript.updates = [] ∧
      unclosedScript.stopped = false :=
  ⟨rfl, rfl, rfl, rfl⟩

/-- Lines behind one that goes well are met too. -/
theorem mem_visits_cons {p : Performer} {line : String} {rest : List String} {s t : Script} {v : Visit}
    (h : eval (performLine p line) s = (.ok (), t)) (ht : t.stopped = false) (hv : v ∈ visits p rest t) :
    v ∈ visits p (line :: rest) s := by
  have hgoes : goesOn (.ok (), t) = true := by
    rw [goesOn, ht]
    rfl
  rw [visits, h, hgoes, if_pos rfl]
  exact List.mem_cons_of_mem _ hv

/-- The two empty lines are met, and then the one that fails. -/
theorem visits_unclosed {p : Performer} {s : Script} (hmarks : s.plan.phasePrefix = "#" ∧ s.plan.commentPrefix = "~")
    (hstopped : s.stopped = false) :
    ∃ v ∈ visits p (Line.split "\n\n'\n") s, v.line = "'" ∧ v.result = .error (.words .unterminated) ∧
      v.after.updates = s.updates := by
  have hempty : ∀ expand, Words.split expand "" = .ok [] := fun _ => by cbv
  have hquote : ∀ expand, Words.split expand "'" = .error .unterminated := fun _ => by cbv
  have hfirst := eval_performLine_of_words (p := p) hmarks (by cbv) (by cbv) (hempty _) fun _ h => (Except.ok.inj h).symm
  have hsecond := eval_performLine_of_words (p := p) (s := s.atLine "") hmarks (by cbv) (by cbv) (hempty _)
    fun _ h => (Except.ok.inj h).symm
  have hthird := eval_performLine_of_words (p := p) (s := (s.atLine "").atLine "") hmarks (by cbv) (by cbv) (hquote _)
    fun _ h => by cases h
  have hsplit : Line.split "\n\n'\n" = ["", "", "'", ""] := by cbv
  rw [hsplit]
  refine ⟨⟨"'", (s.atLine "").atLine "", .error (.words .unterminated), ((s.atLine "").atLine "").atLine "'"⟩, ?_, rfl, rfl, ?_⟩
  case refine_2 => rw [updates_atLine, updates_atLine, updates_atLine]
  apply mem_visits_cons hfirst hstopped
  apply mem_visits_cons hsecond hstopped
  rw [visits, hthird]
  exact List.mem_cons_self

theorem failure_names_line_unclosed :
    ∃ before after, ((perform (.bare false)).run (sample .usual unclosedText)).2.log.text =
      before ++ "FAIL: a:3: unterminated quoted argument\n".toList ++ after := by
  obtain ⟨hplan, hsettings, hupdates, hstopped⟩ := unclosedScript_eq
  have htimer : eval startTimer unclosedScript = (.ok (), unclosedScript) :=
    eval_startTimer_of_none (by rw [hsettings]; rfl) (by rw [hplan]; rfl)
  obtain ⟨v, hv, hline, hresult, hsame⟩ := visits_unclosed (p := performer (.bare false)) (by rw [hplan]; exact ⟨rfl, rfl⟩) hstopped
  obtain ⟨k, hpos, hnumber, g, -, hfault, hwritten⟩ :=
    ((failure_names_line unclosed_reads.1 unclosed_reads.2).2 (Host.bare_keepsTo Logs false) setUp_unclosed htimer
      (eval_showVariables (by rw [hplan]; rfl) (by rw [hplan]; rfl))).2 v hv _ hresult rfl
  obtain rfl := hfault (by rw [eval_storeUpdates_of_nil (hsame.trans hupdates)])
  -- Only the third line of the file is a quote.
  have hk : k = 3 := by
    have hlines : unclosedFront.data.splitOn Bytes.newline = [[45, 45, 45], [45, 45, 45], [39], []] := by decide
    rw [hlines, hline] at hnumber
    obtain ⟨hlt, hget⟩ := List.getElem?_eq_some_iff.mp hnumber
    have hcode : Utf8.encode "'" = [39] := by cbv
    have hbound : k < 5 := by
      simp only [List.length_cons, List.length_nil] at hlt
      omega
    rw [hcode] at hget
    interval_cases k <;> simp_all
  obtain ⟨-, before, after, hlog⟩ := hwritten rfl
  subst hk
  exact ⟨before, after, hlog⟩

end Rehearsal.Script
