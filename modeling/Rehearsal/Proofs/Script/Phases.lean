import Rehearsal.Proofs.Script.Body
import Rehearsal.Proofs.Script.Log

/-!
# The phases of a transcript

While the lines of a script are performed, its transcript stands as `Stands` says: the phases that are over, each under
its header with what is kept of it, then the header of the current phase, then all that was logged since. Opening a phase
settles the one before it (`Stands.openPhase`), and any other line only appends (`Stands.logs`).
-/

namespace Rehearsal.Script

open Step (eval Keeps Lasting)

/-! ## Lines and phases -/

/-- A line that was met: the script before and after it, and how it ended. -/
structure Visit where
  line : String
  before : Script
  result : Except Fault Unit
  after : Script

/-- Whether lines behind one that has ended are met too. -/
def goesOn (ended : Except Fault Unit × Script) : Bool :=
  match ended.1 with
  | .ok () => !ended.2.stopped
  | .error _ => false

/-- The lines that are met from a state of a script, up to one that fails or stops it. -/
def visits (p : Performer) : List String → Script → List Visit
  | [], _ => []
  | line :: rest, s =>
    let ended := eval (performLine p line) s
    ⟨line, s, ended.1, ended.2⟩ :: if goesOn ended then visits p rest ended.2 else []

/-- Whether a line has arguments, once variables are replaced. -/
def hasArguments (s : Script) (line : String) : Bool :=
  match Words.split s.expand line with
  | .ok (_ :: _) => true
  | _ => false

namespace Visit

/-- Whether the line begins a phase. -/
def isHeader (v : Visit) : Bool := v.line.startsWith v.before.plan.phasePrefix

/-- Whether the line is a comment. -/
def isComment (v : Visit) : Bool := v.line.startsWith v.before.plan.commentPrefix

/-- Whether the line is a command, with guards or without. -/
def isCommand (v : Visit) : Bool := !v.isHeader && !v.isComment && v.before.hasArguments v.line

/-- What was logged while the line was performed. -/
def logged (v : Visit) : List Char := v.before.logged v.after

end Visit

/-- A phase: its header and when it began, unless it is what stands before the first header, and the lines in it. -/
structure Phase where
  header : Option (String × Time)
  body : List Visit

namespace Phase

/-- What stands before the first header. -/
def opening : Phase := ⟨none, []⟩

/-- The header of a phase as a line. -/
def headline (p : Phase) : List Char :=
  match p.header with
  | none => []
  | some (line, _) => line.toList ++ ['\n']

/-- The header of a phase with the time it took up to now. -/
def timed (p : Phase) (now : Time) : List Char :=
  match p.header with
  | none => []
  | some (line, start) => line.toList ++ (phaseTime (now - start)).toList

/-- What is kept of a phase that is over: its header, with the time it took if there was a command in it. -/
def settled (p : Phase) (now : Time) : List Char := if p.body.any (·.isCommand) then p.timed now else p.headline

/-- All that was logged in a phase. -/
def logged (p : Phase) : List Char := p.body.flatMap (·.logged)

end Phase

/-- The phases of lines that were met after a phase began: those that ended, with when they did, and the last one. -/
def phases (current : Phase) : List Visit → List (Phase × Time) × Phase
  | [] => ([], current)
  | v :: vs =>
    if v.isHeader then
      let now := v.before.scene.clock
      let (ended, last) := phases ⟨some (v.line, now), []⟩ vs
      ((current, now) :: ended, last)
    else phases { current with body := current.body ++ [v] } vs

/-- What is kept of phases that are over. -/
def settled (ended : List (Phase × Time)) : List Char := ended.flatMap fun (p, now) => p.settled now

/-! ## Settling a phase -/

theorem rewind_eq (s : Script) : s.rewind = { s with log := s.rewind.log } := by
  rw [rewind]
  split <;> rfl

theorem markTime_eq (s : Script) : s.markTime = { s with log := s.markTime.log, phaseStart := none } := by
  rw [markTime]
  split
  next => split <;> rfl
  next h => rw [← h]

theorem closePhase_eq (s : Script) :
    s.closePhase = { s with log := s.closePhase.log, phaseStart := s.closePhase.phaseStart } := by
  rw [closePhase]
  split
  · rw [markTime_eq, rewind_eq]
  · rfl

/-- The time of a phase is written between its header and the newline. What is logged below stays. -/
theorem log_markTime {s : Script} {front below : List Char} {p : Phase} (hwhole : s.log.Whole)
    (htext : s.log.text = front ++ p.headline ++ below) (hmark : s.mark = (front ++ p.headline).length)
    (hstart : s.phaseStart = p.header.map (·.2)) :
    s.markTime.log.Whole ∧ s.markTime.log.text = front ++ p.timed s.scene.clock ++ below := by
  obtain ⟨header, body⟩ := p
  cases header with
  | none =>
    have hsame : s.markTime = s := by rw [markTime, hstart]; rfl
    rw [hsame]
    exact ⟨hwhole, htext⟩
  | some header =>
    obtain ⟨line, start⟩ := header
    simp only [Phase.headline] at htext hmark
    have hmark' : s.mark = (front ++ line.toList).length + 1 := by
      rw [hmark]
      simp only [List.length_append, List.length_singleton]
      omega
    have hbelow : s.log.text.drop s.mark = below := by rw [hmark, htext, List.drop_left]
    have hcut : s.log.truncate (s.mark - 1) = ⟨front ++ line.toList, (front ++ line.toList).length⟩ := by
      have hfront : s.log.text = (front ++ line.toList) ++ ('\n' :: below) := by rw [htext]; simp
      rw [hmark', Nat.add_sub_cancel, Transcript.truncate, hfront, List.take_left]
    have hfront : Transcript.Whole ⟨front ++ line.toList, (front ++ line.toList).length⟩ := rfl
    rw [markTime, hstart]
    simp only [Option.map_some, show 0 < s.mark by omega, if_true, hbelow, hcut]
    refine ⟨Transcript.whole_write (Transcript.whole_write hfront _) _, ?_⟩
    rw [(Transcript.whole_write hfront _).write, hfront.write, Phase.timed]
    simp

/-- What is logged in a phase is dropped. -/
theorem log_rewind {s : Script} {front below : List Char} {position : Nat} (hquiet : s.plan.verbose = false)
    (hlog : s.log = ⟨front ++ below, position⟩) (hmark : s.mark = front.length) :
    s.rewind.log = ⟨front, front.length⟩ := by
  rw [rewind, hquiet, if_neg Bool.false_ne_true, hlog, hmark]
  exact Transcript.truncate_append front below position

/-! ## How a transcript stands -/

/-- How the transcript of a script stands in a phase: in front what is kept of the phases before, then the header, which
the mark is behind, then all that was logged since. The header has no time yet. -/
structure Stands (front : List Char) (current : Phase) (s : Script) : Prop where
  quiet : s.plan.verbose = false
  whole : s.log.Whole
  text : s.log.text = front ++ current.headline ++ current.logged
  mark : s.mark = (front ++ current.headline).length
  phaseStart : s.phaseStart = current.header.map (·.2)
  alone : current.header = none → front = []
  body : ∀ v ∈ current.body, v.logged = [] ↔ v.isCommand = false

variable {front : List Char} {current : Phase} {s t : Script}

/-- Nothing was logged in a phase exactly if no command was in it. -/
theorem Stands.logged_eq_nil_iff (h : Stands front current s) :
    current.logged = [] ↔ current.body.any (·.isCommand) = false := by
  rw [Phase.logged, List.flatMap_eq_nil_iff, List.any_eq_false]
  exact forall₂_congr fun v hv => by rw [h.body v hv, Bool.not_eq_true]

/-- How the transcript stands when more was logged. -/
theorem Stands.log_eq (h : Stands front current s) (hlogs : Logs s t) :
    t.log.Whole ∧ t.log.text = front ++ current.headline ++ (current.logged ++ s.logged t) := by
  rw [hlogs.text_eq h.whole, h.text, List.append_assoc]
  exact ⟨rfl, rfl⟩

/-- Behind a header the time of its phase is written, and what was logged since stays. -/
theorem Stands.markTime (h : Stands front current s) (hlogs : Logs s t) :
    t.markTime.log.Whole ∧
      t.markTime.log.text = front ++ current.timed t.scene.clock ++ (current.logged ++ s.logged t) :=
  have hlog := h.log_eq hlogs
  log_markTime hlog.1 hlog.2 (hlogs.mark.trans h.mark) (hlogs.phaseStart.trans h.phaseStart)

/-- A transcript cut back to its mark, with the time put behind the header. -/
theorem Stands.rewind_markTime (h : Stands front current s) (hlogs : Logs s t) :
    t.rewind.markTime.log.Whole ∧ t.rewind.markTime.log.text = front ++ current.timed t.scene.clock := by
  have hlog : t.log = ⟨t.log.text, t.log.position⟩ := rfl
  rw [(h.log_eq hlogs).2] at hlog
  have hrewind := log_rewind (hlogs.plan ▸ h.quiet) hlog (hlogs.mark.trans h.mark)
  have hmark : t.rewind.mark = (front ++ current.headline).length := by rw [rewind_eq, hlogs.mark, h.mark]
  have hstart : t.rewind.phaseStart = current.header.map (·.2) := by rw [rewind_eq, hlogs.phaseStart, h.phaseStart]
  have hclock : t.rewind.scene.clock = t.scene.clock := by rw [rewind_eq]
  have hwhole : t.rewind.log.Whole := by rw [hrewind]; rfl
  have htext : t.rewind.log.text = front ++ current.headline ++ [] := by rw [hrewind, List.append_nil]
  have hmarked := log_markTime hwhole htext hmark hstart
  rwa [hclock, List.append_nil] at hmarked

/-- A phase that is over is settled. -/
theorem Stands.closePhase (h : Stands front current s) :
    s.closePhase.log.Whole ∧ s.closePhase.log.text = front ++ current.settled s.scene.clock := by
  have hlength : s.log.length = s.mark + current.logged.length := by
    rw [Transcript.length, h.whole, h.text, h.mark, List.length_append]
  rw [Script.closePhase, hlength, Phase.settled]
  cases hany : current.body.any (·.isCommand) with
  | false =>
    have hnil := h.logged_eq_nil_iff.mpr hany
    rw [hnil, List.length_nil, Nat.add_zero, if_neg (Nat.lt_irrefl _), if_neg Bool.false_ne_true]
    refine ⟨h.whole, ?_⟩
    rw [h.text, hnil, List.append_nil]
  | true =>
    have hne : current.logged ≠ [] := fun hnil => by
      rw [h.logged_eq_nil_iff.mp hnil] at hany
      cases hany
    have hpos := List.length_pos_iff.mpr hne
    rw [if_pos (by omega), if_pos rfl]
    exact h.rewind_markTime (Lasting.refl s)

/-- A header settles the phase before it and begins one of its own. -/
theorem Stands.openPhase (h : Stands front current s) (line : String) :
    Stands (front ++ current.settled s.scene.clock) ⟨some (line, s.scene.clock), []⟩ (s.openPhase line) := by
  obtain ⟨hwhole, htext⟩ := h.closePhase
  have hlog : (s.openPhase line).log = s.closePhase.log.write (line ++ "\n") := rfl
  have hheadline : (⟨some (line, s.scene.clock), []⟩ : Phase).headline = line.toList ++ ['\n'] := rfl
  have hwritten : (s.openPhase line).log.text = front ++ current.settled s.scene.clock ++ (line.toList ++ ['\n']) := by
    rw [hlog, hwhole.write, htext, String.toList_append]
    rfl
  have hopened := hlog ▸ Transcript.whole_write hwhole (line ++ "\n")
  constructor
  case quiet =>
    change s.closePhase.plan.verbose = false
    rw [closePhase_eq]
    exact h.quiet
  case whole => exact hopened
  case text =>
    rw [hwritten, hheadline, Phase.logged, List.flatMap_nil, List.append_nil]
  case mark =>
    change (s.closePhase.log.write (line ++ "\n")).position = _
    rw [← hlog, hopened, hwritten, hheadline]
  case phaseStart =>
    change some s.closePhase.scene.clock = some s.scene.clock
    rw [closePhase_eq]
  case alone => exact fun hnone => (nomatch hnone)
  case body => exact fun v hv => absurd hv List.not_mem_nil

/-- A script that has come to its next line. -/
def counted (s : Script) : Script := { s with lineNumber := s.lineNumber + 1 }

/-- Any other line only appends to the transcript. -/
theorem Stands.logs {v : Visit} (h : Stands front current v.before) (hlogs : Logs v.before.counted v.after)
    (hcommand : v.logged = [] ↔ v.isCommand = false) :
    Stands front { current with body := current.body ++ [v] } v.after := by
  have hlog : v.after.log = ⟨v.before.log.text ++ v.logged, (v.before.log.text ++ v.logged).length⟩ :=
    hlogs.text_eq h.whole
  have hlogged : ({ current with body := current.body ++ [v] } : Phase).logged = current.logged ++ v.logged := by
    simp only [Phase.logged, List.flatMap_append, List.flatMap_singleton]
  constructor
  case quiet => exact hlogs.plan ▸ h.quiet
  case whole =>
    rw [hlog]
    rfl
  case text =>
    rw [hlog, h.text, hlogged]
    simp only [List.append_assoc]
    rfl
  case mark => exact hlogs.mark.trans h.mark
  case phaseStart => exact hlogs.phaseStart.trans h.phaseStart
  case alone => exact h.alone
  case body =>
    intro w hw
    rcases List.mem_append.mp hw with hw | hw
    · exact h.body w hw
    · rwa [List.mem_singleton.mp hw]

/-! ## Performing lines -/

variable {p : Performer}

theorem eval_parse (line : String) (s : Script) :
    eval (parse line) s =
      match Words.split s.expand line with
      | .ok args => (.ok args, { s with line })
      | .error e => (.error (.words e), { s with line }) := by
  have hexpand : ({ s with line } : Script).expand = s.expand := rfl
  rw [parse, Step.eval_modify_bind, Step.eval_get_bind, hexpand]
  cases Words.split s.expand line <;> rfl

/-- A line with arguments is written to the transcript before anything else is, and a line without them writes nothing. -/
theorem logs_performCommand (hp : p.KeepsTo Logs) (line : String) (s : Script) :
    Logs s (eval (performCommand p line) s).2 ∧
      ∃ text, (eval (performCommand p line) s).2.log = s.log.write text ∧ (text = "" ↔ s.hasArguments line = false) := by
  have hline : Logs s { s with line } := .of_log_eq rfl rfl rfl rfl rfl rfl
  rw [performCommand, hasArguments, Step.eval_bind, eval_parse]
  cases Words.split s.expand line with
  | error e => exact ⟨hline, "", rfl, by simp⟩
  | ok args =>
    cases args with
    | nil => exact ⟨hline, "", rfl, by simp⟩
    | cons word rest =>
      have hwrite : Logs { s with line } (({ s with line } : Script).write s!"> {line}\n") := Covers.change (.write _ _)
      have hguarded := keeps_guarded hp (word :: rest) (({ s with line } : Script).write s!"> {line}\n")
      refine ⟨Lasting.trans hline (Lasting.trans hwrite hguarded), ?_⟩
      obtain ⟨text, htext⟩ := hguarded.log
      refine ⟨s!"> {line}\n" ++ text, ?_, ?_⟩
      · refine htext.trans ?_
        exact Transcript.write_write _ _ _
      · have hne : s!"> {line}\n" ++ text ≠ "" := by
          simp only [ne_eq, String.append_eq_empty_iff, not_and]
          exact fun h => absurd h.1.1 (by decide)
        simp [hne]

/-- What a line does: it opens a phase, or counts itself and does what its command does. -/
theorem eval_performLine (line : String) (s : Script) :
    eval (performLine p line) s =
      if line.startsWith s.plan.phasePrefix then (.ok (), s.counted.openPhase line)
      else if line.startsWith s.plan.commentPrefix then (.ok (), s.counted)
      else eval (performCommand p line) s.counted := by
  rw [performLine, Step.eval_modify_bind, Step.eval_get_bind]
  extract_lets plan
  split
  · rfl
  split <;> rfl

/-- A script that reads its next line. -/
def atLine (line : String) (s : Script) : Script := { s.counted with line }

@[simp] theorem updates_atLine (line : String) (s : Script) : (s.atLine line).updates = s.updates := rfl

/-- What comes of a line that is no header and no comment, and is cut into no words or not at all. -/
theorem eval_performLine_of_words {s : Script} {line : String} {result : Except Words.Error (List String)}
    (hmarks : s.plan.phasePrefix = "#" ∧ s.plan.commentPrefix = "~")
    (hheader : line.startsWith "#" = false) (hcomment : line.startsWith "~" = false)
    (hwords : Words.split s.counted.expand line = result) (hresult : ∀ words, result = .ok words → words = []) :
    eval (performLine p line) s = ((result.mapError Fault.words).map fun _ => (), s.atLine line) := by
  rw [eval_performLine, hmarks.1, hmarks.2, hheader, hcomment, if_neg Bool.false_ne_true, if_neg Bool.false_ne_true,
    performCommand, Step.eval_bind, eval_parse, hwords]
  cases result with
  | error e => rfl
  | ok words =>
    cases hresult words rfl
    rfl

/-- What comes of a line that is a command without guards and modifier. -/
theorem eval_performLine_of_command {s : Script} {line word : String} {rest : List String}
    (hmarks : s.plan.phasePrefix = "#" ∧ s.plan.commentPrefix = "~")
    (hheader : line.startsWith "#" = false) (hcomment : line.startsWith "~" = false)
    (hwords : Words.split s.counted.expand line = .ok (word :: rest)) (hguard : Guard.ofWord? word = none)
    (hmodifier : Modifier.ofWord? word = none) :
    eval (performLine p line) s =
      eval (p.carryOut .plain (word :: rest)) ((s.atLine line).write s!"> {line}\n") := by
  rw [eval_performLine, hmarks.1, hmarks.2, hheader, hcomment, if_neg Bool.false_ne_true, if_neg Bool.false_ne_true,
    performCommand, Step.eval_bind, eval_parse, hwords]
  dsimp only
  rw [List.isEmpty_cons, if_neg Bool.false_ne_true, Step.eval_bind, Step.eval_modify]
  dsimp only
  rw [Step.eval_bind, Guard.select, hguard]
  simp only [Step.eval_pure, command, hmodifier, atLine]

/-- A line counts itself, and changes neither the plan nor the file of its script. -/
theorem counts_performLine (hp : p.KeepsTo Logs) (line : String) (s : Script) :
    let t := (eval (performLine p line) s).2
    t.lineNumber = s.lineNumber + 1 ∧ t.plan = s.plan ∧ t.file = s.file := by
  intro t
  have ht : t = (eval (performLine p line) s).2 := rfl
  rw [eval_performLine] at ht
  split at ht
  · rw [ht]
    change s.counted.closePhase.lineNumber = _ ∧ s.counted.closePhase.plan = _ ∧ s.counted.closePhase.file = _
    rw [closePhase_eq]
    exact ⟨rfl, rfl, rfl⟩
  split at ht
  · rw [ht]
    exact ⟨rfl, rfl, rfl⟩
  · have hlogs := (logs_performCommand hp line s.counted).1
    rw [← ht] at hlogs
    exact ⟨hlogs.lineNumber, hlogs.plan, hlogs.file⟩

/-- A header settles its script's transcript, and any other line logs what its command logs. -/
theorem Stands.visit (hp : p.KeepsTo Logs) (h : Stands front current s) {line : String} {result : Except Fault Unit}
    (hrun : eval (performLine p line) s = (result, t)) :
    let v : Visit := ⟨line, s, result, t⟩
    (v.isHeader = true → Stands (front ++ current.settled s.scene.clock) ⟨some (line, s.scene.clock), []⟩ t) ∧
      (v.isHeader = false → Stands front { current with body := current.body ++ [v] } t) := by
  intro v
  have hcounted : Stands front current s.counted := ⟨h.quiet, h.whole, h.text, h.mark, h.phaseStart, h.alone, h.body⟩
  have hafter : v.after = (eval (performLine p line) s).2 := by rw [hrun]
  rw [eval_performLine] at hafter
  refine ⟨fun hheader => ?_, fun hnot => ?_⟩
  · rw [if_pos (show line.startsWith s.plan.phasePrefix = true from hheader)] at hafter
    rw [show t = s.counted.openPhase line from hafter]
    exact hcounted.openPhase line
  · have hheader : ¬line.startsWith s.plan.phasePrefix = true := Bool.eq_false_iff.mp hnot
    rw [if_neg hheader] at hafter
    have hlogged : ∀ text, v.after.log = s.counted.log.write text → v.logged = text.toList := by
      intro text htext
      rw [Visit.logged, Script.logged, htext, hcounted.whole.write]
      exact List.drop_left
    by_cases hcomment : line.startsWith s.plan.commentPrefix = true
    · rw [if_pos hcomment] at hafter
      have hcommand : v.isCommand = false := by
        rw [Visit.isCommand, show v.isComment = true from hcomment, Bool.not_true, Bool.and_false, Bool.false_and]
      refine h.logs (v := v) (hafter ▸ Lasting.refl s.counted) (iff_of_true ?_ hcommand)
      exact hlogged "" (by rw [hafter]; rfl)
    · rw [if_neg hcomment] at hafter
      obtain ⟨hlogs, text, htext, hquiet⟩ := logs_performCommand hp line s.counted
      rw [← hafter] at hlogs htext
      have hcommand : v.isCommand = s.counted.hasArguments line := by
        rw [Visit.isCommand, hnot, show v.isComment = false from Bool.eq_false_iff.mpr hcomment]
        rfl
      refine h.logs (v := v) hlogs ?_
      rw [hlogged text htext, hcommand, ← hquiet, String.toList_eq_nil_iff]

theorem result_of_goesOn {result : Except Fault Unit} (h : goesOn (result, t) = true) : result = .ok () := by
  cases result with
  | ok => rfl
  | error => cases h

/-- Lines are performed one by one, until one fails or stops the script. -/
theorem eval_performLines_cons (p : Performer) (line : String) (rest : List String) (s : Script) :
    eval (performLines p (line :: rest)) s =
      let ended := eval (performLine p line) s
      if goesOn ended then eval (performLines p rest) ended.2 else ended := by
  rw [performLines, Step.eval_bind]
  rcases eval (performLine p line) s with ⟨f | u, t⟩
  · rfl
  · cases hstopped : t.stopped <;> simp [goesOn, hstopped]

/-- How the lines of a script end is how the last line met has ended. -/
theorem eval_performLines (p : Performer) (lines : List String) (s : Script) :
    eval (performLines p lines) s =
      match (visits p lines s).getLast? with
      | none => (.ok (), s)
      | some v => (v.result, v.after) := by
  induction lines generalizing s with
  | nil => rfl
  | cons line rest ih =>
    rw [eval_performLines_cons, visits]
    rcases eval (performLine p line) s with ⟨result, t⟩
    cases hgoes : goesOn (result, t) with
    | false =>
      simp only [hgoes, Bool.false_eq_true, if_false]
      rfl
    | true =>
      obtain rfl := result_of_goesOn hgoes
      simp only [hgoes, if_true, ih, List.getLast?_cons]
      cases (visits p rest t).getLast? <;> rfl

/-- A script counts the lines that were met. -/
theorem counts_performLines (hp : p.KeepsTo Logs) (lines : List String) (s : Script) :
    let t := (eval (Script.performLines p lines) s).2
    t.lineNumber = s.lineNumber + (visits p lines s).length ∧ t.plan = s.plan ∧ t.file = s.file := by
  induction lines generalizing s with
  | nil => exact ⟨rfl, rfl, rfl⟩
  | cons line rest ih =>
    have hcounts := counts_performLine hp line s
    rw [eval_performLines_cons, visits]
    rcases hrun : eval (performLine p line) s with ⟨result, t⟩
    rw [hrun] at hcounts
    obtain ⟨hnumber, hplan, hfile⟩ := hcounts
    cases hgoes : goesOn (result, t) with
    | false =>
      simp only [hgoes, Bool.false_eq_true, if_false, List.length_singleton]
      exact ⟨hnumber, hplan, hfile⟩
    | true =>
      obtain ⟨hnumber', hplan', hfile'⟩ := ih t
      simp only [hgoes, if_true, List.length_cons]
      exact ⟨by rw [hnumber', hnumber]; omega, hplan'.trans hplan, hfile'.trans hfile⟩

/-- **The transcript after the lines of a script**: the phases that ended are settled, and the last one stands in full. -/
theorem Stands.performLines (hp : p.KeepsTo Logs) (h : Stands front current s) (lines : List String) :
    let divided := phases current (visits p lines s)
    Stands (front ++ settled divided.1) divided.2 (eval (Script.performLines p lines) s).2 := by
  induction lines generalizing front current s with
  | nil =>
    have hnil : eval (Script.performLines p []) s = (.ok (), s) := rfl
    simpa [visits, phases, settled, hnil] using h
  | cons line rest ih =>
    rw [eval_performLines_cons, visits]
    rcases hrun : eval (performLine p line) s with ⟨result, t⟩
    obtain ⟨hopened, hlogged⟩ := h.visit hp hrun
    -- The lines behind this one go on from what stands after it.
    have hrest : ∀ {front current}, Stands front current t →
        let divided := phases current (if goesOn (result, t) then visits p rest t else [])
        Stands (front ++ settled divided.1) divided.2
          (if goesOn (result, t) then eval (Script.performLines p rest) t else (result, t)).2 := by
      intro front current ht
      cases goesOn (result, t) with
      | false => simpa [phases, settled] using ht
      | true => exact ih ht
    cases hheader : (⟨line, s, result, t⟩ : Visit).isHeader with
    | true =>
      have hlast := hrest (hopened hheader)
      simp only [List.append_assoc] at hlast
      simp only [phases, hheader, if_true]
      exact hlast
    | false =>
      simpa only [phases, hheader, Bool.false_eq_true, if_false] using hrest (hlogged hheader)

end Rehearsal.Script
