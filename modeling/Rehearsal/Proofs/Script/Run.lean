import Rehearsal.Proofs.Step
import Rehearsal.Script.Performance

/-!
# The course of a performance

One equation for each part of a performance: how it ends and what it leaves, given how its parts end.
-/

namespace Rehearsal.Script

open Step (eval)

theorem eval_startTimer (s : Script) :
    eval startTimer s =
      match s.limit? with
      | none => (.ok (), s)
      | some limit =>
        match cancelTime s.scene.clock limit with
        | .ok cancelAt => (.ok (), { s with cancelAt })
        | .error a => (.error (.accident a), s) := by
  rw [startTimer, Step.eval_get_bind]
  cases s.limit? with
  | none => rfl
  | some limit =>
    dsimp only
    cases cancelTime s.scene.clock limit <;> rfl

/-- A script that is given no time is not timed. -/
theorem eval_startTimer_of_none {s : Script} (hown : s.settings.bind (·.timeout) = none) (hplan : s.plan.timeout = none) :
    eval startTimer s = (.ok (), s) := by
  rw [eval_startTimer, limit?, hown, hplan]

/-- Nothing is shown at the top of a transcript unless it is asked for. -/
theorem eval_showVariables {host : Host} {s : Script} (hquiet : s.plan.verbose = false)
    (hwork : s.plan.testWork = false) : eval (showVariables host) s = (.ok (), s) := by
  rw [showVariables, Step.eval_get_bind, hquiet, hwork]
  rfl

/-- Nothing is stored where nothing was recorded. -/
theorem eval_storeUpdates_of_nil {s : Script} (h : s.updates = []) : eval storeUpdates s = (.ok (), s) := by
  rw [storeUpdates, Step.eval_get_bind, h]
  rfl

/-- Settles the transcript of a script whose lines came to their end. -/
def finished (s : Script) : Script :=
  let t := (dismiss.run s).2.rewind.markTime
  if t.stopped then t else t.write s!"{Status.pass.label}\n"

/-- The text of a script ends as its lines end. Where they came to their end, the transcript is settled. -/
theorem eval_performText (host : Host) (text : String) (s : Script) :
    eval (performText host text) s =
      match eval (performLines (performer host) (Line.split text)) s with
      | (.ok (), t) => (.ok (), t.finished)
      | (.error f, t) => (.error f, t) := by
  rw [performText, Step.eval_bind]
  rcases eval (performLines (performer host) (Line.split text)) s with ⟨f | u, t⟩ <;> rfl

/-- What a script that was set up comes to before it is taken down. -/
theorem eval_performAll {host : Host} {s₀ s₁ s₂ s : Script} {text : String}
    (hsetup : eval (setUp host) s₀ = (.ok text, s₁)) (htimer : eval startTimer s₁ = (.ok (), s₂))
    (hshow : eval (showVariables host) s₂ = (.ok (), s)) :
    eval (performAll host) s₀ =
      match eval storeUpdates (eval (performText host text) s).2 with
      | (.ok (), t) => ((eval (performText host text) s).1, t)
      | (.error f, t) => (.error f, t) := by
  rw [performAll, Step.eval_bind_of_ok hsetup, Step.eval_bind_of_ok htimer, Step.eval_bind_of_ok hshow,
    Step.eval_bind, eval_attempt]
  simp only [Step.eval_bind]
  rcases eval (performText host text) s with ⟨f | u, t⟩
  all_goals rcases eval storeUpdates t with ⟨_ | _, t⟩ <;> rfl

/-- How a performance is judged before it is taken down. -/
theorem run_execute (host : Host) (s : Script) :
    (execute host).run s =
      match eval (performAll host) s with
      | (.ok (), t) => (.ok .pass, t)
      | (.error (.skip reason), t) => (.ok .skip, t.writeSkip reason)
      | (.error f, t) =>
        if f.isFailure then (.ok .fail, t.writeFailure s!":{t.lineNumber}" f.message) else (.error f, t) := by
  rw [execute, StateT.run_bind]
  rcases h : eval (performAll host) s with ⟨f | u, t⟩
  all_goals
    have hrun : StateT.run (performAll host).run s = _ := h
    rw [hrun]
  · cases f <;> rfl
  · rfl

/-- A script that has noted something that was left to do, and may have written a line of it. -/
def noted (note : String) (line : Option String) (s : Script) : Script :=
  let t := { s with scene := { s.scene with notes := s.scene.notes ++ [note] } }
  match line with
  | some text => t.logLine text
  | none => t

/-- What was left to do is done one by one, until something fails. -/
theorem run_runDeferred_cons (note : String) (line : Option String) (more : List Deferred) (fault : Option Fault)
    (rest : List Deferred) (s : Script) :
    (runDeferred (.mk note line more fault :: rest)).run s =
      match fault with
      | some f => (some f, s.noted note line)
      | none =>
        match (runDeferred more).run (s.noted note line) with
        | (some f, t) => (some f, t)
        | (none, t) => (runDeferred rest).run t := by
  cases fault with
  | some f =>
    rw [runDeferred]
    cases line <;> rfl
  | none =>
    rw [runDeferred]
    cases line
    all_goals
      simp only [StateT.run_bind, StateT.run_modify, pure_bind, noted]
    · rcases (runDeferred more).run _ with ⟨_ | f, t⟩ <;> rfl
    · rcases (runDeferred more).run _ with ⟨_ | f, t⟩ <;> rfl

/-- A failure is written with the number of the line that was performed last. -/
theorem run_execute_of_failure {host : Host} {s t : Script} {f : Fault}
    (hall : eval (performAll host) s = (.error f, t)) (hf : f.isFailure) :
    (execute host).run s = (.ok .fail, t.writeFailure s!":{t.lineNumber}" f.message) := by
  rw [run_execute, hall]
  cases f <;> first | rfl | cases hf

/-- Stops the programs beside a script that is over, if there are any. -/
def abandoned (s : Script) : Script :=
  let t := { s.withoutTimer with deferred := [] }
  if t.background.isEmpty then t else (dismiss.run t).2

/-- A script for which nothing was left to do is taken down by stopping what runs beside it and timing its last phase. -/
theorem run_takeDown {s : Script} (h : s.deferred = []) : takeDown.run s = (.ok false, s.abandoned.markTime) := by
  rw [takeDown, abandoned]
  simp only [StateT.run_bind, StateT.run_get, StateT.run_modify, StateT.run_pure, pure_bind, h, runDeferred]
  cases s.withoutTimer.background.isEmpty <;> rfl

/-- What is known of a performance when its script was taken down. A fault from there comes before any other. -/
def concluded (down : Except Fault Bool) (ended : Except Fault Status) (s : Script) : Except Fault Outcome :=
  match down, ended with
  | .error f, _ | _, .error f => .error f
  | .ok failed, .ok status => .ok ⟨s.name, s.file, if failed then .fail else status, s.abbreviate s.log.toString⟩

/-- A script is performed, judged, and taken down. -/
theorem run_perform {host : Host} {s t u : Script} {ended : Except Fault Status} {down : Except Fault Bool}
    (hexecute : (execute host).run s = (ended, t)) (hdown : takeDown.run t = (down, u)) :
    (perform host).run s = (concluded down ended u, u) := by
  rw [perform, Step.run_bind, Step.run_bind, hexecute, hdown]
  cases down <;> cases ended <;> rfl

/-- A script for which nothing was left to do comes to an outcome, unless it ended in a fault that is neither a failure nor
a skip. Such a fault leaves the script. -/
theorem perform_error_iff {host : Host} {s t : Script} {result : Except Fault Unit} {f : Fault}
    (hall : eval (performAll host) s = (result, t)) (hdeferred : t.deferred = []) :
    ((perform host).run s).1 = .error f ↔
      result = .error f ∧ f.isFailure = false ∧ ∀ reason, f ≠ .skip reason := by
  cases result with
  | ok u =>
    have hends : (execute host).run s = (.ok .pass, t) := by rw [run_execute, hall]
    rw [run_perform hends (run_takeDown hdeferred)]
    exact iff_of_false (fun h => (nomatch h)) (fun h => (nomatch h.1))
  | error g =>
    by_cases hskip : ∃ reason, g = .skip reason
    · obtain ⟨reason, rfl⟩ := hskip
      have hends : (execute host).run s = (.ok .skip, t.writeSkip reason) := by rw [run_execute, hall]
      have hnone : (t.writeSkip reason).deferred = [] := by simp only [writeSkip, logLine, write, hdeferred]
      rw [run_perform hends (run_takeDown hnone)]
      refine iff_of_false (fun h => (nomatch h)) ?_
      rintro ⟨h, -, hnot⟩
      cases h
      exact hnot reason rfl
    have hends : (execute host).run s =
        if g.isFailure then (.ok .fail, t.writeFailure s!":{t.lineNumber}" g.message) else (.error g, t) := by
      rw [run_execute, hall]
      cases g <;> first | rfl | exact absurd ⟨_, rfl⟩ hskip
    cases hfailure : g.isFailure with
    | true =>
      rw [hfailure, if_pos rfl] at hends
      have hnone : (t.writeFailure s!":{t.lineNumber}" g.message).deferred = [] := by
        simp only [writeFailure, write, hdeferred]
      rw [run_perform hends (run_takeDown hnone)]
      refine iff_of_false (fun h => (nomatch h)) ?_
      rintro ⟨h, hnot, -⟩
      cases h
      rw [hfailure] at hnot
      cases hnot
    | false =>
      rw [hfailure, if_neg Bool.false_ne_true] at hends
      rw [run_perform hends (run_takeDown hdeferred)]
      constructor
      · intro h
        cases h
        exact ⟨rfl, hfailure, fun reason h => hskip ⟨reason, h⟩⟩
      · rintro ⟨h, -⟩
        cases h
        rfl

end Rehearsal.Script
