import Rehearsal.Proofs.Script.Body
import Rehearsal.Proofs.Script.Phases
import Rehearsal.Proofs.Script.Run

/-!
# What the course of a performance keeps

Around its lines a script is timed, its variables are shown, and its transcript is settled. This touches nothing but what
says how far the performance has come. A relation that `CoversCourse` does not look at that, so what commands keep to it is
kept to by the text of a script as a whole (`keeps_performText`) and by what stands in front of it.
-/

namespace Rehearsal.Script

open Step (eval Keeps Lasting)

/-- A relation that does not look at how far a performance has come. -/
class CoversCourse (R : Script → Script → Prop) : Prop extends Covers R where
  course : ∀ (s : Script) log mark phaseStart line lineNumber cancelAt,
    R s { s with log, mark, phaseStart, line, lineNumber, cancelAt }

variable {R : Script → Script → Prop} [CoversCourse R]

theorem covers_closePhase (s : Script) : R s s.closePhase := by
  rw [closePhase_eq]
  exact CoversCourse.course s _ _ _ _ _ _

theorem covers_markTime (s : Script) : R s s.rewind.markTime := by
  rw [markTime_eq, rewind_eq]
  exact CoversCourse.course s _ _ _ _ _ _

instance : CoversLines R where
  line s line := CoversCourse.course s _ _ _ line _ _
  count s := CoversCourse.course s _ _ _ _ (s.lineNumber + 1) _
  openPhase s header := by
    refine Lasting.trans (covers_closePhase s) ?_
    rw [Script.openPhase]
    exact CoversCourse.course s.closePhase _ _ _ _ _ _

/-! ## In front of the lines -/

theorem keeps_startTimer (s : Script) : Keeps R startTimer s := by
  rw [Keeps, eval_startTimer]
  split
  · exact Lasting.refl s
  split
  · exact CoversCourse.course s _ _ _ _ _ _
  · exact Lasting.refl s

theorem keeps_showVariables {host : Host} (hhost : host.KeepsTo R) (s : Script) : Keeps R (showVariables host) s := by
  refine Step.keeps_get_bind ?_
  split
  · refine Step.keeps_bind (Command.keeps_dispatch hhost _ _ s) fun _ t _ => Step.keeps_modify ?_
    exact Lasting.trans (Covers.change (.write t "\n")) (CoversCourse.course _ _ _ _ _ _ _)
  · exact Step.keeps_pure _ s

/-! ## Behind them -/

theorem run_collect (given : Program.Stop) (s : Script) :
    (collect given).run s =
      let r := (s.background.foldlM (collectOne given) ⟨"", "", false, []⟩).run s
      (r.1, { r.2 with background := [], stdout := r.1.stdout, stderr := r.1.stderr }) := rfl

/-- Where no program runs beside a script, there is none to wait for. -/
theorem dismiss_of_nil {s : Script} (h : s.background = []) :
    (dismiss.run s).2 = { s with background := [], stdout := "", stderr := "" } := by
  rw [dismiss, Step.run_bind, StateT.run_get]
  simp only [pure]
  generalize s.stopPolicy.stopAt s.scene.clock = given
  rw [Step.run_bind, run_collect, h]
  rfl

/-- A script that nothing runs beside is finished by settling its transcript. -/
theorem finished_of_nil {s : Script} (h : s.background = []) :
    ∃ log, s.finished = { s with log, phaseStart := none, stdout := "", stderr := "" } := by
  have hsettled : ∃ log, (dismiss.run s).2.rewind.markTime = { s with log, phaseStart := none, stdout := "", stderr := "" } := by
    refine ⟨(dismiss.run s).2.rewind.markTime.log, ?_⟩
    rw [markTime_eq, rewind_eq, dismiss_of_nil h, ← h]
  obtain ⟨log, hlog⟩ := hsettled
  rw [finished, hlog]
  split
  · exact ⟨log, rfl⟩
  · exact ⟨_, rfl⟩

theorem covers_finished (s : Script) : R s s.finished := by
  have hsettled : R s (dismiss.run s).2.rewind.markTime := Lasting.trans (covers_dismiss s) (covers_markTime _)
  rw [finished]
  generalize (dismiss.run s).2.rewind.markTime = t at hsettled
  split
  · exact hsettled
  · exact Lasting.trans hsettled (Covers.change (.write t _))

/-- A script that nothing runs beside is abandoned as it is. -/
theorem abandoned_of_nil {s : Script} (h : s.background = []) : s.abandoned = { s.withoutTimer with deferred := [] } := by
  rw [abandoned]
  exact if_pos (List.isEmpty_iff.mpr h)

/-- A script that is over is abandoned by stopping what runs beside it. -/
theorem covers_abandoned (hdeferred : ∀ s : Script, R s { s with deferred := [] }) (s : Script) : R s s.abandoned := by
  have hcourse : R s s.withoutTimer := CoversCourse.course s _ _ _ _ _ _
  have hleft : R s { s.withoutTimer with deferred := [] } := Lasting.trans hcourse (hdeferred s.withoutTimer)
  rw [abandoned]
  dsimp only
  split
  · exact hleft
  · exact Lasting.trans hleft (covers_dismiss _)

/-- **The text of a script keeps what its commands keep.** -/
theorem keeps_performText {host : Host} (hhost : host.KeepsTo R) (text : String) (s : Script) :
    Keeps R (performText host text) s := by
  have hlines := keeps_performLines (performer_keepsTo hhost) (Line.split text) s
  rw [Keeps] at hlines ⊢
  rw [eval_performText]
  rcases hrun : eval (performLines (performer host) (Line.split text)) s with ⟨f | u, t⟩
  all_goals rw [hrun] at hlines
  · exact hlines
  · exact Lasting.trans hlines (covers_finished t)

end Rehearsal.Script
