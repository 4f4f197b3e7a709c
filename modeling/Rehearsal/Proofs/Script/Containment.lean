import Rehearsal.Proofs.Script.Course
import Rehearsal.Proofs.Script.Golden
import Rehearsal.Proofs.Script.Setup

/-!
# What lines leave

However a command ends, what it leaves is no accident: the commands are judged, and so are the conditions in front of them
(`fails_performLines`). Nor does what stands around the lines of a script leave one (`fails_storeUpdates`).

Where the host arranges nothing, nothing is left to do in the end (`anchored_performAll`), and nothing is recorded unless
golden files are updated.
-/

namespace Rehearsal

open Step (eval Keeps Fails Lasting)

/-- Whether a fault is one of the script and no accident. -/
def Fault.Stays (f : Fault) : Prop := ∀ a, f ≠ .accident a

theorem Fault.stays_of_isFailure {f : Fault} (h : f.isFailure) : f.Stays := by
  rintro a rfl
  cases h

/-! ## Lines -/

theorem fails_attempt {α : Type} (P : Fault → Prop) (a : Action α) (s : Script) : Fails P (attempt a) s :=
  fun _ h => (nomatch h)

theorem Command.fails_judge (m : Modifier) (verb : String) (f : Fault) (s : Script) :
    Fails Fault.Stays (judge m verb f) s := by
  rw [judge.eq_def]
  split
  · split
    · exact Step.fails_modify _ s
    · exact Step.fails_throw (by rintro _ ⟨⟩) s
  · exact Step.fails_throw (by rintro _ ⟨⟩) s
  next hmismatch haccident => exact Step.fails_throw (fun a h => haccident a h) s

/-- However a command ends, it leaves no accident. -/
theorem Command.fails_dispatch (host : Host) (m : Modifier) (words : List String) (s : Script) :
    Fails Fault.Stays (dispatch host m words) s := by
  rw [dispatch.eq_def]
  split
  · exact Step.fails_pure _ s
  split
  · exact Step.fails_throw (by rintro _ ⟨⟩) s
  · refine Step.fails_bind (fails_attempt _ _ s) fun result t _ => ?_
    split
    · exact Step.fails_pure _ t
    · exact fails_judge m _ _ t

namespace Script

theorem fails_holds (ask : String → Action Bool) (g : Guard) (s : Script) : Fails Fault.Stays (g.holds ask) s := by
  refine Step.fails_bind (fails_attempt _ _ s) fun result t _ => ?_
  split
  · exact Step.fails_pure _ t
  · split
    next hfailure => exact Step.fails_throw (Fault.stays_of_isFailure hfailure) t
    next => exact Step.fails_throw (by rintro _ ⟨⟩) t

theorem fails_select (ask : String → Action Bool) (words : List String) (s : Script) :
    Fails Fault.Stays (Guard.select ask words) s := by
  induction words generalizing s with
  | nil => exact Step.fails_throw (by rintro _ ⟨⟩) s
  | cons word rest ih =>
    rw [Guard.select]
    split
    · exact Step.fails_pure _ s
    · extract_lets asking
      split
      · exact Step.fails_throw_bind (by rintro _ ⟨⟩) _ s
      · refine Step.fails_bind (fails_holds ask _ s) fun answer t _ => ?_
        split
        · exact ih t
        · exact Step.fails_pure _ t

theorem fails_command (host : Host) (words : List String) (s : Script) :
    Fails Fault.Stays (command (performer host) words) s := by
  rw [command.eq_def]
  split
  · exact Step.fails_pure _ s
  split
  · exact Command.fails_dispatch host _ _ s
  split
  · exact Step.fails_throw (by rintro _ ⟨⟩) s
  · exact Command.fails_dispatch host _ _ s

theorem fails_performLine (host : Host) (line : String) (s : Script) :
    Fails Fault.Stays (performLine (performer host) line) s := by
  refine Step.fails_modify_bind (Step.fails_get_bind ?_)
  extract_lets plan
  split
  · exact Step.fails_modify _ _
  split
  · exact Step.fails_pure _ _
  refine Step.fails_bind (Step.fails_modify_bind (Step.fails_get_bind ?_)) fun args t _ => ?_
  · split
    · exact Step.fails_pure _ _
    · exact Step.fails_throw (by rintro _ ⟨⟩) _
  split
  · exact Step.fails_pure _ t
  refine Step.fails_modify_bind (Step.fails_bind (fails_select _ _ _) fun words? u _ => ?_)
  split
  · exact fails_command host _ u
  · exact Step.fails_pure _ u

/-- However the lines of a script end, they leave no accident. -/
theorem fails_performLines (host : Host) (lines : List String) (s : Script) :
    Fails Fault.Stays (performLines (performer host) lines) s := by
  induction lines generalizing s with
  | nil => exact Step.fails_pure _ s
  | cons line rest ih =>
    refine Step.fails_bind (fails_performLine host line s) fun _ t _ => Step.fails_get_bind ?_
    split
    · exact Step.fails_pure _ t
    · exact ih t

/-! ## What stands around the lines -/

theorem fails_showVariables (host : Host) (s : Script) : Fails Fault.Stays (showVariables host) s := by
  refine Step.fails_get_bind ?_
  split
  · exact Step.fails_bind (Command.fails_dispatch host _ _ s) fun _ t _ => Step.fails_modify _ t
  · exact Step.fails_pure _ s

theorem fails_performText (host : Host) (text : String) (s : Script) :
    Fails Fault.Stays (performText host text) s :=
  Step.fails_bind (fails_performLines host _ s) fun _ t _ =>
    Step.fails_bind (Step.fails_liftM _ t) fun _ u _ => Step.fails_modify _ u

/-- Storing golden files leaves no accident where the script file could be read. -/
theorem fails_storeUpdates {s : Script} (hfile : '\x00' ∉ (Path.clean s.file).toList) :
    Fails Fault.Stays storeUpdates s := by
  refine Step.fails_get_bind ?_
  split
  · exact Step.fails_pure _ s
  split
  · exact Step.fails_throw (by rintro _ ⟨⟩) s
  split
  next archive _ =>
    rw [Fails, writeArchive, Step.eval_get_bind, Step.eval_bind, eval_attempt, eval_files]
    rcases hwrite : eval (Files.Access.write (Path.clean s.file) archive.render) s.scene.disk with ⟨e | u, disk⟩
    · cases e with
      | refused why path link =>
        rintro _ ⟨⟩ _ ⟨⟩
      | nullCharacter =>
        exact absurd (Files.Access.fails_write _ _ _ _ (congrArg Prod.fst hwrite) rfl) hfile
    · rintro _ ⟨⟩
  next e _ => exact Step.fails_throw (by cases e <;> rintro _ ⟨⟩) s

/-! ## What is left to do -/

/-- A script that is still that of its plan and its file, has the same left to do, and has recorded nothing new unless
golden files are updated. -/
structure Anchored (s t : Script) : Prop where
  plan : t.plan = s.plan
  file : t.file = s.file
  deferred : t.deferred = s.deferred
  updates : s.plan.updateScripts = false → t.updates = s.updates

theorem Anchored.of_eq {s t : Script} (plan : t.plan = s.plan) (file : t.file = s.file)
    (deferred : t.deferred = s.deferred) (updates : t.updates = s.updates) : Anchored s t :=
  ⟨plan, file, deferred, fun _ => updates⟩

instance : CoversCourse Anchored where
  refl _ := .of_eq rfl rfl rfl rfl
  trans h h' := ⟨h'.plan.trans h.plan, h'.file.trans h.file, h'.deferred.trans h.deferred, fun hplan =>
    (h'.updates (h.plan ▸ hplan)).trans (h.updates hplan)⟩
  change h := by
    cases h with
    | record path name text hupdate =>
      refine ⟨rfl, rfl, rfl, fun hplan => ?_⟩
      rw [hupdate] at hplan
      cases hplan
    | _ => exact .of_eq rfl rfl rfl rfl
  course _ _ _ _ _ _ _ := .of_eq rfl rfl rfl rfl

instance : CoversSetup Anchored where
  setUp _ _ _ _ _ _ _ _ := .of_eq rfl rfl rfl rfl

theorem anchored_dress {host : Host} (hdress : host.dresser? = none) (s : Script) : Keeps Anchored (dress host) s := by
  rw [dress, hdress]
  exact Step.keeps_modify (.of_eq rfl rfl rfl rfl)

/-- **A performance keeps what its host keeps** until it is taken down: in commands and conditions, and in dressing the
script. -/
theorem keeps_performAll {R : Script → Script → Prop} [CoversCourse R] [CoversSetup R] {host : Host}
    (hhost : host.KeepsTo R) (hdress : ∀ s, Keeps R (dress host) s) (s : Script) : Keeps R (performAll host) s := by
  refine Step.keeps_bind (keeps_setUp hdress s) fun text t _ => ?_
  refine Step.keeps_bind (keeps_startTimer t) fun _ u _ => ?_
  refine Step.keeps_bind (keeps_showVariables hhost u) fun _ v _ => ?_
  refine Step.keeps_bind (keeps_attempt (keeps_performText hhost text v)) fun result w _ => ?_
  refine Step.keeps_bind (keeps_storeUpdates w) fun _ x _ => ?_
  split
  · exact Step.keeps_pure _ x
  · exact Step.keeps_throw _ x

/-- Nothing is left to do in the end but what was at the beginning, if the host arranges nothing. -/
theorem anchored_performAll {host : Host} (hhost : host.KeepsTo Anchored) (hdress : host.dresser? = none) (s : Script) :
    Keeps Anchored (performAll host) s :=
  keeps_performAll hhost (anchored_dress hdress) s

end Script

end Rehearsal
