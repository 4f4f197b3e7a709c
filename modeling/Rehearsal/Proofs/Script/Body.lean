import Rehearsal.Proofs.Command.Keeps
import Rehearsal.Script.Body
import Rehearsal.Script.Performance

/-!
# What lines keep

The lines of a script do what their commands do, and besides that count themselves and open phases. `CoversLines` is a
relation that this keeps to as well; then all the lines together keep to it (`keeps_performLines`).
-/

namespace Rehearsal.Script

open Step (eval Keeps Lasting)

/-- A performer that keeps to a relation whatever it is asked to do. -/
structure Performer.KeepsTo (R : Script → Script → Prop) (p : Performer) : Prop where
  ask : ∀ condition s, Keeps R (p.ask condition) s
  carryOut : ∀ m words s, Keeps R (p.carryOut m words) s

/-- A host keeps to what it lets lines do. -/
theorem performer_keepsTo {R : Script → Script → Prop} [Covers R] {host : Host} (hhost : host.KeepsTo R) :
    (performer host).KeepsTo R :=
  ⟨keeps_condition host, Command.keeps_dispatch hhost⟩

section Commands

variable {R : Script → Script → Prop} [Lasting R] {p : Performer}

theorem keeps_holds {ask : String → Action Bool} (hask : ∀ condition s, Keeps R (ask condition) s) (g : Guard)
    (s : Script) : Keeps R (g.holds ask) s := by
  refine Step.keeps_bind (keeps_attempt (hask g.condition s)) fun result t _ => ?_
  split
  · exact Step.keeps_pure _ t
  · split
    · exact Step.keeps_throw _ t
    · exact Step.keeps_throw _ t

theorem keeps_select {ask : String → Action Bool} (hask : ∀ condition s, Keeps R (ask condition) s) (words : List String)
    (s : Script) : Keeps R (Guard.select ask words) s := by
  induction words generalizing s with
  | nil => exact Step.keeps_throw _ s
  | cons word rest ih =>
    rw [Guard.select]
    split
    · exact Step.keeps_pure _ s
    · extract_lets asking
      split
      · exact Step.keeps_throw_bind _ _ s
      · refine Step.keeps_bind (keeps_holds hask _ s) fun answer t _ => ?_
        split
        · exact ih t
        · exact Step.keeps_pure _ t

theorem keeps_command (hp : p.KeepsTo R) (words : List String) (s : Script) : Keeps R (command p words) s := by
  rw [command.eq_def]
  split
  · exact Step.keeps_pure _ s
  split
  · exact hp.carryOut _ _ s
  split
  · exact Step.keeps_throw _ s
  · exact hp.carryOut _ _ s

/-- What stands behind the guards of a line is carried out or not. -/
theorem keeps_guarded (hp : p.KeepsTo R) (words : List String) (s : Script) :
    Keeps R (do
      match ← Guard.select p.ask words with
      | some words => command p words
      | none => pure ()) s := by
  refine Step.keeps_bind (keeps_select hp.ask words s) fun words? t _ => ?_
  split
  · exact keeps_command hp _ t
  · exact Step.keeps_pure _ t

end Commands

/-- A relation that lines keep to beyond what their commands do. -/
class CoversLines (R : Script → Script → Prop) : Prop extends Covers R where
  line : ∀ s line, R s { s with line }
  count : ∀ s : Script, R s { s with lineNumber := s.lineNumber + 1 }
  openPhase : ∀ s header, R s (s.openPhase header)

section Lines

variable {R : Script → Script → Prop} [CoversLines R] {p : Performer}

theorem keeps_parse (line : String) (s : Script) : Keeps R (parse line) s := by
  refine Step.keeps_bind (Step.keeps_modify (CoversLines.line s line)) fun _ t _ => Step.keeps_get_bind ?_
  split
  · exact Step.keeps_pure _ t
  · exact Step.keeps_throw _ t

theorem keeps_performCommand (hp : p.KeepsTo R) (line : String) (s : Script) : Keeps R (performCommand p line) s := by
  refine Step.keeps_bind (keeps_parse line s) fun args t _ => ?_
  split
  · exact Step.keeps_pure _ t
  · exact Step.keeps_bind (Step.keeps_modify (Covers.change (.write t _))) fun _ u _ => keeps_guarded hp args u

theorem keeps_performLine (hp : p.KeepsTo R) (line : String) (s : Script) : Keeps R (performLine p line) s := by
  refine Step.keeps_bind (Step.keeps_modify (CoversLines.count s)) fun _ t _ => Step.keeps_get_bind ?_
  extract_lets plan
  split
  · exact Step.keeps_modify (CoversLines.openPhase t line)
  split
  · exact Step.keeps_pure _ t
  · exact keeps_performCommand hp line t

/-- **Lines one after the other keep what each of them keeps.** -/
theorem keeps_performLines (hp : p.KeepsTo R) (lines : List String) (s : Script) : Keeps R (performLines p lines) s := by
  induction lines generalizing s with
  | nil => exact Step.keeps_pure _ s
  | cons line rest ih =>
    refine Step.keeps_bind (keeps_performLine hp line s) fun _ t _ => Step.keeps_get_bind ?_
    split
    · exact Step.keeps_pure _ t
    · exact ih t

end Lines

/-- Storing golden files works with files, and may tell of it. -/
theorem keeps_storeUpdates {R : Script → Script → Prop} [CoversFront R] (s : Script) : Keeps R storeUpdates s := by
  refine Step.keeps_get_bind ?_
  split
  · exact Step.keeps_pure _ s
  split
  · exact Step.keeps_throw _ s
  split
  · refine Step.keeps_get_bind (Step.keeps_bind (keeps_attempt (keeps_files _ s)) fun result t _ => ?_)
    split
    · exact Step.keeps_modify (covers_logLine t _)
    · exact Step.keeps_throw _ t
    · exact Step.keeps_throw _ t
  · exact Step.keeps_throw _ s

end Rehearsal.Script
