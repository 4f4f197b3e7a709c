import Rehearsal.Proofs.Step
import Rehearsal.Script.Process

/-!
# What commands do to a script

`Change` is everything that a part of a command can do to a script. What holds of every change, and of one change after
another, holds of every step that is made of such parts; `Covers` is a relation of that kind. So a law about what commands
leave alone needs one case for each kind of change, and none for each command.

Few parts have to do with the programs beside a script. `CoversFront` is for relations that may not hold of these: the other
parts keep to them all the same.
-/

namespace Rehearsal

open Step (eval Keeps Lasting)

/-- A change that a part of a command makes. -/
inductive Change : Script → Script → Prop where
  | write (s : Script) (text : String) : Change s (s.write text)
  | disk (s : Script) (disk : Files.Disk) : Change s { s with scene := { s.scene with disk } }
  | clock (s : Script) (clock : Time) (h : s.scene.clock ≤ clock) : Change s { s with scene := { s.scene with clock } }
  | programs (s : Script) (programs : ProgramCache) : Change s { s with scene := { s.scene with programs } }
  | exchange (s : Script) (server : Http.Server) (sent : List Http.Message) :
    Change s { s with scene := { s.scene with server, sent } }
  | directory (s : Script) (directory : String) : Change s { s with directory }
  | stdin (s : Script) (stdin : String) : Change s { s with stdin }
  | streams (s : Script) (stdout stderr : String) : Change s { s with stdout, stderr }
  | status (s : Script) (status : Int) : Change s { s with status }
  | stop (s : Script) : Change s { s with stopped := true }
  | assign (s : Script) (key value : String) (h : Environment.isName key) : Change s (s.assign key value)
  /-- New contents of a golden file are recorded: those of a file of the archive, while golden files are updated. -/
  | record (s : Script) (path name text : String) (hplan : s.plan.updateScripts)
    (hname : Table.get? path s.extracted = some name) :
    Change s { s with updates := Table.insert name text s.updates }
  | clients (s : Script) (clients : Http.Clients) : Change s { s with clients }
  | beside (s : Script) (b : Background) : Change s { s with background := s.background ++ [b] }
  | collected (s : Script) : Change s { s with background := [] }

/-- A relation between what a script was and what it is that every change keeps to. -/
class Covers (R : Script → Script → Prop) : Prop extends Lasting R where
  change : ∀ {s t}, Change s t → R s t

/-- A relation that every change keeps to which leaves the programs beside a script as they are. -/
class CoversFront (R : Script → Script → Prop) : Prop extends Lasting R where
  front : ∀ {s t}, Change s t → t.background = s.background → R s t

instance (priority := low) {R : Script → Script → Prop} [Covers R] : CoversFront R where
  front h _ := Covers.change h

variable {R : Script → Script → Prop}

/-! ## Parts of commands -/

theorem keeps_attempt {α : Type} {a : Action α} {s : Script} (h : Keeps R a s) : Keeps R (attempt a) s := h

section InFront

variable [CoversFront R]

/-- Work with files changes the disk alone. -/
theorem keeps_files {α : Type} (a : Files.Access α) (s : Script) : Keeps R (Action.files a) s := by
  rw [Keeps, eval_files]
  exact CoversFront.front (.disk s _) rfl

theorem keeps_look {α : Type} (f : Files.Disk → Except Files.Error α) (s : Script) : Keeps R (Action.look f) s := by
  refine Step.keeps_get_bind ?_
  split
  · exact Step.keeps_pure _ s
  · exact Step.keeps_throw _ s

theorem keeps_text (file : String) (s : Script) : Keeps R (Action.text file) s := by
  refine Step.keeps_get_bind ?_
  split
  · exact Step.keeps_pure _ s
  · exact Step.keeps_throw _ s

theorem keeps_assign (key value : String) (s : Script) : Keeps R (Action.assign key value) s := by
  rw [Action.assign]
  split
  next hname => exact Step.keeps_modify (CoversFront.front (.assign s key value hname) rfl)
  next => exact Step.keeps_throw _ s

end InFront

namespace Script

section InFront

variable [CoversFront R]

/-! ## The transcript -/

theorem covers_logLine (s : Script) (text : String) : R s (s.logLine text) := CoversFront.front (.write s _) rfl

theorem covers_logStream (s : Script) (head text : String) : R s (s.logStream head text) := by
  rw [logStream]
  split
  · exact Lasting.refl s
  · exact covers_logLine s _

theorem covers_logStreams (s : Script) (stdout stderr : String) : R s (s.logStreams stdout stderr) :=
  Lasting.trans (covers_logStream s _ _) (covers_logStream _ _ _)

/-! ## Programs -/

theorem covers_after (s : Script) (f : Program.Finish) (disk : Files.Disk) :
    R s { s with scene := Scene.after s.scene f disk } :=
  Lasting.trans (CoversFront.front (.disk s disk) rfl) (CoversFront.front (.clock _ _ (Nat.le_max_left _ f.time)) rfl)

theorem keeps_launch (command : String) (args : List String) (s : Script) : Keeps R (launch command args) s := by
  refine Step.keeps_get_bind (Step.keeps_bind (Step.keeps_set (CoversFront.front (.stdin s "") rfl)) fun _ t _ => ?_)
  split
  next => exact Step.keeps_throw _ t
  next =>
    extract_lets
    split
    · exact Step.keeps_pure _ t
    · exact Step.keeps_throw _ t
    · exact Step.keeps_throw _ t

theorem keeps_runProgram (command : String) (args : List String) (s : Script) :
    Keeps R (runProgram command args) s := by
  refine Step.keeps_bind (keeps_launch command args s) fun p t _ => Step.keeps_get_bind ?_
  split
  next f cancelled disk _ =>
    have hset : R t { t with scene := Scene.after t.scene f disk, status := f.code } :=
      Lasting.trans (covers_after t f disk) (CoversFront.front (.status _ f.code) rfl)
    exact Step.keeps_bind (Step.keeps_set hset) fun _ u _ => Step.keeps_pure _ u

theorem keeps_runKept (command : String) (args : List String) (s : Script) : Keeps R (runKept command args) s := by
  refine Step.keeps_bind (keeps_attempt (keeps_runProgram command args s)) fun result t _ => ?_
  split
  next r _ =>
    have hset : R t (({ t with stdout := r.stdout, stderr := r.stderr } : Script).logStreams r.stdout r.stderr) :=
      Lasting.trans (CoversFront.front (.streams t r.stdout r.stderr) rfl) (covers_logStreams _ _ _)
    exact Step.keeps_bind (Step.keeps_modify hset) fun _ u _ => Step.keeps_pure r u
  next a _ =>
    extract_lets throwing
    split
    · exact Step.keeps_bind (Step.keeps_modify (CoversFront.front (.streams t "" "") rfl)) fun _ u _ => Step.keeps_throw _ u
    · exact Step.keeps_throw _ t
  next => exact Step.keeps_throw _ t

theorem keeps_expect (m : Modifier) (what : String) (succeeded : Bool) (s : Script) :
    Keeps R (expect m what succeeded) s := by
  rw [expect]
  split
  · exact Step.keeps_pure _ s
  · exact Step.keeps_throw _ s

theorem covers_collectOne (given : Program.Stop) (c : Collection) (b : Background) (s : Script) :
    R s ((collectOne given c b).run s).2 := by
  let w := b.process.wait s.stopPolicy s.cancelAt given s.scene.disk
  have hafter : R s { s with scene := Scene.after s.scene w.1 w.2.2, status := (w.1.result w.2.1).code } :=
    Lasting.trans (covers_after s w.1 w.2.2) (CoversFront.front (.status _ _) rfl)
  exact Lasting.trans (Lasting.trans hafter (covers_logLine _ _)) (covers_logStreams _ _ _)

/-- Waiting for programs is waiting for them one by one. -/
theorem covers_collectAll (given : Program.Stop) (bs : List Background) (c : Collection) (s : Script) :
    R s ((bs.foldlM (collectOne given) c).run s).2 := by
  induction bs generalizing c s with
  | nil => exact Lasting.refl s
  | cons b rest ih =>
    rw [List.foldlM_cons]
    exact Lasting.trans (covers_collectOne given c b s) (ih _ _)

/-- Refuses what programs beside a script have come to, if it is not what was asked for. -/
def judged (c : Collection) : Action Unit := do
  if c.cancelled then throw .timeout
  unless c.problems.isEmpty do Action.mismatch (.background c.problems)

/-- Settling is collecting, and then judging. -/
theorem settle_eq : settle = liftM (collect .never) >>= judged := rfl

theorem keeps_judged (c : Collection) (s : Script) : Keeps R (judged c) s := by
  rw [judged]
  split
  · exact Step.keeps_throw_bind _ _ s
  · dsimp only
    split
    · exact Step.keeps_pure _ s
    · exact Step.keeps_throw _ s

end InFront

/-! ## Programs beside a script -/

variable [Covers R]

theorem keeps_startBeside (m : Modifier) (command : String) (args : List String) (s : Script) :
    Keeps R (startBeside m command args) s :=
  Step.keeps_bind (keeps_launch command args s) fun p t _ =>
    Step.keeps_modify (Covers.change (.beside t ⟨command :: args, m, p⟩))

theorem covers_collect (given : Program.Stop) (s : Script) : R s ((collect given).run s).2 :=
  Lasting.trans (covers_collectAll given s.background ⟨"", "", false, []⟩ s)
    (Lasting.trans (Covers.change (.collected _)) (Covers.change (.streams _ _ _)))

theorem covers_dismiss (s : Script) : R s (dismiss.run s).2 := covers_collect (s.stopPolicy.stopAt s.scene.clock) s

theorem keeps_settle (s : Script) : Keeps R settle s := by
  rw [settle_eq]
  exact Step.keeps_bind (Step.keeps_liftM (covers_collect .never s)) fun c t _ => keeps_judged c t

end Script

end Rehearsal
