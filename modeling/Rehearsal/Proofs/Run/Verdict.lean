import Rehearsal.CommandLine
import Rehearsal.Proofs.Files.Clean
import Rehearsal.Proofs.Run.WorkDirectory
import Rehearsal.Proofs.Script.Deferred
import Rehearsal.Proofs.Script.Escape

/-!
# The verdict of a run

The outcomes of a run go two ways: they are listed in the order of the script files, and reported one by one as the scripts
end. The line of counts and the exit code rest on the report. `Settles` says what a run comes to that has given outcomes,
with no word of when each of them came. So every run whose scripts have these outcomes comes to it (`settles_conclude`), and
there is a run for every order in which they can be reported (`exists_reported_in`).

`verdict_of_every_order` says so of what a plan selects. It assumes that the run can make its directory and take it away,
that no script is left by a fault, and that what the host does to a script leaves it the script of its file.
-/

namespace Rehearsal

open Step (eval Keeps Lasting)

/-! ## What an outcome is of -/

namespace Script

/-- A script of the same file, under the same name. -/
structure SameFile (s t : Script) : Prop where
  file : t.file = s.file
  name : t.name = s.name

instance : CoversCourse SameFile where
  refl _ := ⟨rfl, rfl⟩
  trans h h' := ⟨h'.file.trans h.file, h'.name.trans h.name⟩
  change h := by cases h <;> exact ⟨rfl, rfl⟩
  course _ _ _ _ _ _ _ := ⟨rfl, rfl⟩

instance : CoversSetup SameFile where
  setUp _ _ _ _ _ _ _ _ := ⟨rfl, rfl⟩

/-- A script is that of its file from beginning to end. -/
theorem sameFile_perform {host : Host} (hhost : host.KeepsTo SameFile) (s : Script) :
    SameFile s ((perform host).run s).2 := by
  have hdress : ∀ t, Keeps SameFile (dress host) t :=
    keeps_dress (fun _ => ⟨rfl, rfl⟩) (fun _ _ => ⟨rfl, rfl⟩) (fun _ _ => ⟨rfl, rfl⟩) host
  obtain ⟨notes, log, hperform⟩ := perform_eq host s
  have hnoted : ∀ t : Script, SameFile t (t.withNotes notes log) := fun _ => ⟨rfl, rfl⟩
  have hover := Lasting.trans (Lasting.trans (keeps_performAll hhost hdress s) (hnoted _))
    (covers_abandoned (R := SameFile) (fun _ => ⟨rfl, rfl⟩) _)
  rw [hperform, markTime_eq]
  exact ⟨hover.file, hover.name⟩

/-- An outcome names the script it is of. -/
theorem outcome_of_perform {host : Host} (hhost : host.KeepsTo SameFile) {s : Script} {o : Outcome}
    (h : ((perform host).run s).1 = .ok o) : o.file = s.file ∧ o.name = s.name := by
  have hsame := sameFile_perform hhost s
  rcases hexecute : (execute host).run s with ⟨ended, t⟩
  rcases hdown : takeDown.run t with ⟨down, u⟩
  rw [run_perform hexecute hdown] at h hsame
  cases down with
  | error f => cases h
  | ok failed =>
    cases ended with
    | error f => cases h
    | ok status =>
      cases h
      exact ⟨hsame.file, hsame.name⟩

/-! ## A directory in the place of a script -/

/-- A script cannot be set up from a directory. -/
theorem setUp_directory (host : Host) {s : Script} (hdir : s.scene.disk.isDirectory (Path.clean s.file) = true) :
    ∃ e disk, eval (setUp host) s = (.error (.misuse (.accident (.file e))), { s with scene := { s.scene with disk } }) ∧
      s.scene.disk.Grows disk := by
  have hgrows := Files.Access.grows_makeDirectories (Path.join s.workDir "tmp") s.scene.disk
  have hread : ∃ e disk, eval (reading s.workDir) s =
      (.error (.accident (.file e)), { s with scene := { s.scene with disk } }) ∧ s.scene.disk.Grows disk := by
    rw [Keeps] at hgrows
    rw [reading, Step.eval_bind, eval_files]
    rcases hmade : eval (Files.Access.makeDirectories (Path.join s.workDir "tmp")) s.scene.disk with ⟨e | u, disk⟩
    all_goals rw [hmade] at hgrows
    · exact ⟨e, disk, rfl, hgrows⟩
    · obtain ⟨e, he⟩ := Files.Disk.read_of_isDirectory (hgrows.isDirectory hdir)
      simp only [Except.mapError]
      rw [Step.eval_bind, eval_readArchive]
      dsimp only
      rw [he]
      exact ⟨e, disk, rfl, hgrows⟩
  obtain ⟨e, disk, hread, hdisk⟩ := hread
  refine ⟨e, disk, setUp_of_reading ?_, hdisk⟩
  rw [eval_settingUp, hread]
  cases e <;> rfl

/-- A script that nothing runs beside leaves the disk as it is when it is taken down. -/
theorem disk_of_abandoned {s : Script} (h : s.background = []) : s.abandoned.markTime.scene.disk = s.scene.disk := by
  rw [markTime_eq, abandoned_of_nil h]
  rfl

/-- A script whose file is a directory has failed, and took nothing away. -/
theorem perform_directory (host : Host) {s : Script} (hdir : s.scene.disk.isDirectory (Path.clean s.file) = true)
    (hdeferred : s.deferred = []) (hbackground : s.background = []) :
    ∃ o t, (perform host).run s = (.ok o, t) ∧ o.status = .fail ∧ s.scene.disk.Grows t.scene.disk := by
  obtain ⟨e, disk, hsetup, hgrows⟩ := setUp_directory host hdir
  have hexecute := run_execute_of_failure (Step.eval_bind_of_error hsetup) rfl
  rw [run_perform hexecute (run_takeDown hdeferred)]
  refine ⟨_, _, rfl, rfl, ?_⟩
  rw [disk_of_abandoned]
  · exact hgrows
  · exact hbackground

end Script

namespace Run

open Files

variable {host : Host} {place : Place} {plan : Plan} {root : String} {begin' : Time} {outcomes order : List Outcome}
  {es : List Ended}

/-- Whether scripts have ended with these outcomes, one each and none with a fault. -/
def EndWith (outcomes : List Outcome) (es : List Ended) : Prop :=
  List.Forall₂ (fun o e => e.outcome = Except.ok o) outcomes es

/-- What has come out of a script is its outcome, if the script's directory could be taken away. -/
theorem perform_of_performOne {file : String} {scene : Scene} {o : Outcome}
    (h : (performOne host place plan root file scene).1.outcome = .ok o) :
    ((Script.perform host).run (.opening plan place.platform file (scriptName file) root scene)).1 = .ok o := by
  rw [performOne] at h
  split at h
  next outcome t hrun =>
    rw [hrun]
    split at h
    next => exact h
    next =>
      split at h
      next removed disk _ =>
        cases removed with
        | ok u => exact h
        | error e => cases h

/-- Each script comes to an outcome of its own file. -/
theorem map_file_of_performEach (hhost : host.KeepsTo Script.SameFile) {files : List String} {scene : Scene}
    (h : EndWith outcomes (performEach host place plan root begin' files scene).1) :
    outcomes.map (·.file) = files ∧ outcomes.map (·.name) = files.map scriptName := by
  induction files generalizing outcomes scene with
  | nil =>
    cases h
    exact ⟨rfl, rfl⟩
  | cons file rest ih =>
    obtain _ | ⟨ho, hmore⟩ := h
    obtain ⟨hfile, hname⟩ := Script.outcome_of_perform hhost (perform_of_performOne ho)
    obtain ⟨hfiles, hnames⟩ := ih hmore
    exact ⟨congrArg₂ List.cons hfile hfiles, congrArg₂ List.cons hname hnames⟩

/-! ## Listing and reporting -/

theorem exists_endWith (h : ∀ e ∈ es, e.fault? = none) : ∃ outcomes, EndWith outcomes es := by
  induction es with
  | nil => exact ⟨[], .nil⟩
  | cons e rest ih =>
    obtain ⟨outcomes, hrest⟩ := ih fun e' he' => h e' (List.mem_cons_of_mem _ he')
    have he := h e List.mem_cons_self
    rw [Ended.fault?] at he
    cases ho : e.outcome with
    | ok o => exact ⟨o :: outcomes, .cons ho hrest⟩
    | error f =>
      rw [ho] at he
      cases he

theorem EndWith.fault?_eq_none (h : EndWith outcomes es) : ∀ e ∈ es, e.fault? = none := by
  induction h with
  | nil => exact fun e he => absurd he List.not_mem_nil
  | cons ho _ ih =>
    refine List.forall_mem_cons.mpr ⟨?_, ih⟩
    rw [Ended.fault?, ho]

theorem EndWith.listed (h : EndWith outcomes es) : es.filterMap (fun e => e.outcome.toOption) = outcomes := by
  induction h with
  | nil => rfl
  | cons ho _ ih =>
    rw [List.filterMap_cons, ho, ih]
    rfl

theorem finishing_perm (es : List Ended) : (finishing es).Perm es := List.mergeSort_perm _ _

theorem pairwise_finishing (es : List Ended) : (finishing es).Pairwise fun a b => a.time ≤ b.time := by
  have : Std.Total fun a b : Ended => a.time ≤ b.time := ⟨fun a b => Nat.le_total a.time b.time⟩
  have : IsTrans Ended fun a b => a.time ≤ b.time := ⟨fun _ _ _ => Nat.le_trans⟩
  exact List.pairwise_mergeSort' _ es

theorem map_fst_reports (begin' : Time) (es : List Ended) :
    (reports begin' none es).map Prod.fst = es.filterMap fun e => e.outcome.toOption := by
  rw [reports, List.map_filterMap]
  congr 1
  funext e
  cases e.outcome <;> rfl

/-- A run that no script ends before its time lists all outcomes, and reports them as the scripts end. -/
theorem conclude_of_endWith (h : EndWith outcomes es) (begin' : Time) :
    conclude begin' es = ⟨.ok outcomes, reports begin' none (finishing es)⟩ := by
  have hnone : firstFault? (finishing es) = none := by
    rw [firstFault?, List.findSome?_eq_none_iff]
    intro e he
    rw [h.fault?_eq_none e ((finishing_perm es).mem_iff.mp he)]
    rfl
  rw [conclude, hnone, h.listed]

/-- Each outcome is reported once. -/
theorem reported_perm (h : EndWith outcomes es) (begin' : Time) :
    ((conclude begin' es).reported.map Prod.fst).Perm outcomes := by
  rw [conclude_of_endWith h, map_fst_reports]
  have hperm := (finishing_perm es).filterMap fun e => e.outcome.toOption
  rwa [h.listed] at hperm

/-- Scripts that end one after the other, from a time on. -/
def endingFrom (begin' : Time) : List Outcome → List Ended
  | [] => []
  | o :: rest => ⟨.ok o, begin'⟩ :: endingFrom (begin' + 1) rest

theorem endWith_endingFrom (begin' : Time) (order : List Outcome) : EndWith order (endingFrom begin' order) := by
  induction order generalizing begin' with
  | nil => exact .nil
  | cons o rest ih => exact .cons rfl (ih _)

theorem le_time_of_mem_endingFrom {e : Ended} (h : e ∈ endingFrom begin' order) : begin' ≤ e.time := by
  induction order generalizing begin' with
  | nil => cases h
  | cons o rest ih =>
    rcases List.mem_cons.mp h with rfl | hrest
    · exact Nat.le_refl _
    · exact Nat.le_of_succ_le (ih hrest)

theorem pairwise_endingFrom (begin' : Time) (order : List Outcome) :
    (endingFrom begin' order).Pairwise fun a b => a.time < b.time := by
  induction order generalizing begin' with
  | nil => exact .nil
  | cons o rest ih => exact .cons (fun e he => Nat.lt_of_succ_le (le_time_of_mem_endingFrom he)) (ih _)

/-- **Outcomes can be reported in every order**, by scripts that end in that order. -/
theorem exists_reported_in (h : order.Perm outcomes) (begin' : Time) :
    ∃ es, EndWith outcomes es ∧ (∀ e ∈ es, begin' ≤ e.time) ∧ (conclude begin' es).reported.map Prod.fst = order := by
  have hordered := endWith_endingFrom begin' order
  obtain ⟨es, hends, hperm⟩ := List.perm_comp_forall₂ h.symm hordered
  refine ⟨es, hends, fun e he => le_time_of_mem_endingFrom (hperm.mem_iff.mp he), ?_⟩
  have hstrict := pairwise_endingFrom begin' order
  have hfinishing : (finishing es).Perm (endingFrom begin' order) := (finishing_perm es).trans hperm
  -- No two of them end at one time, so there is one way to sort them.
  have hdistinct : ((endingFrom begin' order).map Ended.time).Nodup := List.pairwise_map.mpr (hstrict.imp Nat.ne_of_lt)
  have hsorted : finishing es = endingFrom begin' order := by
    refine List.Perm.eq_of_pairwise ?_ (pairwise_finishing es) (hstrict.imp Nat.le_of_lt) hfinishing
    intro a b ha hb hab hba
    exact List.inj_on_of_nodup_map hdistinct (hfinishing.mem_iff.mp ha) hb (Nat.le_antisymm hab hba)
  rw [conclude_of_endWith hends, map_fst_reports, hsorted, hordered.listed]

/-! ## Counting -/

/-- The number of outcomes with a status. -/
def tally (status : Status) (os : List Outcome) : Nat := os.countP fun o => o.status == status

/-- Every outcome is counted once. -/
theorem tally_add_tally_add_tally (os : List Outcome) :
    tally .pass os + tally .fail os + tally .skip os = os.length := by
  induction os with
  | nil => rfl
  | cons o rest ih =>
    have hone : ∀ status, tally status (o :: rest) = tally status rest + if o.status == status then 1 else 0 :=
      fun _ => List.countP_cons
    rw [hone, hone, hone, List.length_cons, ← ih]
    cases o.status <;> simp <;> omega

theorem tally_pos_iff {status : Status} {os : List Outcome} : 0 < tally status os ↔ ∃ o ∈ os, o.status = status := by
  simp [tally, List.countP_pos_iff]

theorem label_beq (a b : Status) : (a.label == b.label) = (a == b) := by cases a <;> cases b <;> decide

/-- What is reported of outcomes, each with the time its script took. -/
def entriesOf (reported : List (Outcome × Time)) : List Report.Entry :=
  reported.map fun (o, span) => CommandLine.entryOf o span

/-- The labels that are counted are those of the outcomes. -/
theorem count_entriesOf (status : Status) (reported : List (Outcome × Time)) :
    Report.count status (entriesOf reported) = tally status (reported.map Prod.fst) := by
  rw [Report.count, entriesOf, tally, List.countP_map, List.countP_map]
  exact List.countP_congr fun pair _ => by simp [CommandLine.entryOf, label_beq]

theorem failed_iff (es : List Report.Entry) : Report.failed es = true ↔ 0 < Report.count .fail es := by
  rw [Report.failed, Report.count, List.any_eq_true, List.countP_pos_iff]

/-! ## The verdict -/

/-- The seconds that reported scripts took together, added up as they were reported. -/
def secondsOf (reported : List (Outcome × Time)) : Float :=
  (entriesOf reported).foldl (fun sum e => sum + e.seconds) (Float.ofBits 0)

/-- The line of counts that goes with outcomes, given the seconds that their scripts took. -/
def summaryOf (style : Report.Style) (os : List Outcome) (total : Float) : String :=
  let verdict := if 0 < tally .fail os then style.label Status.fail.label else "ok"
  s!"{verdict}\t{tally .pass os} passed, {tally .fail os} failed, {tally .skip os} skipped " ++
    s!"({Binary.fixed 2 total}s)\n"

/-- An answer that tells of outcomes and what was reported of them: its exit code is one if one of them is a failure and zero
if none is, and behind what it shows of each script it says how many there are of each status. -/
structure Tells (style : Report.Style) (os : List Outcome) (reported : List (Outcome × Time)) (a : CommandLine.Answer) :
    Prop where
  failed : a.exitCode = 1 ↔ ∃ o ∈ os, o.status = .fail
  passed : a.exitCode = 0 ↔ ∀ o ∈ os, o.status ≠ .fail
  shown : a.stdout = String.join ((entriesOf reported).map style.entry) ++ summaryOf style os (secondsOf reported)

/-- **A result that says of a run that its scripts have these outcomes**: they are listed as they are and reported once each,
and the report tells of them. -/
structure Settles (outcomes : List Outcome) (r : Result) : Prop where
  listed : r.outcomes = .ok outcomes
  reported : (r.reported.map Prod.fst).Perm outcomes
  told : ∀ style warnings, ∃ a, CommandLine.report style warnings r = .ok a ∧ Tells style outcomes r.reported a

section Reports

variable {reported : List (Outcome × Time)} (hperm : (reported.map Prod.fst).Perm outcomes)
include hperm

/-- What is counted is the same in every order. -/
theorem count_of_perm (status : Status) : Report.count status (entriesOf reported) = tally status outcomes :=
  (count_entriesOf status reported).trans (hperm.countP_eq _)

theorem failed_of_perm : Report.failed (entriesOf reported) = decide (0 < tally .fail outcomes) := by
  rw [Bool.eq_iff_iff, failed_iff, count_of_perm hperm, decide_eq_true_iff]

theorem summary_of_perm (style : Report.Style) :
    style.summary (entriesOf reported) = summaryOf style outcomes (secondsOf reported) := by
  rw [Report.Style.summary, failed_of_perm hperm]
  simp only [count_of_perm hperm, decide_eq_true_eq]
  rfl

end Reports

/-- The exit code that goes with outcomes. -/
def exitCodeOf (os : List Outcome) : Nat := if 0 < tally .fail os then 1 else 0

theorem exitCodeOf_eq_one_iff {os : List Outcome} : exitCodeOf os = 1 ↔ ∃ o ∈ os, o.status = .fail := by
  rw [exitCodeOf, ← tally_pos_iff]
  split <;> simp [*]

theorem exitCodeOf_eq_zero_iff {os : List Outcome} : exitCodeOf os = 0 ↔ ∀ o ∈ os, o.status ≠ .fail := by
  have hnone : (∀ o ∈ os, o.status ≠ .fail) ↔ ¬0 < tally .fail os := by
    rw [tally_pos_iff]
    push Not
    rfl
  rw [exitCodeOf, hnone]
  split <;> simp [*]

/-- The answer to a run whose report holds what it lists. -/
theorem report_of_perm {r : Result} (hlisted : r.outcomes = .ok outcomes)
    (hperm : (r.reported.map Prod.fst).Perm outcomes) (style : Report.Style) (warnings : List String) :
    ∃ warned, CommandLine.report style warnings r = .ok ⟨exitCodeOf outcomes,
      String.join ((entriesOf r.reported).map style.entry) ++ summaryOf style outcomes (secondsOf r.reported), warned⟩ := by
  refine ⟨if style.verbose then "" else String.join (warnings.map (· ++ "\n")), ?_⟩
  rw [← summary_of_perm hperm, exitCodeOf, CommandLine.report, hlisted]
  have hfailed := failed_of_perm hperm
  rw [entriesOf] at hfailed ⊢
  simp only [hfailed, decide_eq_true_eq]

/-- A result whose report holds what it lists tells of that. -/
theorem settles_of_perm {r : Result} (hlisted : r.outcomes = .ok outcomes)
    (hperm : (r.reported.map Prod.fst).Perm outcomes) : Settles outcomes r := by
  refine ⟨hlisted, hperm, fun style warnings => ?_⟩
  obtain ⟨warned, hreport⟩ := report_of_perm hlisted hperm style warnings
  exact ⟨_, hreport, exitCodeOf_eq_one_iff, exitCodeOf_eq_zero_iff, rfl⟩

/-- **What a run comes to rests on the outcomes of its scripts, whenever each of them ended.** -/
theorem settles_conclude (h : EndWith outcomes es) (begin' : Time) : Settles outcomes (conclude begin' es) :=
  settles_of_perm (congrArg Result.outcomes (conclude_of_endWith h begin')) (reported_perm h begin')

/-- A run that can make its directory and take it away comes to what its scripts have ended with. -/
theorem perform_eq_conclude {selector : Option String} {scene after : Scene} {files : List String} {disk : Disk}
    (hselect : select plan selector scene.disk = .ok files)
    (hroot : eval (makeRoot place plan) scene.disk = (.ok root, disk))
    (heach : performEach host place plan root scene.clock files { scene with disk } = (es, after))
    (hremoved : plan.testWork = true ∨ (eval (removeIfThere root) after.disk).1 = .ok ()) :
    (perform host place plan selector scene).1 = conclude scene.clock es := by
  have hmade : (makeRoot place plan).run scene.disk = _ := hroot
  rw [perform, hselect]
  dsimp only
  rw [performFiles, hmade]
  dsimp only
  rw [heach]
  dsimp only
  split
  next => rfl
  next hwork =>
    have hgone := hremoved.resolve_left hwork
    rcases hrun : (removeIfThere root).run after.disk with ⟨removed, left⟩
    have hrun' : eval (removeIfThere root) after.disk = _ := hrun
    rw [hrun'] at hgone
    obtain rfl : removed = .ok () := hgone
    rfl

/-- **The verdict of a run is the same in whatever order its scripts end**, if none of them is left by a fault and the run can
make its directory and take it away. There is one outcome for each file that is selected, in the order of the files, and the
outcomes settle what the run comes to. Scripts with these outcomes can end in every order. -/
theorem verdict_of_every_order {selector : Option String} {scene after : Scene} {files : List String} {disk : Disk}
    (hhost : host.KeepsTo Script.SameFile) (hselect : select plan selector scene.disk = .ok files)
    (hroot : eval (makeRoot place plan) scene.disk = (.ok root, disk))
    (heach : performEach host place plan root scene.clock files { scene with disk } = (es, after))
    (hremoved : plan.testWork = true ∨ (eval (removeIfThere root) after.disk).1 = .ok ())
    (hcaught : ∀ e ∈ es, e.fault? = none) :
    ∃ outcomes, EndWith outcomes es ∧ (perform host place plan selector scene).1 = conclude scene.clock es ∧
      outcomes.map (·.file) = files ∧ outcomes.map (·.name) = files.map scriptName ∧ files.Pairwise (· ≤ ·) ∧
      tally .pass outcomes + tally .fail outcomes + tally .skip outcomes = files.length ∧
      (∀ begin' ended, EndWith outcomes ended → Settles outcomes (conclude begin' ended)) ∧
      (∀ order, order.Perm outcomes → ∃ ended, EndWith outcomes ended ∧ (∀ e ∈ ended, scene.clock ≤ e.time) ∧
        (conclude scene.clock ended).reported.map Prod.fst = order) ∧
      ∀ terminal options, host = .none → plan = .ofOptions options → selector = options.run.value? →
        ∃ a, (CommandLine.run terminal place options scene).1 = .ok a ∧
          Tells ⟨terminal.showsColors, options.verbose⟩ outcomes (conclude scene.clock es).reported a := by
  obtain ⟨outcomes, hends⟩ := exists_endWith hcaught
  have hperform := perform_eq_conclude hselect hroot heach hremoved
  have hends' : EndWith outcomes (performEach host place plan root scene.clock files { scene with disk }).1 := by
    rwa [heach]
  obtain ⟨hfiles, hnames⟩ := map_file_of_performEach hhost hends'
  refine ⟨outcomes, hends, hperform, hfiles, hnames, pairwise_of_select hselect, ?_,
    fun begin' ended h => settles_conclude h begin', fun order h => exists_reported_in h scene.clock, ?_⟩
  case refine_1 => rw [tally_add_tally_add_tally, ← hfiles, List.length_map]
  case refine_2 =>
    rintro terminal options rfl rfl rfl
    rw [← hperform]
    exact (hperform ▸ settles_conclude hends scene.clock).told _ _

/-- No fault leaves scripts that have directories for files, where their own directories are kept. -/
theorem caught_of_directories {files : List String} {scene : Scene} (htest : plan.testWork = true)
    (hfiles : ∀ file ∈ files, scene.disk.isDirectory (Path.clean file) = true) :
    ∀ e ∈ (performEach host place plan root begin' files scene).1, e.fault? = none := by
  induction files generalizing scene with
  | nil => exact fun e he => absurd he List.not_mem_nil
  | cons file rest ih =>
    obtain ⟨hfile, hrest⟩ := List.forall_mem_cons.mp hfiles
    let s : Script := .opening plan place.platform file (scriptName file) root { scene with clock := begin' }
    obtain ⟨o, t, hperform, -, hgrows⟩ := Script.perform_directory host (s := s) hfile rfl rfl
    have hone : performOne host place plan root file { scene with clock := begin' } =
        (⟨.ok o, t.scene.clock⟩, t.scene) := by
      rw [performOne, hperform]
      exact if_pos htest
    have hmore : ∀ e ∈ (performEach host place plan root begin' rest t.scene).1, e.fault? = none :=
      ih fun f hf => hgrows.isDirectory (hrest f hf)
    rw [performEach, hone]
    exact List.forall_mem_cons.mpr ⟨rfl, hmore⟩

/-- A disk with two directories that are called as scripts are. -/
def shelfDisk : Disk := ⟨⟨[(["a.hls"], .directory 0o755), (["b.hls"], .directory 0o755)]⟩, []⟩

/-- A plan that takes them for scripts, and makes their directories beside them. -/
def shelfPlan : Plan := { planOf "*.hls" with testWork := true, workdirRoot := some "." }

theorem paths_shelf : Glob.paths shelfDisk shelfPlan.pattern = [Path.join "." "a.hls", Path.join "." "b.hls"] := by
  have hlist : shelfDisk.names "." = .ok ["a.hls", "b.hls"] := by cbv
  have hhidden : Glob.isHidden "a.hls" = false ∧ Glob.isHidden "b.hls" = false := ⟨by cbv, by cbv⟩
  have hfits : Glob.fitsName "*.hls" "a.hls" = true ∧ Glob.fitsName "*.hls" "b.hls" = true := ⟨by cbv, by cbv⟩
  have hnames : Glob.namesIn shelfDisk "." "*.hls" false = ["a.hls", "b.hls"] := by
    simp [Glob.namesIn, hlist, hhidden, hfits]
  exact paths_planOf (by decide) (by decide) hnames

theorem isDirectory_shelf {name : String} (h : name = "a.hls" ∨ name = "b.hls") :
    shelfDisk.isDirectory (Path.clean (Path.join "." name)) = true := by
  have hname : name ≠ "" ∧ '/' ∉ name.toList ∧ name ≠ "." ∧ name.utf8ByteSize ≤ maxPath ∧ '\x00' ∉ name.toList := by
    rcases h with rfl | rfl <;> decide
  obtain ⟨hne, hslash, hdot, hshort, hnull⟩ := hname
  have hwalk : walk shelfDisk.tree true maxLinks [] [name] = .ok (.entry [name] (.directory 0o755)) := by
    rcases h with rfl | rfl <;> cbv
  have hlocate : locate shelfDisk.tree shelfDisk.base true name = .ok (.entry [name] (.directory 0o755)) := by
    refine locate_eq_ok_iff.mpr ⟨hne, hshort, ?_⟩
    have hpieces := Path.pieces_of_name hne hslash
    rw [Path.pieces] at hpieces
    rw [hpieces, show shelfDisk.base = [] from rfl, ite_self, hwalk]
  rw [Path.clean_join_dot hne hslash hdot, Disk.isDirectory_iff]
  exact ⟨_, _, Disk.find_eq_ok_iff.mpr ⟨by rw [String.contains_char_eq, decide_eq_false hnull], fun _ => rfl, hlocate⟩, rfl⟩

theorem makeRoot_shelf (place : Place) :
    eval (makeRoot place shelfPlan) shelfDisk = (.ok (realPath shelfDisk "."), shelfDisk) := by
  have hlocate : ∀ follow, locate shelfDisk.tree shelfDisk.base follow "." = .ok (.entry [] (.directory 0o755)) := by
    intro follow
    cases follow <;> cbv
  have hcontains : ".".contains '\x00' = false := by rw [String.contains_char_eq]; decide
  have hspot : shelfDisk.spot "." none = .ok (.entry [] (.directory 0o755)) := by
    rw [Disk.spot, Option.any_none, Bool.or_false, hcontains, hlocate]
    rfl
  have hdir : shelfDisk.isDirectory "." = true :=
    Disk.isDirectory_iff.mpr ⟨_, _, Disk.find_eq_ok_iff.mpr ⟨hcontains, fun _ => rfl, hlocate true⟩, rfl⟩
  have hhead : (Access.splitLastName ".").1 = "" := by decide +kernel
  have hmake := Access.makeDirectories_of_entry hspot hdir (by rw [hhead]; rfl)
  rw [makeRoot, show shelfPlan.workdirRoot = some "." from rfl]
  dsimp only
  rw [Step.eval_bind_of_ok hmake]
  rfl

/-- A place for runs. -/
def shelfPlace : Place := ⟨⟨"linux", "x86_64"⟩, "/tmp"⟩

/-- The scene that a run of them begins on. -/
def shelfScene : Scene := .ofDisk shelfDisk []

theorem verdict_of_every_order_shelf :
    ∃ files outcomes, select shelfPlan none shelfScene.disk = .ok files ∧ files.length = 2 ∧
      outcomes.map (·.file) = files ∧ Settles outcomes (perform .none shelfPlace shelfPlan none shelfScene).1 := by
  have hhost : Host.none.KeepsTo Script.SameFile := Host.bare_keepsTo _ false
  have hselect : select shelfPlan none shelfScene.disk = .ok (shelfPlan.scripts shelfDisk) :=
    select_none (f := Path.join "." "a.hls") (by simp [shelfScene, Scene.ofDisk, paths_shelf])
  have hfiles : ∀ file ∈ shelfPlan.scripts shelfDisk, shelfScene.disk.isDirectory (Path.clean file) = true := by
    intro file hfile
    have hmem := mem_paths_of_select hselect hfile
    rw [show shelfScene.disk = shelfDisk from rfl, paths_shelf] at hmem
    rcases List.mem_pair.mp hmem with rfl | rfl
    · exact isDirectory_shelf (.inl rfl)
    · exact isDirectory_shelf (.inr rfl)
  obtain ⟨outcomes, hends, hperform, hfile, -, -, -, hsettles, -, -⟩ :=
    verdict_of_every_order hhost hselect (makeRoot_shelf shelfPlace) Prod.mk.eta.symm (.inl rfl)
      (caught_of_directories rfl hfiles)
  refine ⟨_, outcomes, hselect, ?_, hfile, ?_⟩
  · rw [Plan.scripts, List.length_mergeSort, paths_shelf]
    rfl
  · rw [hperform]
    exact hsettles _ _ hends

end Run

end Rehearsal
