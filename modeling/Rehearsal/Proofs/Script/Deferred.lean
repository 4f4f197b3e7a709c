import Rehearsal.Proofs.Script.Collapse

/-!
# What is left to do in the end

What was arranged for the end of a script is done with the latest first, and what is arranged while it is done comes before
all that was arranged earlier: `Deferred.chain` has it in that order. The first that fails is the last that is done
(`run_runDeferred`), and unless it is a skip or one of golden files, it fails the script (`run_takeDown_chain`). So
`perform_calls_deferred` says what of the chain is done, and how the script ends.

Two scripts on which this falls short of what is arranged are in `deferred_dropped`.
-/

namespace Rehearsal

open Step (eval Keeps Lasting)

namespace Deferred

/-! ## The chain -/

/-- What is noted when it is done. -/
def note : Deferred → String
  | .mk note _ _ _ => note

/-- The line it writes. -/
def line : Deferred → Option String
  | .mk _ line _ _ => line

/-- What it arranges, the latest first. -/
def more : Deferred → List Deferred
  | .mk _ _ more _ => more

/-- What it fails with. -/
def fault? : Deferred → Option Fault
  | .mk _ _ _ fault => fault

/-- Things that are left to do, the latest first, and all that they arrange, in the order in which all of it is done. -/
def chain : List Deferred → List Deferred
  | [] => []
  | .mk note line more fault :: rest => .mk note line more fault :: (chain more ++ chain rest)

/-- Things that are done one after the other up to the first that fails. -/
def called : List Deferred → List Deferred
  | [] => []
  | d :: rest => d :: if d.fault?.isSome then [] else called rest

/-- The fault of the first that fails. -/
def fault (ds : List Deferred) : Option Fault := ds.findSome? fault?

theorem chain_append (front back : List Deferred) : chain (front ++ back) = chain front ++ chain back := by
  induction front with
  | nil => rw [List.nil_append, chain, List.nil_append]
  | cons d rest ih =>
    obtain ⟨note, line, more, fault⟩ := d
    rw [List.cons_append, chain, chain, ih, List.cons_append, List.append_assoc]

/-- What was arranged last is done first, and what it arranges comes on top of the rest. -/
theorem chain_cons (d : Deferred) (rest : List Deferred) : chain (d :: rest) = d :: chain (d.more ++ rest) := by
  obtain ⟨note, line, more, fault⟩ := d
  rw [chain, chain_append]
  rfl

/-- Behind what fails nothing is done, and behind what does not all that would be done anyway. -/
theorem called_append (front back : List Deferred) :
    called (front ++ back) = called front ++ if (fault front).isSome then [] else called back := by
  induction front with
  | nil => rfl
  | cons d rest ih =>
    rw [List.cons_append, called, called, fault, List.findSome?_cons, ← fault, ih]
    cases d.fault? <;> simp

/-- All is done unless one that is not the last fails. -/
theorem called_eq_iff {ds : List Deferred} : called ds = ds ↔ ∀ d ∈ ds.dropLast, d.fault? = none := by
  induction ds with
  | nil => simp [called]
  | cons d rest ih =>
    cases rest with
    | nil => simp [called]
    | cons e rest =>
      rw [called, List.dropLast_cons_cons, List.forall_mem_cons, ← ih]
      cases d.fault? <;> simp

end Deferred

/-- Whether a fault goes beyond a script that it is met at the end of. -/
def Fault.leaves : Fault → Bool
  | .skip _ | .integrity _ => true
  | _ => false

namespace Script

/-! ## Doing it -/

/-- A script that has noted things, and whose transcript is what it is. -/
def withNotes (notes : List String) (log : Transcript) (s : Script) : Script :=
  { s with log, scene := { s.scene with notes := s.scene.notes ++ notes } }

theorem withNotes_withNotes (front back : List String) (log log' : Transcript) (s : Script) :
    (s.withNotes front log).withNotes back log' = s.withNotes (front ++ back) log' := by
  simp only [withNotes, List.append_assoc]

/-- A script in which things that were left to do are done. -/
def afterAll (ds : List Deferred) (s : Script) : Script := ds.foldl (fun s d => s.noted d.note d.line) s

theorem noted_eq (note : String) (line : Option String) (s : Script) : ∃ log, s.noted note line = s.withNotes [note] log := by
  cases line with
  | none => exact ⟨s.log, rfl⟩
  | some text => exact ⟨_, rfl⟩

/-- A script in which things are done has noted them in their order. -/
theorem afterAll_eq (ds : List Deferred) (s : Script) : ∃ log, s.afterAll ds = s.withNotes (ds.map (·.note)) log := by
  induction ds generalizing s with
  | nil => exact ⟨s.log, by rw [List.map_nil, withNotes, List.append_nil]; rfl⟩
  | cons d rest ih =>
    obtain ⟨log, hnoted⟩ := noted_eq d.note d.line s
    obtain ⟨log', hrest⟩ := ih (s.noted d.note d.line)
    refine ⟨log', ?_⟩
    rw [afterAll, List.foldl_cons, ← afterAll, hrest, hnoted, withNotes_withNotes]
    rfl

theorem afterAll_append (front back : List Deferred) (s : Script) :
    s.afterAll (front ++ back) = (s.afterAll front).afterAll back := List.foldl_append

/-- **What is left to do is done in the order of the chain, up to the first that fails.** -/
theorem run_runDeferred (ds : List Deferred) (s : Script) :
    (runDeferred ds).run s =
      (Deferred.fault (Deferred.chain ds), s.afterAll (Deferred.called (Deferred.chain ds))) := by
  induction ds using Deferred.chain.induct generalizing s with
  | case1 => rw [runDeferred, Deferred.chain]; rfl
  | case2 note line more fault rest ihmore ihrest =>
    rw [run_runDeferred_cons, Deferred.chain]
    cases fault with
    | some f => rfl
    | none =>
      have hfault : Deferred.fault (.mk note line more none :: (Deferred.chain more ++ Deferred.chain rest)) =
          (Deferred.fault (Deferred.chain more)).or (Deferred.fault (Deferred.chain rest)) := List.findSome?_append
      have hcalled : s.afterAll
            (Deferred.called (.mk note line more none :: (Deferred.chain more ++ Deferred.chain rest))) =
          (s.noted note line).afterAll (Deferred.called (Deferred.chain more ++ Deferred.chain rest)) := rfl
      rw [hfault, hcalled, Deferred.called_append, afterAll_append, ihmore]
      cases Deferred.fault (Deferred.chain more) with
      | some f => rfl
      | none => exact ihrest _

/-- What a fault at the end of a script means for it. -/
def downfall : Option Fault → Except Fault Bool
  | none => .ok false
  | some f => if f.leaves then .error f else .ok true

theorem run_judgeDeferred (f : Fault) (s : Script) :
    ∃ log, (judgeDeferred f).run s = (downfall (some f), { s with log }) := by
  cases f with
  | accident | misuse | words | unknownCommand | unknownCondition | unknownFunction | request | mismatch | timeout =>
    exact ⟨_, rfl⟩
  | skip | integrity => exact ⟨s.log, rfl⟩

/-- A script without the programs beside it, if there are any. -/
def alone (s : Script) : Script := if s.background.isEmpty then s else (dismiss.run s).2

/-- However what was left to do has ended, the programs beside a script are stopped. -/
theorem run_takeDown_eq (s : Script) :
    takeDown.run s =
      match (runDeferred s.deferred).run { s.withoutTimer with deferred := [] } with
      | (none, t) => (.ok false, t.alone.markTime)
      | (some f, t) => (((judgeDeferred f).run t).1, ((judgeDeferred f).run t).2.alone.markTime) := by
  rw [takeDown, Step.run_bind, StateT.run_get]
  dsimp only [pure]
  rw [Step.run_bind, StateT.run_modify]
  dsimp only [pure]
  rw [Step.run_bind]
  have hend : ∀ (result : Except Fault Bool) (t : Script),
      (do unless (← get).background.isEmpty do dismiss
          modify (·.markTime)
          return result : StateM Script (Except Fault Bool)).run t = (result, t.alone.markTime) := by
    intro result t
    rw [Step.run_bind, StateT.run_get, alone]
    dsimp only [pure]
    cases t.background.isEmpty <;> rfl
  rcases (runDeferred s.deferred).run { s.withoutTimer with deferred := [] } with ⟨f?, t⟩
  cases f? with
  | none => exact hend (.ok false) t
  | some f => exact hend _ _

/-- **A script is taken down by doing what is left to do and abandoning it.** -/
theorem run_takeDown_chain (s : Script) :
    let chain := Deferred.chain s.deferred
    ∃ log, takeDown.run s = (downfall (Deferred.fault chain),
      (s.withNotes ((Deferred.called chain).map (·.note)) log).abandoned.markTime) := by
  intro chain
  obtain ⟨log, hall⟩ := afterAll_eq (Deferred.called chain) { s.withoutTimer with deferred := [] }
  rw [run_takeDown_eq, run_runDeferred, hall]
  cases Deferred.fault chain with
  | none => exact ⟨log, rfl⟩
  | some f =>
    dsimp only
    obtain ⟨log', hjudge⟩ :=
      run_judgeDeferred f (withNotes ((Deferred.called chain).map (·.note)) log { s.withoutTimer with deferred := [] })
    rw [hjudge]
    exact ⟨log', rfl⟩

/-! ## How a script ends -/

/-- A script that has noted what it had. -/
def SameNotes (s t : Script) : Prop := t.scene.notes = s.scene.notes

instance : CoversCourse SameNotes where
  refl _ := rfl
  trans h h' := h'.trans h
  change h := by cases h <;> rfl
  course _ _ _ _ _ _ _ := rfl

/-- How a performance is judged is written, and nothing else happens. -/
theorem execute_eq (host : Host) (s : Script) :
    ∃ log, ((execute host).run s).2 = (eval (performAll host) s).2.withNotes [] log := by
  have hwritten : ∀ (t : Script) log, ({ t with log } : Script) = t.withNotes [] log := by
    intro t log
    rw [withNotes, List.append_nil]
  simp only [← hwritten]
  rw [run_execute]
  rcases eval (performAll host) s with ⟨f | u, t⟩
  · cases f with
    | skip reason => exact ⟨_, rfl⟩
    | misuse | words | unknownCommand | unknownCondition | unknownFunction | request | mismatch | timeout => exact ⟨_, rfl⟩
    | integrity | accident => exact ⟨t.log, rfl⟩
  · exact ⟨t.log, rfl⟩

/-- A script that is over has noted what was done in the end, and was abandoned. -/
theorem perform_eq (host : Host) (s : Script) :
    ∃ notes log, ((perform host).run s).2 = ((eval (performAll host) s).2.withNotes notes log).abandoned.markTime := by
  obtain ⟨log, hexecute⟩ := execute_eq host s
  obtain ⟨log', hdown⟩ := run_takeDown_chain ((execute host).run s).2
  rw [run_perform rfl hdown, hexecute, withNotes_withNotes]
  exact ⟨_, log', rfl⟩

/-- How a script ends, given how it has ended before what was left to do and what of that has failed. -/
def verdict (ended : Except Fault Status) : Option Fault → Except Fault Status
  | none => ended
  | some f => if f.leaves then .error f else ended.map fun _ => .fail

theorem status_concluded (ended : Except Fault Status) (f? : Option Fault) (s : Script) :
    (concluded (downfall f?) ended s).map (·.status) = verdict ended f? := by
  cases f? with
  | none => cases ended <;> rfl
  | some f =>
    rw [downfall, verdict]
    cases f.leaves
    · cases ended <;> rfl
    · cases ended <;> rfl

/-- What becomes of a script by what is left to do in the end. -/
theorem perform_chain (host : Host) (s : Script) :
    let ended := (execute host).run s
    let chain := Deferred.chain ended.2.deferred
    ((perform host).run s).2.scene.notes = ended.2.scene.notes ++ (Deferred.called chain).map (·.note) ∧
      ((perform host).run s).1.map (·.status) = verdict ended.1 (Deferred.fault chain) := by
  intro ended chain
  obtain ⟨log, hdown⟩ := run_takeDown_chain ended.2
  have hexecute : (execute host).run s = (ended.1, ended.2) := rfl
  have hrun := run_perform hexecute hdown
  have habandoned := covers_abandoned (R := SameNotes) (fun _ => rfl)
    (ended.2.withNotes ((Deferred.called chain).map (·.note)) log)
  rw [hrun]
  refine ⟨?_, status_concluded _ _ _⟩
  rw [markTime_eq]
  exact habandoned

/-- **What is left to do in the end is done the latest first, what it arranges before the rest, up to the first that fails.**
So all of it is done unless one fails that is not the last. One that fails makes the script fail, unless its fault is a skip
or one of golden files: that goes beyond the script. -/
theorem perform_calls_deferred (host : Host) (s : Script) :
    let ended := (execute host).run s
    let chain := Deferred.chain ended.2.deferred
    ((perform host).run s).2.scene.notes = ended.2.scene.notes ++ (Deferred.called chain).map (·.note) ∧
      (Deferred.called chain = chain ↔ ∀ d ∈ chain.dropLast, d.fault? = none) ∧
      ((perform host).run s).1.map (·.status) = verdict ended.1 (Deferred.fault chain) := by
  intro ended chain
  obtain ⟨hnotes, hstatus⟩ := perform_chain host s
  exact ⟨hnotes, Deferred.called_eq_iff, hstatus⟩

/-! ## A script that leaves something to do -/

/-- A host that arranges things to be done in the end, one after the other. -/
def arranging (ds : List Deferred) : Host := { Host.none with dresser? := some (ds.forM Dressing.arrange) }

theorem arranging_keepsTo (R : Script → Script → Prop) (ds : List Deferred) : (arranging ds).KeepsTo R :=
  ⟨fun _ _ h => (nomatch h), fun _ _ h => (nomatch h)⟩

theorem run_arrange (ds : List Deferred) (d : Dressing) :
    (ds.forM Dressing.arrange).run d = (.ok (), { d with deferred := ds.reverse ++ d.deferred }) := by
  induction ds generalizing d with
  | nil => rfl
  | cons later rest ih =>
    have hrest := ih { d with deferred := later :: d.deferred }
    rw [List.reverse_cons, List.append_assoc]
    exact hrest

/-- A script with a header for its only line, dressed by such a host. -/
def arranged (ds : List Deferred) : Script :=
  let begun := (sample .usual headerText).begun headerFront none
  begun.withDressing { begun.dressing with deferred := ds.reverse }

theorem setUp_arranging (ds : List Deferred) :
    eval (setUp (arranging ds)) (sample .usual headerText) = (.ok "# a\n", arranged ds) := by
  have hdress : eval (dress (arranging ds)) ((sample .usual headerText).begun headerFront none) = (.ok (), arranged ds) := by
    rw [dress, arranging]
    dsimp only
    rw [Step.eval_get_bind, run_arrange, show ((sample .usual headerText).begun headerFront none).dressing.deferred = [] from rfl,
      List.append_nil]
    rfl
  rw [eval_setUp_dress begins_header, show headerFront.archive.files = [] from rfl, eval_extractAll_nil]
  dsimp only
  rw [hdress]

theorem execute_arranging (ds : List Deferred) :
    ∃ t, (execute (arranging ds)).run (sample .usual headerText) = (.ok .pass, t) ∧ t.deferred = ds.reverse ∧
      t.scene.notes = [] := by
  have htimer : eval startTimer (arranged ds) = (.ok (), arranged ds) := eval_startTimer_of_none rfl rfl
  have hshow : eval (showVariables (arranging ds)) (arranged ds) = (.ok (), arranged ds) := eval_showVariables rfl rfl
  have hanchored := keeps_performText (arranging_keepsTo Anchored ds) "# a\n" (arranged ds)
  have hnotes := keeps_performText (arranging_keepsTo SameNotes ds) "# a\n" (arranged ds)
  obtain ⟨t, u, hvisits, -, -, -⟩ := visits_header (p := performer (arranging ds)) (s := arranged ds) ⟨rfl, rfl⟩ rfl
  have hended : (eval (performText (arranging ds) "# a\n") (arranged ds)).1 = .ok () := by
    rw [eval_performText, eval_performLines, hvisits]
    rfl
  have hall := eval_performAll (setUp_arranging ds) htimer hshow
  rw [eval_storeUpdates_of_nil (hanchored.updates rfl), hended] at hall
  exact ⟨_, by rw [run_execute, hall], hanchored.deferred, hnotes⟩

/-- Something to be done in the end, and something arranged after it that fails. -/
def failing : List Deferred := [.mk "a" none [] none, .mk "b" none [] (some (.mismatch (.host "b")))]

/-- Something to be done in the end that asks for the script to be skipped. -/
def skipping : List Deferred := [.mk "x" none [] (some (.skip "x"))]

/-- What fails keeps what was arranged before it from being done, and a skip leaves the script. -/
theorem deferred_dropped :
    ((execute (arranging failing)).run (sample .usual headerText)).2.deferred.map (·.note) = ["b", "a"] ∧
      ((perform (arranging failing)).run (sample .usual headerText)).2.scene.notes = ["b"] ∧
      ((perform (arranging skipping)).run (sample .usual headerText)).1 = .error (.skip "x") := by
  obtain ⟨t, hfailing, hleft, hnotes⟩ := execute_arranging failing
  obtain ⟨u, hskipping, hskip, -⟩ := execute_arranging skipping
  have hdone := (perform_chain (arranging failing) (sample .usual headerText)).1
  have hended := (perform_chain (arranging skipping) (sample .usual headerText)).2
  rw [hfailing, hleft, hnotes] at hdone
  rw [hskipping, hskip] at hended
  refine ⟨by rw [hfailing, hleft]; rfl, ?_, ?_⟩
  · rw [hdone]
    simp [failing, Deferred.chain, Deferred.called, Deferred.fault?, Deferred.note]
  · have hverdict : verdict (.ok .pass) (Deferred.fault (Deferred.chain skipping.reverse)) = .error (.skip "x") := by
      simp [skipping, Deferred.chain, Deferred.fault, Deferred.fault?, verdict, Fault.leaves]
    rw [hverdict] at hended
    cases hrun : ((perform (arranging skipping)).run (sample .usual headerText)).1 with
    | ok o =>
      rw [hrun] at hended
      cases hended
    | error f =>
      rw [hrun] at hended
      cases hended
      rfl

end Script

end Rehearsal
