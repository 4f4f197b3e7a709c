import Rehearsal.Proofs.Command.Keeps

/-!
# What happens beside a script

Programs beside a script are started one by one and collected all at once. `Happens s es t` says that from one state of a
script to another these events took place, in this order, and nothing else that changed which programs run: a program was
started because the system did start it, and programs were collected by waiting for each of those that ran.

So what runs beside a script can be read off the events (`Happens.beside`), and what was started is what was collected with
what still runs (`Complete.starts_eq`).

Of the built-in commands `exec` starts programs beside a script and `wait` collects them. A function of the host may do
both, and so may a command of its own; what these do is entered in the host's `Account`. A line that names a command brings
about what is entered there for it, or what `exec` and `wait` do, and nothing else (`brings_dispatch`).
-/

namespace Rehearsal

open Step (eval Keeps Lasting)

/-! ## Events -/

/-- What happens beside a script. -/
inductive Event where
  /-- A program was started. -/
  | started (b : Background)
  /-- Programs were waited for, all of them. -/
  | collected (bs : List Background)

namespace Event

/-- What runs beside a script after some events: what was started since the last collection, in that order. -/
def beside (running : List Background) : List Event → List Background
  | [] => running
  | .started b :: es => beside (running ++ [b]) es
  | .collected _ :: es => beside [] es

/-- Each collection takes all that runs, and nothing else. -/
def Complete (running : List Background) : List Event → Prop
  | [] => True
  | .started b :: es => Complete (running ++ [b]) es
  | .collected bs :: es => bs = running ∧ Complete [] es

/-- The programs that were started, in that order. -/
def starts (es : List Event) : List Background :=
  es.flatMap fun
    | .started b => [b]
    | .collected _ => []

/-- The programs that were collected, in that order. -/
def collections (es : List Event) : List Background :=
  es.flatMap fun
    | .started _ => []
    | .collected bs => bs

variable {running : List Background} {es fs : List Event}

theorem beside_append : beside running (es ++ fs) = beside (beside running es) fs := by
  induction es generalizing running with
  | nil => rfl
  | cons e es ih => cases e <;> exact ih

theorem complete_append : Complete running (es ++ fs) ↔ Complete running es ∧ Complete (beside running es) fs := by
  induction es generalizing running with
  | nil => simp [Complete, beside]
  | cons e es ih =>
    cases e with
    | started b => exact ih
    | collected bs => simp only [List.cons_append, Complete, beside, ih, and_assoc]

/-- **What was started is what was collected, with what still runs.** -/
theorem Complete.starts_eq (h : Complete running es) : running ++ starts es = collections es ++ beside running es := by
  induction es generalizing running with
  | nil => simp [starts, collections, beside]
  | cons e es ih =>
    cases e with
    | started b =>
      have hrest := ih h
      rw [List.append_assoc] at hrest
      exact hrest
    | collected bs =>
      obtain ⟨rfl, hcomplete⟩ := h
      have hrest := ih hcomplete
      rw [List.nil_append] at hrest
      change bs ++ starts es = (bs ++ collections es) ++ beside [] es
      rw [hrest, List.append_assoc]

end Event

open Event (beside Complete)

/-! ## What has happened between two states -/

/-- The programs beside a script are those that were. -/
def SameBackground (s t : Script) : Prop := t.background = s.background

instance : CoversFront SameBackground where
  refl _ := rfl
  trans h h' := h'.trans h
  front _ h := h

/-- What has happened beside a script from one state to another. -/
inductive Happens : Script → List Event → Script → Prop where
  | nothing {s t : Script} (h : SameBackground s t) : Happens s [] t
  | started (m : Modifier) {command : String} {args : List String} {s t : Script} {p : Program.Started}
      (h : eval (Script.launch command args) s = (.ok p, t)) :
      Happens s [.started ⟨command :: args, m, p⟩] { t with background := t.background ++ [⟨command :: args, m, p⟩] }
  | collected (given : Program.Stop) (s : Script) : Happens s [.collected s.background] ((Script.collect given).run s).2
  | trans {s t u : Script} {es fs : List Event} (h : Happens s es t) (h' : Happens t fs u) : Happens s (es ++ fs) u

namespace Happens

variable {s t u : Script} {es : List Event}

theorem quiet (h : Happens s es t) (h' : SameBackground t u) : Happens s es u := by
  simpa using h.trans (.nothing h')

theorem quietly (h : SameBackground s t) (h' : Happens t es u) : Happens s es u := (Happens.nothing h).trans h'

/-- **What runs beside a script is what has happened there.** -/
theorem beside (h : Happens s es t) : Complete s.background es ∧ t.background = beside s.background es := by
  induction h with
  | nothing h => exact ⟨trivial, h⟩
  | @started m command args s t p h =>
    have hlaunch : Keeps SameBackground (Script.launch command args) s := Script.keeps_launch command args s
    rw [Keeps, h] at hlaunch
    refine ⟨trivial, ?_⟩
    change t.background ++ _ = s.background ++ _
    rw [hlaunch]
  | collected given s => exact ⟨⟨rfl, trivial⟩, rfl⟩
  | trans _ _ ih ih' =>
    obtain ⟨hcomplete, hbeside⟩ := ih
    rw [hbeside] at ih'
    exact ⟨Event.complete_append.mpr ⟨hcomplete, ih'.1⟩, ih'.2.trans Event.beside_append.symm⟩

end Happens

/-- Events that a step brings about from a state. -/
def Brings {α : Type} (a : Action α) (s : Script) (es : List Event) : Prop := Happens s es (eval a s).2

section Brings

variable {α β : Type} {a : Action α} {f : α → Action β} {s : Script} {es : List Event}

theorem brings_nothing (h : Keeps SameBackground a s) : Brings a s [] := .nothing h

/-- A step in two parts brings about what the first does, if the second has nothing to do with programs beside the script. -/
theorem Brings.bind (h : Brings a s es) (hf : ∀ x t, Keeps SameBackground (f x) t) : Brings (a >>= f) s es := by
  rw [Brings, Step.eval_bind]
  rw [Brings] at h
  rcases hrun : eval a s with ⟨e | x, t⟩
  · rwa [hrun] at h
  · rw [hrun] at h
    exact h.quiet (hf x t)

theorem Brings.attempt (h : Brings a s es) : Brings (attempt a) s es := h

end Brings

/-! ## What commands do beside a script -/

/-- A host's account of what its commands and functions do beside a script. They can do there what a script can: start
programs, and collect those that run. -/
structure Host.Account (host : Host) where
  command : String → Modifier → List String → Script → List Event
  function : String → List String → Script → List Event
  command_happens : ∀ verb c, Table.get? verb host.commands = some c →
    ∀ m args s, Happens s (command verb m args s) (eval (c m args) s).2
  function_happens : ∀ name f, Table.get? name host.functions = some f →
    ∀ args s, Happens s (function name args s) ((f args).run s).2

/-- The account of a host that has nothing to do with programs beside scripts. -/
def Host.Account.ofQuiet {host : Host} (h : host.KeepsTo SameBackground) : host.Account where
  command _ _ _ _ := []
  function _ _ _ := []
  command_happens verb c hc m args s := .nothing (h.command verb c hc m args s)
  function_happens name f hf args s := .nothing (h.function name f hf args s)

namespace Command

open Script (launch startBeside settle collect)

/-- What is started beside a script, if the system does start it. -/
def startEvents (m : Modifier) (command : String) (args : List String) (s : Script) : List Event :=
  match (eval (launch command args) s).1 with
  | .ok p => [.started ⟨command :: args, m, p⟩]
  | .error _ => []

/-- What `exec` does beside a script: it starts what is to run there. -/
def execEvents (m : Modifier) (args : List String) (s : Script) : List Event :=
  match args with
  | [] => []
  | command :: rest =>
    if args == [besideMark] then []
    else if rest.getLast? == some besideMark then startEvents m command rest.dropLast s
    else []

/-- What `wait` does beside a script: it collects all that runs there, whatever comes of it. -/
def waitEvents (m : Modifier) (args : List String) (s : Script) : List Event :=
  if m == .plain && args.isEmpty then [.collected s.background] else []

/-- What `call` does beside a script: what the function does. -/
def callEvents {host : Host} (a : host.Account) (args : List String) (s : Script) : List Event :=
  match args with
  | [] => []
  | name :: rest => if (Table.get? name host.functions).isSome then a.function name rest s else []

theorem brings_startBeside (m : Modifier) (command : String) (args : List String) (s : Script) :
    Brings (startBeside m command args) s (startEvents m command args s) := by
  have hlaunch : Keeps SameBackground (launch command args) s := Script.keeps_launch command args s
  rw [Brings, startBeside, startEvents, Step.eval_bind]
  rcases h : eval (launch command args) s with ⟨f | p, t⟩
  · rw [Keeps, h] at hlaunch
    exact .nothing hlaunch
  · exact .started m h

theorem brings_execBeside (m : Modifier) (command : String) (args : List String) (s : Script) :
    Brings (execBeside m command args) s (startEvents m command args s) := by
  refine (brings_startBeside m command args s).attempt.bind fun result t => ?_
  extract_lets emptying
  have hemptying : ∀ u, Keeps SameBackground (emptying ()) u := fun u => Step.keeps_modify rfl
  split
  · exact Step.keeps_bind (keeps_notStarted m _ t) fun _ u _ => hemptying u
  · exact hemptying t

theorem brings_exec (m : Modifier) (args : List String) (s : Script) : Brings (exec m args) s (execEvents m args s) := by
  cases args with
  | nil => exact brings_nothing (Step.keeps_throw _ s)
  | cons command rest =>
    simp only [exec, execEvents]
    split
    · exact brings_nothing (Step.keeps_throw _ s)
    split
    · exact brings_execBeside m command _ s
    · exact brings_nothing (keeps_execInFront m command rest s)

theorem brings_settle (s : Script) : Brings settle s [.collected s.background] := by
  have hcollect : Brings (liftM (collect .never) : Action Script.Collection) s [.collected s.background] :=
    .collected .never s
  rw [Script.settle_eq]
  exact hcollect.bind fun c t => Script.keeps_judged c t

theorem brings_wait (m : Modifier) (args : List String) (s : Script) : Brings (wait m args) s (waitEvents m args s) := by
  cases m with
  | plain =>
    cases args with
    | nil => exact brings_settle s
    | cons arg rest => exact brings_nothing rfl
  | negated => exact brings_nothing rfl
  | neutral => exact brings_nothing rfl

theorem brings_callFunction {host : Host} (a : host.Account) (name : String) (args : List String) (s : Script) :
    Brings (callFunction host name args) s
      (if (Table.get? name host.functions).isSome then a.function name args s else []) := by
  cases hfunction : Table.get? name host.functions with
  | none =>
    rw [callFunction, hfunction]
    exact brings_nothing (Step.keeps_throw _ s)
  | some function =>
    have hlift : Brings (ExceptT.lift (function args)) s (a.function name args s) :=
      a.function_happens name function hfunction args s
    rw [callFunction_of_get? hfunction]
    exact hlift.bind fun r t => keeps_returned name r t

theorem brings_call {host : Host} (a : host.Account) (m : Modifier) (args : List String) (s : Script) :
    Brings (call host m args) s (callEvents a args s) := by
  cases args with
  | nil => exact brings_nothing (Step.keeps_throw _ s)
  | cons name rest =>
    rw [call_cons]
    exact (brings_callFunction a name rest s).bind fun c t => keeps_kept m c t

/-- What a line that names a command does beside a script. -/
def events {host : Host} (a : host.Account) (m : Modifier) : List String → Script → List Event
  | [], _ => []
  | "exec" :: args, s => execEvents m args s
  | "wait" :: args, s => waitEvents m args s
  | "call" :: args, s => callEvents a args s
  | verb :: args, s =>
    match Table.get? verb (builtin host), Table.get? verb host.commands with
    | none, some _ => a.command verb m args s
    | _, _ => []

/-- How a command is judged brings nothing about. -/
theorem brings_of_layered {host : Host} {verb : String} {command : Command} {m : Modifier} {args : List String}
    {s : Script} {es : List Event} (hverb : Registry.layered (builtin host) host.commands verb = some command)
    (h : Brings (command m args) s es) : Brings (dispatch host m (verb :: args)) s es := by
  rw [Brings, eval_dispatch hverb]
  rw [Brings] at h
  rcases hrun : eval (command m args) s with ⟨f | u, t⟩
  all_goals rw [hrun] at h
  · have hjudge : Keeps SameBackground (judge m verb f) t := keeps_judge m verb f t
    exact h.quiet hjudge
  · exact h

/-- **A line that names a command brings about what is in the account**, however it ends. -/
theorem brings_dispatch {host : Host} (a : host.Account) (m : Modifier) (words : List String) (s : Script) :
    Brings (dispatch host m words) s (events a m words s) := by
  unfold events
  split
  next => exact brings_nothing (Step.keeps_pure _ s)
  next args => exact brings_of_layered rfl (brings_exec m args s)
  next args => exact brings_of_layered rfl (brings_wait m args s)
  next args => exact brings_of_layered rfl (brings_call a m args s)
  next verb args hexec hwait hcall =>
    have hverb : verb ∉ besideVerbs := by
      simpa [besideVerbs] using ⟨hcall, hexec, hwait⟩
    cases hbuiltin : Table.get? verb (builtin host) with
    | some command =>
      have hcommand : Registry.layered (builtin host) host.commands verb = some command := by
        rw [Registry.layered, hbuiltin]
      exact brings_of_layered hcommand (brings_nothing (keeps_front hbuiltin hverb m args s))
    | none =>
      have hlayered : Registry.layered (builtin host) host.commands verb = Table.get? verb host.commands := by
        rw [Registry.layered, hbuiltin]
      cases hhost : Table.get? verb host.commands with
      | none =>
        rw [Command.dispatch, hlayered, hhost]
        exact brings_nothing (Step.keeps_throw _ s)
      | some command =>
        have hbrings : Brings (command m args) s (a.command verb m args s) := a.command_happens verb command hhost m args s
        exact brings_of_layered (hlayered.trans hhost) hbrings

end Command

end Rehearsal
