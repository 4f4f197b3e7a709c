import Rehearsal.Command.Request
import Rehearsal.Proofs.Http.Order
import Rehearsal.Proofs.Step
import Rehearsal.Proofs.Table

/-!
# Named clients are a replay of what was done with them

The operations that have succeeded are the history of the clients (`Clients.performed`). For each name it says which
arguments stand (`Standing`): those of the last `new`, if no `del` has come since, and of every `mod` behind it.

The main law, `clients_replay`: a name is there exactly if arguments stand for it, and its template is what they make of a
fresh one; a request that starts from the name is what they make of it with its own arguments behind them. A script's own
operations and requests are these, and one that fails leaves the script as it was.

The proof keeps a journal for each name while the operations are performed (`replays_after`): one step for each operation,
and the run from it. That files are read the same every time is what makes a replay possible: the reader is one function
throughout.
-/

namespace Rehearsal.Http

variable {ε : Type}

/-! ## Operations -/

/-- What an operation does with a client. -/
inductive Verb where
  | new | mod | del
  deriving DecidableEq, Repr

/-- The word of an operation. -/
def Verb.ofWord? : String → Option Verb
  | "new" => some .new
  | "mod" => some .mod
  | "del" => some .del
  | _ => none

/-- An operation on a named client. -/
structure Operation where
  verb : Verb
  name : String
  args : List String
  deriving DecidableEq, Repr

/-- The operation that words describe. Where no name is given, the usual one is meant. -/
def Operation.ofWords? : List String → Option Operation
  | [] => none
  | [word] => (Verb.ofWord? word).map (⟨·, Clients.defaultName, []⟩)
  | word :: name :: args => (Verb.ofWord? word).map (⟨·, name, args⟩)

/-- What it takes to perform an operation on clients, and the clients then. -/
inductive Performs (read : ReadFile ε) (cs : Clients) : Operation → Clients → Prop where
  | new {name : String} {args : List String} {t : Template} (h : apply read .fresh args = .ok t) :
      Performs read cs ⟨.new, name, args⟩ (Table.insert name t cs)
  | mod {name : String} {args : List String} {old t : Template} (hold : Table.get? name cs = some old)
      (h : apply read old args = .ok t) : Performs read cs ⟨.mod, name, args⟩ (Table.insert name t cs)
  | del {name : String} {args : List String} {old : Template} (hold : Table.get? name cs = some old) :
      Performs read cs ⟨.del, name, args⟩ (Table.erase name cs)

/-- Clients are managed by performing the operation that the words describe, or not at all. -/
theorem performs_of_manage {read : ReadFile ε} {cs cs' : Clients} {words : List String}
    (h : cs.manage read words = .ok cs') : ∃ o, Operation.ofWords? words = some o ∧ Performs read cs o cs' := by
  cases words with
  | nil => cases h
  | cons word more =>
    have hwords : ∀ {verb : Verb}, Verb.ofWord? word = some verb →
        Operation.ofWords? (word :: more) = some ⟨verb, more.head?.getD Clients.defaultName, more.drop 1⟩ := fun hverb => by
      cases more <;> simp [Operation.ofWords?, hverb]
    rw [Clients.manage] at h
    split at h
    next hnew =>
      split at h
      next t happly =>
        cases h
        exact ⟨_, hwords (by rw [eq_of_beq hnew]; rfl), .new happly⟩
      next => cases h
    split at h
    next hmod =>
      split at h
      next => cases h
      next old hold =>
        split at h
        next t happly =>
          cases h
          exact ⟨_, hwords (by rw [eq_of_beq hmod]; rfl), .mod hold happly⟩
        next => cases h
    split at h
    next hdel =>
      split at h
      next hthere =>
        cases h
        obtain ⟨old, hold⟩ := Option.isSome_iff_exists.mp hthere
        exact ⟨_, hwords (by rw [eq_of_beq hdel]; rfl), .del hold⟩
      next => cases h
    next => cases h

/-! ## Histories -/

/-- What is done with named clients: an operation, in words that may describe none, or a request that is described. -/
inductive Use where
  | manage (words : List String)
  | request (args : List String)

namespace Clients

/-- The clients when they have been used. -/
def after (read : ReadFile ε) (cs : Clients) : Use → Clients
  | .manage words =>
    match cs.manage read words with
    | .ok cs' => cs'
    | .error _ => cs
  | .request _ => cs

/-- The operations that have succeeded while clients were used, in their order. -/
def performed (read : ReadFile ε) (cs : Clients) : List Use → List Operation
  | [] => []
  | .manage words :: rest =>
    match cs.manage read words with
    | .ok cs' => (Operation.ofWords? words).toList ++ performed read cs' rest
    | .error _ => performed read cs rest
  | .request _ :: rest => performed read cs rest

end Clients

/-- Operations that leave a name where it is and only add to what it was given. -/
def Continues (name : String) (given args : List String) (done : List Operation) : Prop :=
  (∀ o ∈ done, o.name = name → o.verb = .mod) ∧ args = given ++ (done.filter (·.name == name)).flatMap Operation.args

/-- The arguments that stand for a name after operations: those of a `new` with no other and no `del` behind it, and of every
`mod` that is. -/
def Standing (name : String) (args : List String) (done : List Operation) : Prop :=
  ∃ front given back, done = front ++ ⟨.new, name, given⟩ :: back ∧ Continues name given args back

/-! ## A journal for each name -/

variable {name : String} {given args : List String} {o : Operation} {done : List Operation}

theorem continues_nil : Continues name given args [] ↔ args = given := by simp [Continues]

theorem continues_cons : Continues name given args (o :: done) ↔
    if o.name = name then o.verb = .mod ∧ Continues name (given ++ o.args) args done else Continues name given args done := by
  by_cases hname : o.name = name
  · simp [Continues, hname, and_assoc]
  · simp [Continues, hname]

theorem not_standing_nil : ¬Standing name args [] := by simp [Standing]

theorem standing_cons : Standing name args (o :: done) ↔
    (∃ given, o = ⟨.new, name, given⟩ ∧ Continues name given args done) ∨ Standing name args done := by
  constructor
  · rintro ⟨front, given, back, hdone, hback⟩
    cases front with
    | nil =>
      obtain ⟨rfl, rfl⟩ := List.cons.inj hdone
      exact .inl ⟨given, rfl, hback⟩
    | cons first front =>
      obtain ⟨rfl, rfl⟩ := List.cons.inj hdone
      exact .inr ⟨front, given, back, rfl, hback⟩
  · rintro (⟨given, rfl, hback⟩ | ⟨front, given, back, rfl, hback⟩)
    · exact ⟨[], given, done, rfl, hback⟩
    · exact ⟨o :: front, given, back, rfl, hback⟩

/-- What is noted for a name when an operation has been performed. -/
def Operation.note (name : String) (noted : Option (List String)) (o : Operation) : Option (List String) :=
  if o.name = name then
    match o.verb with
    | .new => some o.args
    | .mod => noted.map (· ++ o.args)
    | .del => none
  else noted

/-- What is noted for a name is what stands for it, or what was noted before and has only been added to. -/
theorem foldl_note_eq_some_iff {noted : Option (List String)} :
    done.foldl (Operation.note name) noted = some args ↔
      Standing name args done ∨ ∃ given, noted = some given ∧ Continues name given args done := by
  induction done generalizing noted with
  | nil => simp [not_standing_nil, continues_nil]
  | cons o rest ih =>
    rw [List.foldl_cons, ih, standing_cons, Operation.note]
    simp only [continues_cons]
    obtain ⟨verb, other, more⟩ := o
    by_cases hname : other = name
    · subst hname
      cases verb with
      | new => simp [or_comm]
      | mod => cases noted <;> simp
      | del => simp
    · simp [hname]

/-- Arguments behind others are applied to what these come to. -/
theorem apply_append (read : ReadFile ε) (t : Template) (args more : List String) :
    apply read t (args ++ more) = (apply read t args).bind fun u => apply read u more := by
  induction args generalizing t with
  | nil => rfl
  | cons arg rest ih =>
    rw [List.cons_append, apply_cons, apply_cons]
    cases change read arg with
    | error e => rfl
    | ok f => exact ih (f t)

/-- The clients that the arguments in a journal make of fresh templates. -/
def Replays (read : ReadFile ε) (cs : Clients) (journal : String → Option (List String)) : Prop :=
  ∀ name, match journal name with
    | none => Table.get? name cs = none
    | some args => ∃ t, Table.get? name cs = some t ∧ apply read .fresh args = .ok t

/-- **An operation that is performed is noted for its name and for no other.** -/
theorem Replays.performs {read : ReadFile ε} {cs cs' : Clients} {journal : String → Option (List String)}
    (h : Replays read cs journal) (ho : Performs read cs o cs') :
    Replays read cs' fun name => o.note name (journal name) := by
  intro name
  have hname := h name
  cases ho with
  | @new other args t happly =>
    by_cases hother : other = name
    · simp [Operation.note, hother, Table.get?_insert, happly]
    · simpa [Operation.note, hother, Table.get?_insert] using hname
  | @mod other args old t hold happly =>
    by_cases hother : other = name
    · subst hother
      cases hjournal : journal other with
      | none =>
        rw [hjournal] at hname
        cases hold.symm.trans hname
      | some given =>
        rw [hjournal] at hname
        obtain ⟨u, hu, hgiven⟩ := hname
        cases hold.symm.trans hu
        have happend : apply read .fresh (given ++ args) = .ok t := by rw [apply_append, hgiven, Except.bind, happly]
        simp [Operation.note, Table.get?_insert, hjournal, happend]
    · simpa [Operation.note, hother, Table.get?_insert] using hname
  | @del other old hold =>
    by_cases hother : other = name
    · simp [Operation.note, hother, Table.get?_erase]
    · simpa [Operation.note, hother, Table.get?_erase] using hname

/-- What is noted while clients are used is what has succeeded. -/
theorem Replays.used {read : ReadFile ε} {cs : Clients} {journal : String → Option (List String)}
    (h : Replays read cs journal) (uses : List Use) :
    Replays read (uses.foldl (Clients.after read) cs) fun name =>
      (Clients.performed read cs uses).foldl (Operation.note name) (journal name) := by
  induction uses generalizing cs journal with
  | nil => exact h
  | cons use rest ih =>
    rw [List.foldl_cons]
    cases use with
    | request args => exact ih h
    | manage words =>
      rw [Clients.after, Clients.performed]
      cases hmanage : cs.manage read words with
      | error e => exact ih h
      | ok cs' =>
        obtain ⟨o, hwords, ho⟩ := performs_of_manage hmanage
        rw [hwords]
        exact ih (h.performs ho)

end Rehearsal.Http

namespace Rehearsal

open Step (eval)

/-- What a script does when it uses its clients. -/
def Http.Use.perform : Http.Use → Action Unit
  | .manage words => Command.manageClients words
  | .request args => do
    let _ ← Command.describe args

theorem eval_describe (args : List String) (s : Script) :
    eval (Command.describe args) s = ((s.clients.request s.text args).mapError Command.requestFault, s) := by
  rw [Command.describe, Step.eval_get_bind]
  cases s.clients.request s.text args <;> rfl

/-- **A script that uses its clients changes nothing else**, and not even them when it fails or describes a request. -/
theorem eval_perform (use : Http.Use) (s : Script) :
    (eval use.perform s).2 = { s with clients := s.clients.after s.text use } ∧
      ∀ f, (eval use.perform s).1 = .error f → (eval use.perform s).2 = s := by
  cases use with
  | manage words =>
    rw [Http.Use.perform, Command.manageClients, Step.eval_get_bind, Http.Clients.after]
    cases s.clients.manage s.text words with
    | ok cs => exact ⟨rfl, fun _ h => nomatch h⟩
    | error e => exact ⟨rfl, fun _ _ => rfl⟩
  | request args =>
    rw [Http.Use.perform, Step.eval_bind, eval_describe, Http.Clients.after]
    cases s.clients.request s.text args with
    | ok t => exact ⟨rfl, fun _ h => nomatch h⟩
    | error e => exact ⟨rfl, fun _ _ => rfl⟩

/-- A script that goes on using its clients has those that come of it. -/
theorem foldl_perform (uses : List Http.Use) (s : Script) :
    uses.foldl (fun s use => (eval use.perform s).2) s =
      { s with clients := uses.foldl (Http.Clients.after s.text) s.clients } := by
  induction uses generalizing s with
  | nil => rfl
  | cons use rest ih =>
    rw [List.foldl_cons, List.foldl_cons, (eval_perform use s).1, ih]
    rfl

namespace Http

variable {ε : Type}

/-- **Named clients are a replay of what has succeeded.** Whatever has been done with them, a name is there exactly if the
last `new` or `del` of that name to succeed was a `new`; its template is then what a fresh one becomes by the arguments of
that `new` and of every `mod` of the name that has succeeded since, and a request that starts from the name is described by
these arguments with its own behind them. In a script nothing but an operation that succeeds changes the clients. -/
theorem clients_replay (read : ReadFile ε) (uses : List Use) :
    let cs := uses.foldl (Clients.after read) []
    let done := Clients.performed read [] uses
    (∀ name, (∃ t, Table.get? name cs = some t) ↔ ∃ args, Standing name args done) ∧
      (∀ name args, Standing name args done →
        ∃ t, Table.get? name cs = some t ∧ apply read .fresh args = .ok t ∧
          ∀ more, cs.request read (name :: more) = apply read .fresh (args ++ more)) ∧
      ∀ s : Script,
        uses.foldl (fun s use => (eval use.perform s).2) s =
            { s with clients := uses.foldl (Clients.after s.text) s.clients } ∧
          (∀ (use : Use) f, (eval use.perform s).1 = .error f → (eval use.perform s).2 = s) ∧
          ∀ args, (eval (Use.request args).perform s).2 = s := by
  intro cs done
  have hnone : Replays read [] fun _ => none := fun _ => rfl
  have hreplays : Replays read cs fun name => done.foldl (Operation.note name) none := hnone.used uses
  have hnoted : ∀ {name args}, done.foldl (Operation.note name) none = some args ↔ Standing name args done := fun {_ _} => by
    simp [foldl_note_eq_some_iff]
  have hstanding : ∀ name args, Standing name args done →
      ∃ t, Table.get? name cs = some t ∧ apply read .fresh args = .ok t := fun name args h => by
    have hname := hreplays name
    dsimp only at hname
    rwa [hnoted.mpr h] at hname
  refine ⟨fun name => ⟨?_, ?_⟩, fun name args h => ?_, fun s => ⟨foldl_perform uses s, fun use => (eval_perform use s).2, ?_⟩⟩
  · rintro ⟨t, ht⟩
    have hname := hreplays name
    dsimp only at hname
    cases hjournal : done.foldl (Operation.note name) none with
    | none =>
      rw [hjournal] at hname
      cases hname.symm.trans ht
    | some args => exact ⟨args, hnoted.mp hjournal⟩
  · rintro ⟨args, h⟩
    obtain ⟨t, ht, -⟩ := hstanding name args h
    exact ⟨t, ht⟩
  · obtain ⟨t, ht, hargs⟩ := hstanding name args h
    refine ⟨t, ht, hargs, fun more => ?_⟩
    rw [Clients.request, ht, apply_append, hargs]
    rfl
  · exact fun args => (eval_perform (.request args) s).1

/-- A client that is made and changed, with a change that fails at its second argument, a request that fails, and a name that
is not there to be dropped. -/
theorem clients_replay_api :
    let read : ReadFile String := fun name => .error name
    let uses : List Use := [.manage ["new", "api", "U=http://x/"], .manage ["mod", "api", "M=PUT", "D=@body"],
      .manage ["mod", "api", "POST"], .request ["api", "H=none"], .manage ["del", "other"]]
    Standing "api" ["U=http://x/", "POST"] (Clients.performed read [] uses) ∧
      Table.get? "api" (uses.foldl (Clients.after read) []) =
        some { Template.fresh with url := "http://x/", method := "POST" } := by
  intro read uses
  have hdone : Clients.performed read [] uses = [⟨.new, "api", ["U=http://x/"]⟩, ⟨.mod, "api", ["POST"]⟩] := rfl
  have hstanding : Standing "api" ["U=http://x/", "POST"] (Clients.performed read [] uses) :=
    ⟨[], ["U=http://x/"], [⟨.mod, "api", ["POST"]⟩], hdone, by decide, rfl⟩
  obtain ⟨t, ht, hargs, -⟩ := (clients_replay read uses).2.1 "api" _ hstanding
  have happly : apply read .fresh ["U=http://x/", "POST"] =
      .ok { Template.fresh with url := "http://x/", method := "POST" } := rfl
  cases happly.symm.trans hargs
  exact ⟨hstanding, ht⟩

end Http

end Rehearsal
