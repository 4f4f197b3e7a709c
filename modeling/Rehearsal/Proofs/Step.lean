import Rehearsal.Script.Basic

/-!
# Steps

A step works on a state, and what it has done stays done when it ends early. `eval` is how a step ends from a state and
the state it leaves; its equations follow a step from one part to the next.

`Keeps R a s` says that the state a step leaves stands in `R` to the one it began with. For a relation that is reflexive
and transitive this goes through sequences and loops, so that a step keeps what all its parts keep. `Fails P a s` says in
the same way how a step may end early.
-/

namespace Rehearsal.Step

variable {ε σ α β : Type}

/-- How a step ends from a state, and the state it leaves. -/
def eval (a : ExceptT ε (StateM σ) α) (s : σ) : Except ε α × σ := a.run.run s

/-- A step that is not left early goes on from where its first part has come to. -/
theorem run_bind (a : StateM σ α) (f : α → StateM σ β) (s : σ) : (a >>= f).run s = (f (a.run s).1).run (a.run s).2 := rfl

section Equations

variable {a : ExceptT ε (StateM σ) α} {f : α → ExceptT ε (StateM σ) β} {s t : σ}

@[simp] theorem eval_pure (x : α) (s : σ) : eval (pure x : ExceptT ε (StateM σ) α) s = (.ok x, s) := rfl

@[simp] theorem eval_throw (e : ε) (s : σ) : eval (throw e : ExceptT ε (StateM σ) α) s = (.error e, s) := rfl

@[simp] theorem eval_get (s : σ) : eval (get : ExceptT ε (StateM σ) σ) s = (.ok s, s) := rfl

@[simp] theorem eval_set (s t : σ) : eval (set t : ExceptT ε (StateM σ) PUnit) s = (.ok ⟨⟩, t) := rfl

@[simp] theorem eval_modify (g : σ → σ) (s : σ) : eval (modify g : ExceptT ε (StateM σ) PUnit) s = (.ok ⟨⟩, g s) := rfl

/-- A step in two parts goes on from where the first has ended. -/
theorem eval_bind (a : ExceptT ε (StateM σ) α) (f : α → ExceptT ε (StateM σ) β) (s : σ) :
    eval (a >>= f) s =
      match eval a s with
      | (.ok x, t) => eval (f x) t
      | (.error e, t) => (.error e, t) := by
  rw [eval, eval, ExceptT.run_bind, StateT.run_bind]
  rcases StateT.run a.run s with ⟨_ | _, t⟩ <;> rfl

theorem eval_bind_of_ok {x : α} (h : eval a s = (.ok x, t)) : eval (a >>= f) s = eval (f x) t := by
  rw [eval_bind, h]

theorem eval_bind_of_error {e : ε} (h : eval a s = (.error e, t)) : eval (a >>= f) s = (.error e, t) := by
  rw [eval_bind, h]

/-- A step in two parts that has ended well consists of two that have. -/
theorem eval_bind_eq_ok {y : β} (h : eval (a >>= f) s = (.ok y, t)) :
    ∃ x u, eval a s = (.ok x, u) ∧ eval (f x) u = (.ok y, t) := by
  rcases ha : eval a s with ⟨e | x, u⟩
  · rw [eval_bind_of_error ha] at h
    cases h
  · exact ⟨x, u, rfl, by rwa [eval_bind_of_ok ha] at h⟩

@[simp] theorem eval_get_bind (f : σ → ExceptT ε (StateM σ) β) (s : σ) : eval (get >>= f) s = eval (f s) s :=
  eval_bind_of_ok (eval_get s)

@[simp] theorem eval_set_bind (t : σ) (f : PUnit → ExceptT ε (StateM σ) β) (s : σ) :
    eval (set t >>= f) s = eval (f ⟨⟩) t :=
  eval_bind_of_ok (eval_set s t)

@[simp] theorem eval_modify_bind (g : σ → σ) (f : PUnit → ExceptT ε (StateM σ) β) (s : σ) :
    eval (modify g >>= f) s = eval (f ⟨⟩) (g s) :=
  eval_bind_of_ok (eval_modify g s)

@[simp] theorem eval_throw_bind (e : ε) (f : α → ExceptT ε (StateM σ) β) (s : σ) :
    eval (throw e >>= f) s = (.error e, s) :=
  eval_bind_of_error (eval_throw e s)

theorem eval_tryCatch (a : ExceptT ε (StateM σ) α) (f : ε → ExceptT ε (StateM σ) α) (s : σ) :
    eval (tryCatch a f) s =
      match eval a s with
      | (.ok x, t) => (.ok x, t)
      | (.error e, t) => eval (f e) t := by
  simp only [eval, tryCatch, tryCatchThe, MonadExceptOf.tryCatch, ExceptT.tryCatch, ExceptT.run_mk]
  rw [StateT.run_bind]
  rcases h : StateT.run a.run s with ⟨_ | _, t⟩
  all_goals
    have h : StateT.run a s = _ := h
    rw [h]
    rfl

/-- A step that is left with one result when its part has ended well, and with another when that has ended early. -/
theorem eval_try_return (a : ExceptT ε (StateM σ) PUnit) (x : α) (f : ε → α) (s : σ) :
    eval (do try a; return x catch e => return f e) s =
      match eval a s with
      | (.ok _, t) => (.ok x, t)
      | (.error e, t) => (.ok (f e), t) := by
  rcases h : eval a s with ⟨_ | _, t⟩
  all_goals
    have h : a s = _ := h
    simp only [eval, tryCatch, tryCatchThe, MonadExceptOf.tryCatch, ExceptT.tryCatch, ExceptT.run, ExceptT.mk, StateT.run,
      bind, StateT.bind, ExceptT.bind, ExceptT.bindCont, h]
    rfl

/-- A loop without a result of its own ends with the first turn that ends early. -/
theorem eval_forIn_cons {γ : Type} (x : γ) (rest : List γ) (body : γ → ExceptT ε (StateM σ) PUnit) (s : σ) :
    eval (forIn (x :: rest) PUnit.unit fun y _ => do body y; pure (.yield PUnit.unit)) s =
      match eval (body x) s with
      | (.ok _, t) => eval (forIn rest PUnit.unit fun y _ => do body y; pure (.yield PUnit.unit)) t
      | (.error e, t) => (.error e, t) := by
  rw [List.forIn_cons, eval_bind, eval_bind]
  rcases eval (body x) s with ⟨_ | _, t⟩ <;> rfl

end Equations

section Keeps

/-- A relation between what was and what is that holds while nothing happens, and step by step. -/
class Lasting (R : σ → σ → Prop) : Prop where
  refl : ∀ s, R s s
  trans : ∀ {s t u}, R s t → R t u → R s u

/-- The state a step leaves stands in a relation to the one it began with. -/
def Keeps (R : σ → σ → Prop) (a : ExceptT ε (StateM σ) α) (s : σ) : Prop := R s (eval a s).2

variable {R : σ → σ → Prop} {a : ExceptT ε (StateM σ) α} {f : α → ExceptT ε (StateM σ) β} {s t : σ}

theorem keeps_set (h : R s t) : Keeps R (set t : ExceptT ε (StateM σ) PUnit) s := h

theorem keeps_modify {g : σ → σ} (h : R s (g s)) : Keeps R (modify g : ExceptT ε (StateM σ) PUnit) s := h

theorem keeps_liftM {b : StateM σ α} (h : R s (b.run s).2) : Keeps R (liftM b : ExceptT ε (StateM σ) α) s := h

theorem keeps_get_bind {f : σ → ExceptT ε (StateM σ) β} (h : Keeps R (f s) s) : Keeps R (get >>= f) s := by
  rwa [Keeps, eval_get_bind]

variable [Lasting R]

theorem keeps_pure (x : α) (s : σ) : Keeps R (pure x : ExceptT ε (StateM σ) α) s := Lasting.refl s

theorem keeps_throw (e : ε) (s : σ) : Keeps R (throw e : ExceptT ε (StateM σ) α) s := Lasting.refl s

theorem keeps_throw_bind (e : ε) (f : α → ExceptT ε (StateM σ) β) (s : σ) : Keeps R (throw e >>= f) s := by
  rw [Keeps, eval_throw_bind]
  exact Lasting.refl s

/-- A step in two parts keeps what both keep, the second from where the first has ended. -/
theorem keeps_bind (ha : Keeps R a s) (hf : ∀ x t, eval a s = (.ok x, t) → Keeps R (f x) t) : Keeps R (a >>= f) s := by
  rcases h : eval a s with ⟨e | x, t⟩
  · rw [Keeps, eval_bind_of_error h]
    rwa [Keeps, h] at ha
  · rw [Keeps, eval_bind_of_ok h]
    rw [Keeps, h] at ha
    exact Lasting.trans ha (hf x t h)

/-- The second part of a step may rest on what the first has kept. -/
theorem keeps_bind_of_kept (ha : Keeps R a s) (hf : ∀ x t, R s t → Keeps R (f x) t) : Keeps R (a >>= f) s :=
  keeps_bind ha fun x t h => hf x t (by rwa [Keeps, h] at ha)

/-- A step that is caught keeps what it keeps and what is done then keeps. -/
theorem keeps_tryCatch {g : ε → ExceptT ε (StateM σ) α} (ha : Keeps R a s)
    (hg : ∀ e t, eval a s = (.error e, t) → Keeps R (g e) t) : Keeps R (tryCatch a g) s := by
  rw [Keeps, eval_tryCatch]
  rcases h : eval a s with ⟨e | x, t⟩
  · rw [Keeps, h] at ha
    exact Lasting.trans ha (hg e t h)
  · rwa [Keeps, h] at ha

/-- A loop keeps what every turn of it keeps that begins where the ones before have left off. -/
theorem keeps_forIn_of_mem {γ : Type} {l : List γ} {b : β} {body : γ → β → ExceptT ε (StateM σ) (ForInStep β)}
    (h : ∀ x ∈ l, ∀ b t, R s t → Keeps R (body x b) t) : Keeps R (forIn l b body) s := by
  suffices hfrom : ∀ b t, R s t → Keeps R (forIn l b body) t from hfrom b s (Lasting.refl s)
  induction l with
  | nil => exact fun b t _ => keeps_pure b t
  | cons x rest ih =>
    intro b t ht
    rw [List.forIn_cons]
    refine keeps_bind (h x List.mem_cons_self b t ht) fun next u hu => ?_
    have hturn : R t u := by simpa only [Keeps, hu] using h x List.mem_cons_self b t ht
    cases next with
    | done b => exact keeps_pure b u
    | yield b => exact ih (fun y hy => h y (List.mem_cons_of_mem x hy)) b u (Lasting.trans ht hturn)

/-- A loop keeps what every turn of it keeps. -/
theorem keeps_forIn {γ : Type} {l : List γ} {b : β} {body : γ → β → ExceptT ε (StateM σ) (ForInStep β)}
    (h : ∀ x b s, Keeps R (body x b) s) (s : σ) : Keeps R (forIn l b body) s :=
  keeps_forIn_of_mem fun x _ b t _ => h x b t

/-- What every turn of a loop brings about and the turns behind it leave alone is so for all when the loop has ended well. -/
theorem forall_of_forIn_ok {γ : Type} {Q : γ → σ → Prop} {l : List γ} {body : γ → ExceptT ε (StateM σ) PUnit} {u : PUnit}
    (h : eval (forIn l PUnit.unit fun x _ => do body x; pure (.yield PUnit.unit)) s = (.ok u, t))
    (hkeeps : ∀ x ∈ l, ∀ s, Keeps R (body x) s) (hturn : ∀ x s t, eval (body x) s = (.ok ⟨⟩, t) → Q x t)
    (hlast : ∀ x s t, Q x s → R s t → Q x t) : ∀ x ∈ l, Q x t := by
  induction l generalizing s with
  | nil => exact fun x hx => absurd hx List.not_mem_nil
  | cons x rest ih =>
    have hrest := fun y hy => hkeeps y (List.mem_cons_of_mem x hy)
    rw [eval_forIn_cons] at h
    rcases hx : eval (body x) s with ⟨e | _, v⟩
    · rw [hx] at h
      cases h
    · rw [hx] at h
      dsimp only at h
      have hloop : R v t := by
        have hkept : Keeps R (forIn rest PUnit.unit fun x _ => do body x; pure (.yield PUnit.unit)) v :=
          keeps_forIn_of_mem fun y hy _ s _ => keeps_bind (hrest y hy s) fun _ s _ => keeps_pure _ s
        rwa [Keeps, h] at hkept
      intro y hy
      rcases List.mem_cons.mp hy with rfl | hmem
      · exact hlast y v t (hturn y s v hx) hloop
      · exact ih h hrest y hmem

end Keeps

section Fails

/-- However a step ends early from a state, its fault is of a kind. -/
def Fails (P : ε → Prop) (a : ExceptT ε (StateM σ) α) (s : σ) : Prop := ∀ e, (eval a s).1 = .error e → P e

variable {P : ε → Prop} {a : ExceptT ε (StateM σ) α} {f : α → ExceptT ε (StateM σ) β} {s : σ}

theorem Fails.mono {Q : ε → Prop} (h : Fails P a s) (hPQ : ∀ e, P e → Q e) : Fails Q a s := fun e he => hPQ e (h e he)

theorem fails_pure (x : α) (s : σ) : Fails P (pure x : ExceptT ε (StateM σ) α) s := fun _ h => (nomatch h)

theorem fails_throw {e : ε} (h : P e) (s : σ) : Fails P (throw e : ExceptT ε (StateM σ) α) s := by
  rintro _ ⟨⟩
  exact h

theorem fails_throw_bind {e : ε} (h : P e) (f : α → ExceptT ε (StateM σ) β) (s : σ) : Fails P (throw e >>= f) s := by
  rw [Fails, eval_throw_bind]
  rintro _ ⟨⟩
  exact h

/-- A step in two parts fails as one of them does. -/
theorem fails_bind (ha : Fails P a s) (hf : ∀ x t, eval a s = (.ok x, t) → Fails P (f x) t) : Fails P (a >>= f) s := by
  rcases h : eval a s with ⟨e | x, t⟩
  · rw [Fails, eval_bind_of_error h]
    rintro _ ⟨⟩
    exact ha e (by rw [h])
  · rw [Fails, eval_bind_of_ok h]
    exact hf x t h

theorem fails_get_bind {f : σ → ExceptT ε (StateM σ) β} (h : Fails P (f s) s) : Fails P (get >>= f) s := by
  rwa [Fails, eval_get_bind]

theorem fails_set (t s : σ) : Fails P (set t : ExceptT ε (StateM σ) PUnit) s := fun _ h => (nomatch h)

theorem fails_modify (g : σ → σ) (s : σ) : Fails P (modify g : ExceptT ε (StateM σ) PUnit) s := fun _ h => (nomatch h)

theorem fails_liftM (b : StateM σ α) (s : σ) : Fails P (liftM b : ExceptT ε (StateM σ) α) s := fun _ h => (nomatch h)

theorem fails_modify_bind {g : σ → σ} {f : PUnit → ExceptT ε (StateM σ) β} (h : Fails P (f ⟨⟩) (g s)) :
    Fails P (modify g >>= f) s := by
  rwa [Fails, eval_modify_bind]

/-- A loop fails as one of its turns does, each from where the ones before have left off. -/
theorem fails_forIn {R : σ → σ → Prop} [Lasting R] {γ : Type} {l : List γ} {b : β}
    {body : γ → β → ExceptT ε (StateM σ) (ForInStep β)} (hkeeps : ∀ x ∈ l, ∀ b t, R s t → Keeps R (body x b) t)
    (h : ∀ x ∈ l, ∀ b t, R s t → Fails P (body x b) t) : Fails P (forIn l b body) s := by
  suffices hfrom : ∀ b t, R s t → Fails P (forIn l b body) t from hfrom b s (Lasting.refl s)
  induction l with
  | nil => exact fun b t _ => fails_pure b t
  | cons x rest ih =>
    intro b t ht
    rw [List.forIn_cons]
    refine fails_bind (h x List.mem_cons_self b t ht) fun next u hu => ?_
    have hturn : R t u := by simpa only [Keeps, hu] using hkeeps x List.mem_cons_self b t ht
    cases next with
    | done b => exact fails_pure b u
    | yield b =>
      exact ih (fun y hy => hkeeps y (List.mem_cons_of_mem x hy)) (fun y hy => h y (List.mem_cons_of_mem x hy)) b u
        (Lasting.trans ht hturn)

theorem fails_tryCatch {a : ExceptT ε (StateM σ) α} {f : ε → ExceptT ε (StateM σ) α}
    (h : ∀ e t, eval a s = (.error e, t) → Fails P (f e) t) : Fails P (tryCatch a f) s := by
  rcases ha : eval a s with ⟨e | x, t⟩
  · rw [Fails, eval_tryCatch, ha]
    exact h e t ha
  · rw [Fails, eval_tryCatch, ha]
    exact fun _ h => (nomatch h)

end Fails

end Rehearsal.Step

namespace Rehearsal

open Step

/-- How the rest of a script's step goes on after one that is not left early. -/
@[simp] theorem eval_attempt {α : Type} (a : Action α) (s : Script) :
    eval (attempt a) s = (.ok (eval a s).1, (eval a s).2) := rfl

/-- Work with files is done on the disk of the scene, and its refusal is an accident. -/
theorem eval_files {α : Type} (a : Files.Access α) (s : Script) :
    eval (Action.files a) s =
      ((eval a s.scene.disk).1.mapError fun e => .accident (.file e),
        { s with scene := { s.scene with disk := (eval a s.scene.disk).2 } }) := by
  rw [Action.files, eval_get_bind]
  rcases h : eval a s.scene.disk with ⟨_ | _, d⟩
  all_goals
    have h : a.run s.scene.disk = _ := h
    simp only [h]
    rfl

/-- A look at files changes nothing, and its refusal is an accident. -/
theorem eval_look {α : Type} (f : Files.Disk → Except Files.Error α) (s : Script) :
    eval (Action.look f) s = ((f s.scene.disk).mapError fun e => .accident (.file e), s) := by
  rw [Action.look, eval_get_bind]
  cases f s.scene.disk <;> rfl

end Rehearsal
