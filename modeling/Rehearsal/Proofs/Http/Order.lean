import Rehearsal.Http.Template

/-!
# The order of arguments

Each argument of a request is about one slot of its template: it sets what the slot holds, or adds to it, and neither looks
at the others nor touches them (`exists_update_of_change`). So what a template holds in a slot in the end is what the
arguments about that slot have made of it (`value_apply`), and whether an argument is understood is a matter of its own.

The main law, `apply_perm`, follows slot by slot: arguments may stand in any order, as long as those about one slot stay in
theirs. How a reading fails when an argument is not understood is not said here: that depends on which comes first.
-/

namespace Rehearsal.Http

/-- What a template has a place for. -/
inductive Slot where
  | url | method | body | bodyType | query | headers | files | auth | retry
  deriving DecidableEq, Repr

namespace Slot

/-- What a slot holds. -/
def Value : Slot → Type
  | .url | .method => String
  | .body => Option String
  | .bodyType => Option BodyType
  | .query => List String
  | .headers => Headers
  | .files => List Upload
  | .auth => Option (String × String)
  | .retry => Retry

/-- What a template holds in a slot. -/
def value : (σ : Slot) → Template → σ.Value
  | .url, t => t.url
  | .method, t => t.method
  | .body, t => t.body
  | .bodyType, t => t.bodyType
  | .query, t => t.query
  | .headers, t => t.headers
  | .files, t => t.files
  | .auth, t => t.auth
  | .retry, t => t.retry

/-- A template with something else in a slot, made from what it holds there. -/
def update : (σ : Slot) → (σ.Value → σ.Value) → Template → Template
  | .url, g, t => { t with url := g t.url }
  | .method, g, t => { t with method := g t.method }
  | .body, g, t => { t with body := g t.body }
  | .bodyType, g, t => { t with bodyType := g t.bodyType }
  | .query, g, t => { t with query := g t.query }
  | .headers, g, t => { t with headers := g t.headers }
  | .files, g, t => { t with files := g t.files }
  | .auth, g, t => { t with auth := g t.auth }
  | .retry, g, t => { t with retry := g t.retry }

theorem value_update_self (σ : Slot) (g : σ.Value → σ.Value) (t : Template) : σ.value (σ.update g t) = g (σ.value t) := by
  cases σ <;> rfl

theorem value_update_of_ne {σ τ : Slot} (h : τ ≠ σ) (g : σ.Value → σ.Value) (t : Template) :
    τ.value (σ.update g t) = τ.value t := by
  cases σ <;> cases τ <;> first | rfl | exact absurd rfl h

/-- A template is what it holds in its slots. -/
theorem ext_value {t u : Template} (h : ∀ σ : Slot, σ.value t = σ.value u) : t = u := by
  obtain ⟨method, url, headers, query, body, bodyType, files, auth, retry⟩ := t
  have hurl : url = u.url := h .url
  have hmethod : method = u.method := h .method
  have hbody : body = u.body := h .body
  have htype : bodyType = u.bodyType := h .bodyType
  have hquery : query = u.query := h .query
  have hheaders : headers = u.headers := h .headers
  have hfiles : files = u.files := h .files
  have hauth : auth = u.auth := h .auth
  have hretry : retry = u.retry := h .retry
  subst hurl hmethod hbody htype hquery hheaders hfiles hauth hretry
  rfl

/-! ## What an argument is about -/

/-- The keys of the arguments about a slot, in capitals. -/
def keys : Slot → List String
  | .url => ["U", "URL"]
  | .method => ["M", "METHOD"] ++ methods
  | .body => ["D", "DATA", "S", "SEND"]
  | .bodyType => ["T", "TYPE"]
  | .query => ["Q", "QUERY"]
  | .headers => ["H", "HEADER"]
  | .files => ["F", "FILE"]
  | .auth => ["A", "AUTH"]
  | .retry => ["R", "RETRY"]

/-- The slots. -/
def all : List Slot := [.url, .method, .body, .bodyType, .query, .headers, .files, .auth, .retry]

/-- The slot an argument is about, by what stands in front of its first equals sign: a key in either case, or else what begins
like an address. -/
def ofArgument? (arg : String) : Option Slot :=
  let key := (cutAt '=' arg).1
  (all.find? fun σ => σ.keys.contains (upperCase key)).or (if key.startsWith "http" then some .url else none)

/-- The arguments about a slot, in their order. -/
def addressed (σ : Slot) (args : List String) : List String := args.filter fun arg => ofArgument? arg == some σ

end Slot

/-- The slot that a field stands for. -/
def Field.slot : Field → Slot
  | .url | .bareUrl => .url
  | .bodyType => .bodyType
  | .query => .query
  | .retry => .retry
  | .body => .body
  | .file => .files
  | .auth => .auth
  | .header => .headers
  | .method | .bareMethod _ => .method

/-- No key is one of two slots. -/
theorem Slot.find?_keys {σ : Slot} {k : String} (h : k ∈ σ.keys) :
    (all.find? fun τ => τ.keys.contains k) = some σ := by
  have hkeys : ∀ σ ∈ all, ∀ k ∈ σ.keys, (all.find? fun τ => τ.keys.contains k) = some σ := by decide
  exact hkeys σ (by cases σ <;> decide) k h

theorem Slot.find?_keys_eq_none {k : String} (h : ∀ σ : Slot, k ∉ σ.keys) :
    (all.find? fun τ => τ.keys.contains k) = none := by
  simp [h]

/-- The field that a key names is one of the slot it is a key of. -/
theorem slot_ofKey? (key : String) :
    (Field.ofKey? key).map Field.slot =
      (Slot.all.find? fun σ => σ.keys.contains (upperCase key)).or (if key.startsWith "http" then some .url else none) := by
  rw [Field.ofKey?]
  generalize upperCase key = k, key.startsWith "http" = address
  by_cases hkey : ∃ σ : Slot, k ∈ σ.keys
  · obtain ⟨σ, hσ⟩ := hkey
    rw [Slot.find?_keys hσ]
    revert k
    revert address
    cases σ <;> decide
  · rw [not_exists] at hkey
    rw [Slot.find?_keys_eq_none hkey]
    have hnone : ∀ σ ∈ Slot.all, σ.keys.contains k = false := fun σ _ => by simpa using hkey σ
    simp only [Slot.all, Slot.keys, List.forall_mem_cons, List.contains_append, List.contains_cons, List.contains_nil,
      Bool.or_false, Bool.or_eq_false_iff] at hnone
    simp only [hnone, Bool.or_false, Bool.false_eq_true, if_false]
    cases address <;> rfl

/-! ## What an argument makes of a template -/

variable {ε : Type} {read : ReadFile ε}

/-- A part of a reading that has succeeded, and what is made of it. -/
theorem eq_ok_of_bind {α β : Type} {r : Except (RequestError ε) α} {k : α → Except (RequestError ε) β} {y : β}
    (h : r >>= k = .ok y) : ∃ x, k x = .ok y := by
  cases r with
  | error e => cases h
  | ok x => exact ⟨x, h⟩

/-- **An argument that is understood changes the slot it is about**, and makes what it puts there of what was there. -/
theorem exists_update_of_change {arg : String} {f : Template → Template} (h : change read arg = .ok f) :
    ∃ (σ : Slot) (g : σ.Value → σ.Value), Slot.ofArgument? arg = some σ ∧ f = σ.update g := by
  have hfield : (Field.ofKey? (cutAt '=' arg).1).map Field.slot = Slot.ofArgument? arg := slot_ofKey? _
  rw [change.eq_def] at h
  split at h
  next key rest hcut =>
  rw [hcut] at hfield
  rw [← hfield]
  extract_lets value method at h
  split at h
  next => cases h
  next hkey =>
    cases h
    exact ⟨.url, fun _ => value, congrArg (Option.map Field.slot) hkey, rfl⟩
  next hkey =>
    cases h
    exact ⟨.url, fun _ => arg, congrArg (Option.map Field.slot) hkey, rfl⟩
  next m hkey =>
    cases h
    exact ⟨.method, fun _ => m, congrArg (Option.map Field.slot) hkey, rfl⟩
  next hkey =>
    split at h
    · cases h
    next b _ =>
      cases h
      exact ⟨.bodyType, fun _ => some b, congrArg (Option.map Field.slot) hkey, rfl⟩
  next hkey =>
    obtain ⟨text, h⟩ := eq_ok_of_bind h
    cases h
    exact ⟨.query, fun (old : List String) => old ++ [trim text], congrArg (Option.map Field.slot) hkey, rfl⟩
  next hkey =>
    obtain ⟨retry, h⟩ := eq_ok_of_bind h
    cases h
    exact ⟨.retry, fun _ => retry, congrArg (Option.map Field.slot) hkey, rfl⟩
  next hkey =>
    obtain ⟨text, h⟩ := eq_ok_of_bind h
    cases h
    exact ⟨.body, fun _ => some text, congrArg (Option.map Field.slot) hkey, rfl⟩
  next hkey =>
    split at h
    next front behind _ =>
    extract_lets name fieldName at h
    obtain ⟨content, h⟩ := eq_ok_of_bind h
    cases h
    exact ⟨.files, fun (old : List Upload) => old ++ [_], congrArg (Option.map Field.slot) hkey, rfl⟩
  next hkey =>
    obtain ⟨pair, h⟩ := eq_ok_of_bind h
    cases h
    exact ⟨.auth, fun _ => some pair, congrArg (Option.map Field.slot) hkey, rfl⟩
  next hkey =>
    obtain ⟨pair, h⟩ := eq_ok_of_bind h
    cases h
    exact ⟨.headers, fun (old : Headers) => old ++ [pair], congrArg (Option.map Field.slot) hkey, rfl⟩
  next hkey =>
    split at h
    · cases h
      exact ⟨.method, fun _ => method, congrArg (Option.map Field.slot) hkey, rfl⟩
    · cases h

/-! ## What arguments make of a template -/

theorem apply_cons (t : Template) (arg : String) (rest : List String) :
    apply read t (arg :: rest) = (change read arg).bind fun f => apply read (f t) rest := by
  rw [apply.eq_def]
  dsimp only
  cases change read arg <;> rfl

/-- Arguments are understood if each of them is, whatever template they are for. -/
theorem exists_apply_iff {t : Template} {args : List String} :
    (∃ u, apply read t args = .ok u) ↔ ∀ arg ∈ args, ∃ f, change read arg = .ok f := by
  induction args generalizing t with
  | nil => exact iff_of_true ⟨t, rfl⟩ fun arg h => absurd h List.not_mem_nil
  | cons arg rest ih =>
    rw [apply_cons, List.forall_mem_cons]
    cases change read arg with
    | error e => simp [Except.bind]
    | ok f => simpa [Except.bind] using ih

/-- **What a slot holds in the end is what the arguments about it have made of it**, from a template that holds the same
there. -/
theorem value_apply (σ : Slot) {t u v : Template} {args : List String} (h : apply read t args = .ok v)
    (hvalue : σ.value t = σ.value u) : ∃ w, apply read u (σ.addressed args) = .ok w ∧ σ.value v = σ.value w := by
  induction args generalizing t u with
  | nil =>
    cases h
    exact ⟨u, rfl, hvalue⟩
  | cons arg rest ih =>
    rw [apply_cons] at h
    cases hchange : change read arg with
    | error e =>
      rw [hchange] at h
      cases h
    | ok f =>
      rw [hchange] at h
      obtain ⟨τ, g, harg, rfl⟩ := exists_update_of_change hchange
      by_cases hτ : τ = σ
      · subst hτ
        have haddressed : τ.addressed (arg :: rest) = arg :: τ.addressed rest := List.filter_cons_of_pos (by simp [harg])
        rw [haddressed, apply_cons, hchange]
        exact ih h (by rw [Slot.value_update_self, Slot.value_update_self, hvalue])
      · have haddressed : σ.addressed (arg :: rest) = σ.addressed rest := List.filter_cons_of_neg (by simp [harg, hτ])
        rw [haddressed]
        exact ih h (by rw [Slot.value_update_of_ne (Ne.symm hτ), hvalue])

/-- Arguments about one slot each come to the same template from the same, if those about each slot are the same. -/
theorem apply_congr {t u v : Template} {args args' : List String} (hslot : ∀ σ : Slot, σ.addressed args = σ.addressed args')
    (hu : apply read t args = .ok u) (hv : apply read t args' = .ok v) : u = v := by
  refine Slot.ext_value fun σ => ?_
  obtain ⟨w, hw, hvalue⟩ := value_apply σ hu rfl
  obtain ⟨w', hw', hvalue'⟩ := value_apply σ hv rfl
  rw [hslot σ, hw'] at hw
  cases hw
  rw [hvalue, hvalue']

/-- **The order of arguments matters only within a slot.** Arguments in another order, in which those about one slot stand as
before, come to a template exactly if they did, and to the same one; and whether an argument is understood has nothing to do
with the template it is for. -/
theorem apply_perm (read : ReadFile ε) {args args' : List String} (hperm : args.Perm args')
    (hslot : ∀ σ : Slot, σ.addressed args = σ.addressed args') :
    (∀ t u, apply read t args = .ok u ↔ apply read t args' = .ok u) ∧
      ∀ arg t u, (∃ v, apply read t [arg] = .ok v) ↔ ∃ v, apply read u [arg] = .ok v := by
  have hunderstood : ∀ t, (∃ u, apply read t args = .ok u) ↔ ∃ u, apply read t args' = .ok u := fun t => by
    rw [exists_apply_iff, exists_apply_iff]
    exact ⟨fun h arg harg => h arg (hperm.mem_iff.mpr harg), fun h arg harg => h arg (hperm.mem_iff.mp harg)⟩
  refine ⟨fun t u => ⟨fun h => ?_, fun h => ?_⟩, fun arg t u => ?_⟩
  · obtain ⟨v, hv⟩ := (hunderstood t).mp ⟨u, h⟩
    rw [hv, apply_congr hslot h hv]
  · obtain ⟨v, hv⟩ := (hunderstood t).mpr ⟨u, h⟩
    rw [hv, apply_congr hslot hv h]
  · rw [exists_apply_iff, exists_apply_iff]

/-- An address, a method and two headers in between: the headers keep their order, the others may stand anywhere. -/
theorem apply_perm_headers :
    let read : ReadFile String := fun name => .error name
    let args := ["U=http://x/", "h=A: 1", "POST", "H=B: 2"]
    let args' := ["h=A: 1", "POST", "H=B: 2", "U=http://x/"]
    args.Perm args' ∧ (∀ σ : Slot, σ.addressed args = σ.addressed args') ∧
      apply read .fresh args' =
        .ok { Template.fresh with url := "http://x/", method := "POST", headers := [("A", "1"), ("B", "2")] } := by
  intro read args args'
  have hperm : args.Perm args' := by decide
  have hslot : ∀ σ : Slot, σ.addressed args = σ.addressed args' := fun σ => by cases σ <;> decide
  exact ⟨hperm, hslot, ((apply_perm read hperm hslot).1 _ _).mp rfl⟩

end Rehearsal.Http
