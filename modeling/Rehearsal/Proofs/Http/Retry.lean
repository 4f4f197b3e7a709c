import Mathlib.Order.Bounds.Basic
import Rehearsal.Proofs.Http.Draft
import Rehearsal.Proofs.Step

/-!
# Sending again

A draft is sent again as long as the answer asks for it and the count allows. What each attempt comes to depends on the state
its transport is in by then (`attempt`), and the attempts end with the first that is the last one allowed or does not ask for
another (`eval_attempts`): nothing is sent behind it, and its outcome is what counts.

`scripted` is a transport that reacts as it is told beforehand and notes what it was asked for. By it, `performBy_scripted`
says what a request comes to whatever a server does. Before anything is sent the template has to be read, and that fails where
JSON in it holds a number that is too long or stands too deep: then nothing is sent at all (`exists_draft_iff`).
-/

namespace Rehearsal.Http.Exchange

open Step Query

/-! ## Attempts -/

/-- Whether the outcome of an attempt asks for another one. -/
def AsksAgain (codes : List Int) (outcome : Except Break Answer) : Prop := ∃ a, outcome = .ok a ∧ (a.status : Int) ∈ codes

theorem not_asksAgain_error (codes : List Int) (b : Break) : ¬AsksAgain codes (.error b) := by
  rintro ⟨a, h, -⟩
  cases h

theorem asksAgain_ok {codes : List Int} {a : Answer} : AsksAgain codes (.ok a) ↔ codes.contains (a.status : Int) = true := by
  rw [List.contains_iff_mem]
  constructor
  · rintro ⟨b, hb, hmem⟩
    cases hb
    exact hmem
  · intro hmem
    exact ⟨a, rfl, hmem⟩

/-- The first number of two kinds, seen from one further on. -/
theorem isLeast_succ {n k : ℕ} {p : ℕ → Prop} (hzero : ¬p 0) (h : IsLeast {i | i = n ∨ p (i + 1)} k) :
    IsLeast {i | i = n + 1 ∨ p i} (k + 1) := by
  refine ⟨h.1.imp (congrArg (· + 1)) id, ?_⟩
  rintro (_ | i) hi
  · exact absurd (hi.resolve_left (by omega)) hzero
  · exact Nat.succ_le_succ (h.2 (hi.imp (by omega) id))

section Transport

variable {σ : Type} (via : Transport σ) (d : Draft) (r : Retry)

/-- The state of a transport before the attempt of a number, if each so far was followed by a pause. -/
def before (s : σ) : ℕ → σ
  | 0 => s
  | i + 1 => (eval (via.pause r.delay) (eval (via.request d) (before s i)).2).2

/-- What the attempt of a number comes to, and the state after it. -/
def attempt (s : σ) (i : ℕ) : Except Break Answer × σ := eval (via.request d) (before via d r s i)

theorem before_succ_left (s : σ) (i : ℕ) : before via d r s (i + 1) = before via d r (before via d r s 1) i := by
  induction i with
  | zero => rfl
  | succ i ih => exact congrArg (fun s => (eval (via.pause r.delay) (eval (via.request d) s).2).2) ih

theorem attempt_succ_left (s : σ) (i : ℕ) : attempt via d r s (i + 1) = attempt via d r (before via d r s 1) i := by
  rw [attempt, before_succ_left, attempt]

/-- **Attempts end with the first that is the last one allowed or does not ask for another.** -/
theorem eval_attempts (hpause : ∀ s, (eval (via.pause r.delay) s).1 = .ok ()) (n : ℕ) (s : σ) :
    ∃ k, IsLeast {i | i = n ∨ ¬AsksAgain r.codes (attempt via d r s i).1} k ∧
      eval (attempts via d r n) s = attempt via d r s k := by
  induction n generalizing s with
  | zero => exact ⟨0, ⟨.inl rfl, fun _ _ => Nat.zero_le _⟩, rfl⟩
  | succ n ih =>
    rcases hsent : eval (via.request d) s with ⟨outcome, u⟩
    have hfirst : attempt via d r s 0 = (outcome, u) := hsent
    by_cases hasks : AsksAgain r.codes outcome
    · obtain ⟨k, hk, hrest⟩ := ih (before via d r s 1)
      refine ⟨k + 1, isLeast_succ (not_not_intro (by rwa [hfirst])) ?_, ?_⟩
      · simpa only [attempt_succ_left] using hk
      · have hwaited : eval (via.pause r.delay) u = (.ok (), before via d r s 1) := by
          refine Prod.ext (hpause u) ?_
          simp only [before, hsent]
        obtain ⟨a, rfl, -⟩ := id hasks
        rw [attempts, eval_bind_of_ok hsent, if_pos (asksAgain_ok.mp hasks), eval_bind_of_ok hwaited, hrest, attempt_succ_left]
    · refine ⟨0, ⟨.inr (by rwa [hfirst]), fun _ _ => Nat.zero_le _⟩, ?_⟩
      rw [hfirst, attempts]
      cases outcome with
      | error b => rw [eval_bind_of_error hsent]
      | ok a =>
        rw [eval_bind_of_ok hsent, if_neg (mt asksAgain_ok.mpr hasks)]
        rfl

/-- A request is sent if its template can be read. -/
theorem performBy_of_draft {t : Template} {s : Surroundings} (h : Draft.ofTemplate s t = .ok d) (before : σ) :
    (performBy via s t).run before =
      (classify (eval (attempts via d t.retry t.retry.count) before).1,
        (eval (attempts via d t.retry t.retry.count) before).2) := by
  unfold performBy
  rw [h]
  rfl

theorem performBy_of_error {t : Template} {s : Surroundings} {f : Failure} (h : Draft.ofTemplate s t = .error f) (before : σ) :
    (performBy via s t).run before = (.error f, before) := by
  unfold performBy
  rw [h]
  rfl

end Transport

/-! ## Whatever a server does -/

/-- What a server does with a request that was sent: it gives an answer, or the request fails. -/
inductive Reaction where
  | answer (a : Answer)
  | failure (message : String)
  deriving Repr

/-- What a transport is asked to do. -/
inductive Event where
  | request (d : Draft)
  | pause (delay : Float)
  deriving Repr

/-- Whether a request is asked for. -/
def Event.isRequest : Event → Bool
  | .request _ => true
  | .pause _ => false

/-- What a reaction is to an attempt. -/
def Reaction.outcome : Reaction → Except Break Answer
  | .answer a => .ok a
  | .failure message => .error (.error message)

/-- The transport whose requests meet with reactions in turn. It notes what it was asked to do. -/
def scripted (reactions : ℕ → Reaction) : Transport (List Event) where
  request d := do
    let events ← get
    set (events ++ [.request d])
    match reactions (events.countP Event.isRequest) with
    | .answer a => return a
    | .failure message => throw (.error message)
  pause delay := modify (· ++ [.pause delay])

/-- Attempts that were followed by pauses. -/
def rounds (d : Draft) (delay : Float) (n : ℕ) : List Event := (List.replicate n [Event.request d, .pause delay]).flatten

theorem rounds_succ (d : Draft) (delay : Float) (n : ℕ) :
    rounds d delay (n + 1) = rounds d delay n ++ [.request d] ++ [.pause delay] := by
  rw [rounds, List.replicate_succ', List.flatten_concat, rounds, List.append_assoc]
  rfl

theorem countP_rounds (d : Draft) (delay : Float) (n : ℕ) : (rounds d delay n).countP Event.isRequest = n := by
  induction n with
  | zero => rfl
  | succ n ih =>
    rw [rounds_succ, List.countP_append, List.countP_append, ih]
    rfl

theorem eval_request_scripted (reactions : ℕ → Reaction) (d : Draft) (events : List Event) :
    eval ((scripted reactions).request d) events =
      ((reactions (events.countP Event.isRequest)).outcome, events ++ [.request d]) := by
  unfold scripted
  rw [eval_get_bind, eval_set_bind]
  cases reactions (events.countP Event.isRequest) <;> rfl

theorem eval_pause_scripted (reactions : ℕ → Reaction) (delay : Float) (events : List Event) :
    eval ((scripted reactions).pause delay) events = (.ok (), events ++ [.pause delay]) := rfl

theorem before_scripted (reactions : ℕ → Reaction) (d : Draft) (r : Retry) (n : ℕ) :
    before (scripted reactions) d r [] n = rounds d r.delay n := by
  induction n with
  | zero => rfl
  | succ n ih => rw [before, ih, eval_request_scripted, eval_pause_scripted, rounds_succ]

theorem attempt_scripted (reactions : ℕ → Reaction) (d : Draft) (r : Retry) (n : ℕ) :
    attempt (scripted reactions) d r [] n = ((reactions n).outcome, rounds d r.delay n ++ [.request d]) := by
  rw [attempt, before_scripted, eval_request_scripted, countP_rounds]

/-- What there is to tell of an answer with a text: the text and a line's end where they belong, and what went wrong if the
status says so. -/
def Answer.told (a : Answer) (text : String) : Result :=
  if a.status < 400 then ⟨text ++ "\n", "", a.status, none⟩
  else
    let kind := if a.status < 500 then "Bad Request" else "Internal Error"
    ⟨"", text ++ "\n", a.status, some (kind ++ ":\nHTTP " ++ toString a.status ++ "\n" ++ text ++ "\n")⟩

/-- Whether a result is what there is to tell of a reaction. -/
def Reaction.IsToldBy (r : Result) : Reaction → Prop
  | .failure message => r = ⟨"", "", 0, if isIdleClose message then none else some ("Internal Error:\n" ++ message ++ "\n")⟩
  | .answer a => ∃ text, a.text = .ok text ∧ r = a.told text

theorem Answer.result_of_text {a : Answer} {text : String} (h : a.text = .ok text) : a.result = .ok (a.told text) := by
  have hself : ∀ s : String, toString s = s := fun _ => rfl
  unfold Answer.result Answer.told
  rw [h]
  by_cases hinternal : 500 ≤ a.status
  · have h400 : ¬a.status < 400 := by omega
    have h500 : ¬a.status < 500 := by omega
    simp [hinternal, h400, h500, bind, Except.bind, pure, Except.pure, hself, String.append_assoc]
  · by_cases hbad : 400 ≤ a.status
    · have h400 : ¬a.status < 400 := by omega
      have h500 : a.status < 500 := by omega
      simp [hinternal, hbad, h400, h500, bind, Except.bind, pure, Except.pure, hself, String.append_assoc]
    · have h400 : a.status < 400 := by omega
      simp [hinternal, hbad, h400, bind, Except.bind, pure, Except.pure]

/-- A reaction is told of, unless it is an answer that cannot be taken for text. -/
theorem Reaction.classify_outcome (r : Reaction) :
    (∃ res, classify r.outcome = .ok res ∧ r.IsToldBy res) ∨
      ∃ a f, r = .answer a ∧ a.text = .error f ∧ classify r.outcome = .error f := by
  cases r with
  | failure message => exact .inl ⟨errorResult message, rfl, rfl⟩
  | answer a =>
    cases htext : a.text with
    | error f =>
      refine .inr ⟨a, f, rfl, htext, ?_⟩
      simp only [Reaction.outcome, classify, Answer.result, htext]
      rfl
    | ok text =>
      exact .inl ⟨a.told text, Answer.result_of_text htext, text, htext, rfl⟩

theorem not_asksAgain_outcome {codes : List Int} {r : Reaction} :
    ¬AsksAgain codes r.outcome ↔ ∀ a, r = .answer a → (a.status : Int) ∉ codes := by
  cases r with
  | failure message => simp [Reaction.outcome, not_asksAgain_error]
  | answer a => simp [Reaction.outcome, asksAgain_ok]

/-- **A request is sent again as long as the answers ask for it and the count allows**, whatever the reactions to it are. -/
theorem performBy_scripted (reactions : ℕ → Reaction) (s : Surroundings) {t : Template} (hurl : t.url ≠ "") :
    let run := (performBy (scripted reactions) s t).run []
    (Readable t → ∃ d k, Draft.ofTemplate s t = .ok d ∧
      IsLeast {i | i = t.retry.count ∨ ∀ a, reactions i = .answer a → (a.status : Int) ∉ t.retry.codes} k ∧
      run.2 = rounds d t.retry.delay k ++ [.request d] ∧
      ((∃ res, run.1 = .ok res ∧ (reactions k).IsToldBy res) ∨
        ∃ a f, reactions k = .answer a ∧ a.text = .error f ∧ run.1 = .error f)) ∧
    (¬Readable t → run.2 = [] ∧
      ∃ e, run.1 = .error (.query e) ∧ ∃ text ∈ t.query ++ t.body.toList, Undecided text e) := by
  intro run
  constructor
  · intro hreadable
    obtain ⟨d, hd⟩ := (exists_draft_iff s hurl).mpr hreadable
    obtain ⟨k, hk, hrun⟩ := eval_attempts (scripted reactions) d t.retry (fun _ => rfl) t.retry.count []
    rw [attempt_scripted] at hrun
    have hrun : run = (classify (reactions k).outcome, rounds d t.retry.delay k ++ [.request d]) := by
      rw [show run = _ from performBy_of_draft _ _ hd [], hrun]
    refine ⟨d, k, hd, ?_, by rw [hrun], ?_⟩
    · simpa only [attempt_scripted, not_asksAgain_outcome] using hk
    · rw [hrun]
      exact (reactions k).classify_outcome
  · intro hnot
    cases hdraft : Draft.ofTemplate s t with
    | ok d => exact absurd ((exists_draft_iff s hurl).mp ⟨d, hdraft⟩) hnot
    | error f =>
      obtain ⟨e, rfl, hundecided⟩ := undecided_of_ofTemplate hurl hdraft
      rw [show run = _ from performBy_of_error _ hdraft []]
      exact ⟨rfl, e, rfl, hundecided⟩

/-- For instance, a server that is out of service twice is asked three times. -/
theorem performBy_scripted_flaky :
    let t : Template := { Template.fresh with url := "http://api.test/flaky", retry := ⟨3, Float.ofBits 0, [503]⟩ }
    let reactions (i : ℕ) : Reaction := .answer ⟨if i < 2 then 503 else 200, [], []⟩
    ∃ d, performBy (scripted reactions) ⟨"BOUNDARY", 0, none⟩ t [] =
      (.ok ⟨"\n", "", 200, none⟩,
        [.request d, .pause (Float.ofBits 0), .request d, .pause (Float.ofBits 0), .request d]) := by
  intro t reactions
  have hreadable : Readable t := ⟨fun q hq => absurd hq (by simp [t, Template.fresh]), fun _ _ _ body hbody => by cases hbody⟩
  obtain ⟨d, k, -, hk, hevents, hresult⟩ :=
    (performBy_scripted reactions ⟨"BOUNDARY", 0, none⟩ (t := t) (by decide)).1 hreadable
  have hleast : IsLeast {i | i = t.retry.count ∨ ∀ a, reactions i = .answer a → (a.status : Int) ∉ t.retry.codes} 2 := by
    constructor
    · refine .inr fun a ha => ?_
      cases ha
      decide
    · rintro i (hi | hi)
      · exact hi ▸ by decide
      · by_contra hlt
        have hbusy : (if i < 2 then 503 else 200) = 503 := if_pos (by omega)
        exact hi _ rfl (by rw [hbusy]; decide)
  obtain rfl := hk.unique hleast
  have htext : Answer.text ⟨200, [], []⟩ = .ok "" := rfl
  obtain ⟨res, hres, text, htold, rfl⟩ | ⟨a, f, ha, hf, -⟩ := hresult
  · cases htext.symm.trans htold
    exact ⟨d, Prod.ext hres hevents⟩
  · cases ha
    cases htext.symm.trans hf

/-! ## Servers -/

theorem eval_pause_network {s : Surroundings} (h : s.limit = none) (delay : Float) (c : Course) :
    (eval ((network s).pause delay) c).1 = .ok () := by
  unfold network pause
  dsimp only
  rw [eval_get_bind, h]
  rfl

/-- What a request to a server comes to is what its last attempt comes to, if it may take as long as it wants. -/
theorem perform_of_draft {s : Surroundings} (hlimit : s.limit = none) {t : Template} {d : Draft}
    (hd : Draft.ofTemplate s t = .ok d) (server : Server) :
    let tries := attempt (network s) d t.retry ⟨server, [], [], 0⟩
    ∃ k, IsLeast {i | i = t.retry.count ∨ ¬AsksAgain t.retry.codes (tries i).1} k ∧
      perform s t server = ⟨classify (tries k).1, (tries k).2.server, (tries k).2.sent.reverse, (tries k).2.span⟩ := by
  intro tries
  obtain ⟨k, hk, hrun⟩ :=
    eval_attempts (network s) d t.retry (eval_pause_network hlimit t.retry.delay) t.retry.count ⟨server, [], [], 0⟩
  refine ⟨k, hk, ?_⟩
  unfold perform
  rw [performBy_of_draft _ _ hd, hrun]

/-! ## A body that is not sent -/

theorem digitsFrom_ones (more : Bool) (n : ℕ) :
    Integer.digitsFrom (Integer.valueIn? 10) more (List.replicate n '1') = (List.replicate n 1, []) := by
  induction n generalizing more with
  | zero => rfl
  | succ n ih =>
    have hone : Integer.valueIn? 10 '1' = some 1 := by decide
    rw [List.replicate_succ, Integer.digitsFrom, hone]
    simp only [ih]
    rfl

theorem integer_ones {n : ℕ} (h : Integer.maxDigits < n) :
    Integer.ofText (String.ofList (List.replicate n '1')) = .error (.tooLong n) := by
  have hhalf : Codes.isHalf 49 = false := by decide
  have hchars : (Codes.ofText (String.ofList (List.replicate n '1'))).chars = List.replicate n '1' := by
    simp [Codes.ofText, Codes.chars, hhalf]
  obtain ⟨m, rfl⟩ : ∃ m, n = m + 1 := ⟨n - 1, by omega⟩
  have hpadding : Integer.isPadding '1' = false := by decide
  have htrim : Integer.trimPadding (List.replicate (m + 1) '1') = List.replicate (m + 1) '1' := by
    simp [Integer.trimPadding, hpadding]
  have hsign : Integer.sign (List.replicate (m + 1) '1') = (false, List.replicate (m + 1) '1') := rfl
  have hmark : Integer.dropBaseMark 10 (List.replicate (m + 1) '1') = List.replicate (m + 1) '1' := by
    rw [List.replicate_succ, Integer.dropBaseMark]
    simp
  have hone : Integer.valueIn? 10 '1' = some 1 := by decide
  have hspaced : Integer.wellSpaced (Integer.valueIn? 10) (List.replicate (m + 1) '1') = true := by
    simp [Integer.wellSpaced, hone, digitsFrom_ones]
  unfold Integer.ofText Integer.ofBase Integer.ofCodes
  rw [hchars, htrim, hsign]
  dsimp only
  rw [hmark, digitsFrom_ones]
  simp [hspaced, h]

/-- A number of ones that is too long is not read. -/
theorem json_ones {n : ℕ} (h : Integer.maxDigits < n) :
    Json.ofText (String.ofList (List.replicate n '1')) = .error (.number (.tooLong n)) := by
  obtain ⟨m, rfl⟩ : ∃ m, n = m + 1 := ⟨n - 1, by omega⟩
  have hgap : Json.isGap '1' = false := by decide
  have hskip : Json.skip (List.replicate (m + 1) '1') = List.replicate (m + 1) '1' := by
    simp [Json.skip, hgap]
  have hfigure : Json.isFigure '1' = true := by decide
  have hfigures : Json.figures? ('1' :: List.replicate m '1') = some ('1' :: List.replicate m '1', []) := by
    simp [Json.figures?, hfigure]
  have hnumber : Json.number ('1' :: List.replicate m '1') = .error (.number (.tooLong (m + 1))) := by
    have hlong := integer_ones h
    rw [List.replicate_succ] at hlong
    simp [-String.ofList_cons, Json.number, hfigures, Json.fraction, Json.exponent, hlong]
  have hvalue : Json.value Json.maxDepth (2 * (m + 1) + 2) (List.replicate (m + 1) '1') =
      .error (.number (.tooLong (m + 1))) := by
    rw [List.replicate_succ, Json.value.eq_def]
    simp [Json.wordValues, List.isPrefixOf, hnumber]
  unfold Json.ofText
  rw [String.toList_ofList, hskip]
  dsimp only
  rw [List.length_replicate, hvalue]
  rfl

/-- The template of a request with a number of ones for a body, about which nothing is said. -/
def posting (n : ℕ) : Template :=
  { Template.fresh with url := "http://api.test/p", method := "POST", body := some (String.ofList (List.replicate n '1')) }

theorem ofTemplate_posting (s : Surroundings) {n : ℕ} (h : Integer.maxDigits < n) :
    Draft.ofTemplate s (posting n) = .error (.query (.number (.tooLong n))) := by
  have hurl : (posting n).url ≠ "" := by simp [posting]
  have hheaders : typedHeaders (posting n) = .error (.query (.number (.tooLong n))) := by
    rw [typedHeaders_eq_error_iff]
    exact ⟨⟨rfl, rfl, rfl⟩, _, rfl, bodyTypeOf_eq_error_iff.mpr ⟨_, rfl, .number _ (json_ones h)⟩⟩
  rw [ofTemplate_eq s hurl, hheaders]
  rfl

theorem perform_posting (s : Surroundings) {n : ℕ} (h : Integer.maxDigits < n) (server : Server) :
    perform s (posting n) server = ⟨.error (.query (.number (.tooLong n))), server, [], 0⟩ := by
  unfold perform
  rw [performBy_of_error (network s) (ofTemplate_posting s h)]
  rfl

/-- **A number that is too long leaves the request unsent**, though nothing says that the body is JSON. -/
theorem long_number_unsent :
    let server : Server := [⟨"*", [.answer 200 [] (Bytes.ascii "ok")]⟩]
    perform ⟨"BOUNDARY", 0, none⟩ (posting 4301) server = ⟨.error (.query (.number (.tooLong 4301))), server, [], 0⟩ :=
  perform_posting _ (by decide) _

end Rehearsal.Http.Exchange
