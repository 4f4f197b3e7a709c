import Mathlib.Data.List.Forall2
import Mathlib.Data.List.Perm.Basic
import Rehearsal.Http.Exchange

/-!
# Drafts of requests

A template is made a draft before anything is sent: its query is read, the type of its body found, and what is to be sent
written.
-/

/-!
## Pairs of queries

The pairs that a text of a query or a body holds are grouped by their names when they are read. Nothing is lost in that
(`grouped_perm`), and those of one name stay in their order (`filter_grouped`). So a query has all the pairs that its texts
hold (`holds_of_allFields`).

A text that begins like a table is looked at as JSON first. If it is none, it is a form; but there are texts of which that
cannot be told (`Undecided`), and they are all that makes a reading fail (`fieldsOf_eq_error_iff`).
-/

namespace Rehearsal.Http.Query

open Rehearsal

/-! ### Pairs by name -/

section Grouped

variable {α β : Type} [BEq α]

theorem grouped_eq (ps : List (α × β)) :
    grouped ps = ((ps.map (·.1)).eraseDups).flatMap fun k => ps.filter fun q => q.1 == k := rfl

/-- Pairs are none, or a first one and what is left when all of its name are taken out. -/
theorem induction_by_name {P : List (α × β) → Prop} (nil : P [])
    (cons : ∀ p ps, P (ps.filter fun q => !(q.1 == p.1)) → P (p :: ps)) : ∀ ps, P ps
  | [] => nil
  | p :: ps => cons p ps (induction_by_name nil cons (ps.filter fun q => !(q.1 == p.1)))
termination_by ps => ps.length
decreasing_by exact Nat.lt_succ_of_le (List.length_filter_le _ _)

variable [LawfulBEq α]

/-- The pairs with the first name stand in front, in their order. -/
theorem grouped_cons (p : α × β) (ps : List (α × β)) :
    grouped (p :: ps) = (p :: ps).filter (fun q => q.1 == p.1) ++ grouped (ps.filter fun q => !(q.1 == p.1)) := by
  have hnames : (ps.map (·.1)).filter (fun k => !(k == p.1)) = (ps.filter fun q => !(q.1 == p.1)).map (·.1) := by
    rw [List.filter_map]
    rfl
  rw [grouped_eq, grouped_eq, List.map_cons, List.eraseDups_cons, List.flatMap_cons, hnames]
  refine congrArg (_ ++ ·) (List.flatMap_congr fun k hk => ?_)
  have hother : k ≠ p.1 := by
    obtain ⟨q, hq, rfl⟩ := List.mem_map.mp (List.mem_eraseDups.mp hk)
    simpa using (List.mem_filter.mp hq).2
  rw [List.filter_cons_of_neg (by simpa using hother.symm), List.filter_filter]
  refine List.filter_congr fun q _ => ?_
  by_cases hq : q.1 = k
  · simp [hq, hother]
  · simp [hq]

/-- **Grouping loses no pair.** -/
theorem grouped_perm (ps : List (α × β)) : (grouped ps).Perm ps := by
  induction ps using induction_by_name with
  | nil => exact .nil
  | cons p rest ih =>
    have hothers : (p :: rest).filter (fun q => !(q.1 == p.1)) = rest.filter fun q => !(q.1 == p.1) := by
      simp
    rw [grouped_cons]
    refine (ih.append_left _).trans ?_
    rw [← hothers]
    exact List.filter_append_perm _ _

/-- Grouping leaves the pairs of one name in their order. -/
theorem filter_grouped (ps : List (α × β)) (name : α) :
    (grouped ps).filter (fun q => q.1 == name) = ps.filter fun q => q.1 == name := by
  induction ps using induction_by_name with
  | nil => rfl
  | cons p rest ih =>
    rw [grouped_cons, List.filter_append, ih, List.filter_filter, List.filter_filter]
    by_cases hname : p.1 = name
    · subst hname
      simp
    · have hnone : (p :: rest).filter (fun q => q.1 == name && q.1 == p.1) = [] := by
        rw [List.filter_eq_nil_iff]
        intro q _ hboth
        rw [Bool.and_eq_true, beq_iff_eq, beq_iff_eq] at hboth
        exact hname (hboth.2.symm.trans hboth.1)
      rw [hnone, List.nil_append, List.filter_cons_of_neg (by simpa using hname)]
      refine List.filter_congr fun q _ => ?_
      by_cases hq : q.1 = name
      · simp [hq, Ne.symm hname]
      · simp [hq]

end Grouped

/-! ### JSON or not -/

/-- Whether it can be told of a text if it is JSON: no number in it is too long, and nothing stands in too much else. -/
def Decided (text : String) : Prop := ∀ e, Json.ofText text = .error e → e = .malformed

/-- What is said of a text that is not decided. -/
inductive Undecided (text : String) : Error → Prop where
  | number (e : Integer.Error) : Json.ofText text = .error (.number e) → Undecided text (.number e)
  | tooDeep (isTable : Bool) : Json.ofText text = .error (.tooDeep isTable) → Undecided text (.tooDeep isTable)

theorem Undecided.not_decided {text : String} {e : Error} (h : Undecided text e) : ¬Decided text := by
  intro hdecided
  cases h with
  | number e h => cases hdecided _ h
  | tooDeep isTable h => cases hdecided _ h

theorem exists_undecided {text : String} (h : ¬Decided text) : ∃ e, Undecided text e := by
  unfold Decided at h
  push Not at h
  obtain ⟨reason, hreason, hne⟩ := h
  cases reason with
  | malformed => exact absurd rfl hne
  | number e => exact ⟨_, .number e hreason⟩
  | tooDeep isTable => exact ⟨_, .tooDeep isTable hreason⟩

theorem fieldsOf_eq_error_iff {q : String} {e : Error} :
    fieldsOf q = .error e ↔ q.startsWith "\x7b" = true ∧ Undecided q e := by
  unfold fieldsOf
  dsimp only
  by_cases hlead : q.startsWith "\x7b" = true
  · rw [if_pos hlead, and_iff_right hlead]
    constructor
    · intro h
      cases hjson : Json.ofText q with
      | ok v => cases v <;> simp [hjson] at h
      | error reason =>
        rw [hjson] at h
        cases reason with
        | malformed => cases h
        | number n =>
          cases h
          exact .number n hjson
        | tooDeep isTable =>
          cases h
          exact .tooDeep isTable hjson
    · rintro (⟨n, h⟩ | ⟨isTable, h⟩) <;> rw [h]
  · rw [if_neg hlead]
    simp [hlead]

/-! ### All texts of a query -/

/-- The fields of a query are those of its texts. -/
theorem allFields_eq_ok {qs : List String} {fs : List Field} (h : allFields qs = .ok fs) :
    ∃ found, List.Forall₂ (fun q fs => fieldsOf q = .ok fs) qs found ∧ fs = found.flatten := by
  induction qs generalizing fs with
  | nil =>
    cases h
    exact ⟨[], .nil, rfl⟩
  | cons q rest ih =>
    rw [allFields] at h
    cases hfirst : fieldsOf q with
    | error e =>
      rw [hfirst] at h
      cases h
    | ok first =>
      cases hmore : allFields rest with
      | error e =>
        rw [hfirst, hmore] at h
        cases h
      | ok more =>
        rw [hfirst, hmore] at h
        cases h
        obtain ⟨found, hfound, rfl⟩ := ih hmore
        exact ⟨first :: found, .cons hfirst hfound, rfl⟩

/-- All texts of a query that is read are. -/
theorem exists_fieldsOf {qs : List String} {fs : List Field} (h : allFields qs = .ok fs) :
    ∀ q ∈ qs, ∃ found, fieldsOf q = .ok found := by
  obtain ⟨found, hfound, -⟩ := allFields_eq_ok h
  clear h
  induction hfound with
  | nil => simp
  | cons hfirst _ ih => exact List.forall_mem_cons.mpr ⟨⟨_, hfirst⟩, ih⟩

/-- A query that cannot be read has a text that cannot. -/
theorem allFields_eq_error {qs : List String} {e : Error} (h : allFields qs = .error e) : ∃ q ∈ qs, fieldsOf q = .error e := by
  induction qs with
  | nil => cases h
  | cons q rest ih =>
    rw [allFields] at h
    cases hfirst : fieldsOf q with
    | error reason =>
      rw [hfirst] at h
      cases h
      exact ⟨q, List.mem_cons_self, hfirst⟩
    | ok first =>
      cases hmore : allFields rest with
      | error reason =>
        rw [hfirst, hmore] at h
        cases h
        obtain ⟨text, hmem, htext⟩ := ih hmore
        exact ⟨text, List.mem_cons_of_mem _ hmem, htext⟩
      | ok more =>
        rw [hfirst, hmore] at h
        cases h

/-- The pairs that a text of a query holds, as they are found: the items of a table, if it is one, or those of a form, in any
order. -/
inductive Holds (q : String) : List Field → Prop where
  | table (items : List (Value × Value)) : q.startsWith "\x7b" = true → Json.ofText q = .ok (.table items) →
      Holds q (items.map fun item => (codesOfValue item.1, codesOfValue item.2))
  | form (fs : List Field) : (q.startsWith "\x7b" = true → ∀ items, Json.ofText q ≠ .ok (.table items)) →
      fs.Perm ((pairsOf (String.ofList (q.toList.dropWhile (· == '?')))).map fun p => (Codes.ofText p.1, Codes.ofText p.2)) →
      Holds q fs

theorem holds_of_fieldsOf {q : String} {fs : List Field} (h : fieldsOf q = .ok fs) : Holds q fs := by
  let form := pairsOf (String.ofList (q.toList.dropWhile (· == '?')))
  have hform : ((grouped form).map fun p => (Codes.ofText p.1, Codes.ofText p.2)).Perm
      (form.map fun p => (Codes.ofText p.1, Codes.ofText p.2)) := (grouped_perm form).map _
  unfold fieldsOf at h
  dsimp only at h
  split at h
  next hlead =>
    split at h
    next items hjson =>
      cases h
      exact .table items hlead hjson
    next => cases h
    next => cases h
    next hnot _ _ =>
      rw [← Except.ok.inj h]
      exact .form _ (fun _ => hnot) hform
  next hlead =>
    rw [← Except.ok.inj h]
    exact .form _ (fun h => absurd h hlead) hform

/-- **A query has the pairs of all its texts.** -/
theorem holds_of_allFields {qs : List String} {fs : List Field} (h : allFields qs = .ok fs) :
    ∃ found, List.Forall₂ Holds qs found ∧ fs = found.flatten := by
  obtain ⟨found, hfound, rfl⟩ := allFields_eq_ok h
  exact ⟨found, hfound.imp fun _ _ => holds_of_fieldsOf, rfl⟩

end Rehearsal.Http.Query

/-!
## Drafts

A template is made a draft before anything is sent: its query is read, the type of its body found, and what is to be sent
written. That fails only where a text that is looked at as JSON holds a number that is too long or stands too deep
(`exists_draft_iff`), and then what is said is what is said of that text.
-/

namespace Rehearsal.Http.Exchange

open Query

/-- Whether the texts of a template are decided that are taken for JSON: those of the query that begin like a table, and a
body that is sent as it is and that nothing else is said about. -/
structure Readable (t : Template) : Prop where
  query : ∀ q ∈ t.query, q.startsWith "\x7b" = true → Decided q
  body : t.files = [] → t.headers.has "Content-Type" = false → t.bodyType = none → ∀ body ∈ t.body, Decided body

theorem bodyTypeOf_eq_error_iff {body : String} {f : Failure} :
    bodyTypeOf body = .error f ↔ ∃ e, f = .query e ∧ Undecided body e := by
  unfold bodyTypeOf
  constructor
  · intro h
    cases hjson : Json.ofText body with
    | ok v => simp [hjson] at h
    | error reason =>
      rw [hjson] at h
      cases reason with
      | malformed => cases h
      | number n =>
        cases h
        exact ⟨_, rfl, .number n hjson⟩
      | tooDeep isTable =>
        cases h
        exact ⟨_, rfl, .tooDeep isTable hjson⟩
  · rintro ⟨e, rfl, ⟨n, h⟩ | ⟨isTable, h⟩⟩ <;> rw [h]

theorem typedHeaders_eq_error_iff {t : Template} {f : Failure} :
    typedHeaders t = .error f ↔
      (t.files = [] ∧ t.headers.has "Content-Type" = false ∧ t.bodyType = none) ∧
        ∃ body ∈ t.body, bodyTypeOf body = .error f := by
  unfold typedHeaders
  cases t.body with
  | none => simp
  | some body =>
    dsimp only
    by_cases hgiven : (!t.files.isEmpty || t.headers.has "Content-Type") = true
    · rw [if_pos hgiven]
      constructor
      · intro h
        cases h
      · rintro ⟨⟨hfiles, hheader, -⟩, -⟩
        simp [hfiles, hheader] at hgiven
    · rw [if_neg hgiven]
      simp only [Bool.or_eq_true, not_or, Bool.not_eq_true, Bool.not_eq_false', List.isEmpty_iff] at hgiven
      cases t.bodyType with
      | some b => simp [Except.map]
      | none => cases htype : bodyTypeOf body <;> simp [Except.map, hgiven, htype]

/-- A draft is what is read of the query and the headers. -/
theorem ofTemplate_eq (s : Surroundings) {t : Template} (hurl : t.url ≠ "") :
    Draft.ofTemplate s t =
      match allFields t.query with
      | .error e => .error (.query e)
      | .ok fields =>
        match typedHeaders t with
        | .error f => .error f
        | .ok headers => .ok ⟨t.method, t.url, fields, headers, (payload s t).1, (payload s t).2, t.auth⟩ := by
  have hnonempty : t.url.isEmpty = false := by simpa using hurl
  unfold Draft.ofTemplate
  rw [hnonempty]
  cases allFields t.query with
  | error e => rfl
  | ok fields => cases typedHeaders t <;> rfl

theorem ofTemplate_eq_ok {s : Surroundings} {t : Template} {d : Draft} (h : Draft.ofTemplate s t = .ok d) :
    t.url ≠ "" ∧ allFields t.query = .ok d.fields ∧ typedHeaders t = .ok d.headers ∧ (d.body, d.bodyHeaders) = payload s t := by
  by_cases hurl : t.url = ""
  · unfold Draft.ofTemplate at h
    rw [hurl] at h
    cases h
  · rw [ofTemplate_eq s hurl] at h
    split at h
    next => cases h
    next fields hfields =>
      split at h
      next => cases h
      next headers hheaders =>
        cases h
        exact ⟨hurl, hfields, hheaders, rfl⟩

theorem ofTemplate_eq_error {s : Surroundings} {t : Template} {f : Failure} (hurl : t.url ≠ "")
    (h : Draft.ofTemplate s t = .error f) :
    ∃ e, f = .query e ∧
      ((∃ q ∈ t.query, q.startsWith "\x7b" = true ∧ Undecided q e) ∨
        (t.files = [] ∧ t.headers.has "Content-Type" = false ∧ t.bodyType = none) ∧ ∃ body ∈ t.body, Undecided body e) := by
  rw [ofTemplate_eq s hurl] at h
  split at h
  next e he =>
    cases h
    obtain ⟨q, hq, hfs⟩ := allFields_eq_error he
    exact ⟨e, rfl, .inl ⟨q, hq, fieldsOf_eq_error_iff.mp hfs⟩⟩
  next =>
    split at h
    next f' hf =>
      cases h
      obtain ⟨hplain, body, hbody, hf⟩ := typedHeaders_eq_error_iff.mp hf
      obtain ⟨e, rfl, hundecided⟩ := bodyTypeOf_eq_error_iff.mp hf
      exact ⟨e, rfl, .inr ⟨hplain, body, hbody, hundecided⟩⟩
    next => cases h

theorem readable_of_ofTemplate {s : Surroundings} {t : Template} {d : Draft} (h : Draft.ofTemplate s t = .ok d) :
    Readable t := by
  obtain ⟨-, hfields, hheaders, -⟩ := ofTemplate_eq_ok h
  constructor
  · intro q hq hlead
    by_contra hnot
    obtain ⟨e, he⟩ := exists_undecided hnot
    obtain ⟨fs, hfs⟩ := exists_fieldsOf hfields q hq
    rw [fieldsOf_eq_error_iff.mpr ⟨hlead, he⟩] at hfs
    cases hfs
  · intro hfiles hheader htype body hbody
    by_contra hnot
    obtain ⟨e, he⟩ := exists_undecided hnot
    have herror := typedHeaders_eq_error_iff.mpr
      ⟨⟨hfiles, hheader, htype⟩, body, hbody, bodyTypeOf_eq_error_iff.mpr ⟨e, rfl, he⟩⟩
    rw [herror] at hheaders
    cases hheaders

/-- **A template is read exactly if the JSON in it is.** -/
theorem exists_draft_iff (s : Surroundings) {t : Template} (hurl : t.url ≠ "") :
    (∃ d, Draft.ofTemplate s t = .ok d) ↔ Readable t := by
  refine ⟨fun ⟨d, hd⟩ => readable_of_ofTemplate hd, fun h => ?_⟩
  cases hdraft : Draft.ofTemplate s t with
  | ok d => exact ⟨d, rfl⟩
  | error f =>
    obtain ⟨e, -, hwhere⟩ := ofTemplate_eq_error hurl hdraft
    rcases hwhere with ⟨q, hq, hlead, hundecided⟩ | ⟨⟨hfiles, hheader, htype⟩, body, hbody, hundecided⟩
    · exact absurd (h.query q hq hlead) hundecided.not_decided
    · exact absurd (h.body hfiles hheader htype body hbody) hundecided.not_decided

/-- If a template is not read, the failure says what is said of one of its texts. -/
theorem undecided_of_ofTemplate {s : Surroundings} {t : Template} {f : Failure} (hurl : t.url ≠ "")
    (h : Draft.ofTemplate s t = .error f) :
    ∃ e, f = .query e ∧ ∃ text ∈ t.query ++ t.body.toList, Undecided text e := by
  obtain ⟨e, rfl, hwhere⟩ := ofTemplate_eq_error hurl h
  rcases hwhere with ⟨q, hq, -, hundecided⟩ | ⟨-, body, hbody, hundecided⟩
  · exact ⟨e, rfl, q, List.mem_append_left _ hq, hundecided⟩
  · exact ⟨e, rfl, body, List.mem_append_right _ (Option.mem_toList.mpr hbody), hundecided⟩

end Rehearsal.Http.Exchange
