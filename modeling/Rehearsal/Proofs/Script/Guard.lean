import Mathlib.Data.List.TakeWhile
import Rehearsal.Proofs.Script.Phases

/-!
# Guards

The words a line begins with are guards as long as they stand in brackets (`leading`), and what is left is the command
(`behind`). The guards are asked one after the other, each in the state that the ones before it have left (`after`), and no
more of them than is needed: what comes of a line is settled by the first that does not come out as wanted, and if there is
none by the command.

The main law, `guards_settle_lines`, is about whole lines. It holds whatever asks the conditions and whatever that does to
the script; of what a machine and its host answer, nothing but what is known of programs depends on having been asked.
-/

namespace Rehearsal

open Step (eval)

namespace Guard

/-- The guards that words begin with. -/
def leading : List String → List Guard
  | [] => []
  | word :: rest =>
    match ofWord? word with
    | some g => g :: leading rest
    | none => []

/-- The words behind the guards. -/
def behind : List String → List String
  | [] => []
  | word :: rest =>
    match ofWord? word with
    | some _ => behind rest
    | none => word :: rest

theorem leading_cons_of_some {word : String} {g : Guard} (h : ofWord? word = some g) (rest : List String) :
    leading (word :: rest) = g :: leading rest := by
  rw [leading, h]

theorem behind_cons_of_some {word : String} {g : Guard} (h : ofWord? word = some g) (rest : List String) :
    behind (word :: rest) = behind rest := by
  rw [behind, h]

/-- Words that begin with a guard are this guard and the words behind it. -/
theorem exists_of_leading_eq_cons {words : List String} {g : Guard} {more : List Guard} (h : leading words = g :: more) :
    ∃ word rest, words = word :: rest ∧ ofWord? word = some g ∧ leading rest = more ∧ behind rest = behind words := by
  cases words with
  | nil => cases h
  | cons word rest =>
    cases hword : ofWord? word with
    | none =>
      rw [leading, hword] at h
      cases h
    | some found =>
      rw [leading_cons_of_some hword] at h
      cases h
      exact ⟨word, rest, rfl, hword, rfl, (behind_cons_of_some hword rest).symm⟩

/-- Words that begin with no guard are what is behind it. -/
theorem behind_of_leading_eq_nil {words : List String} (h : leading words = []) :
    behind words = words ∧ ∀ word ∈ words.head?, ofWord? word = none := by
  cases words with
  | nil => exact ⟨rfl, fun _ h => by cases h⟩
  | cons word rest =>
    cases hword : ofWord? word with
    | some g =>
      rw [leading_cons_of_some hword] at h
      cases h
    | none =>
      refine ⟨by rw [behind, hword], ?_⟩
      rintro _ ⟨⟩
      exact hword

/-! ## Asking -/

section Asking

variable (ask : String → Action Bool)

/-- The state that asking guards one after the other leaves. -/
def after (gs : List Guard) (s : Script) : Script := gs.foldl (fun s g => (eval (ask g.condition) s).2) s

theorem after_concat (gs : List Guard) (g : Guard) (s : Script) :
    after ask (gs ++ [g]) s = (eval (ask g.condition) (after ask gs s)).2 := by
  rw [after, List.foldl_append]
  rfl

/-- Whether guards that are asked one after the other all come out as wanted. -/
def AllHold : List Guard → Script → Prop
  | [], _ => True
  | g :: rest, s => (eval (ask g.condition) s).1 = .ok g.wanted ∧ AllHold rest (eval (ask g.condition) s).2

/-- What a fault of a condition is to a line. -/
def fault (g : Guard) (f : Fault) : Fault := if f.isFailure then f else .misuse (.badCondition g.condition f.message)

/-- Guards all come out as wanted, or there is a first one that does not. -/
theorem allHold_or_first (gs : List Guard) (s : Script) :
    AllHold ask gs s ∨ ∃ front g back, gs = front ++ g :: back ∧ AllHold ask front s ∧
      (eval (ask g.condition) (after ask front s)).1 ≠ .ok g.wanted := by
  induction gs generalizing s with
  | nil => exact .inl trivial
  | cons g rest ih =>
    by_cases hg : (eval (ask g.condition) s).1 = .ok g.wanted
    · rcases ih (eval (ask g.condition) s).2 with hrest | ⟨front, bad, back, rfl, hfront, hbad⟩
      · exact .inl ⟨hg, hrest⟩
      · exact .inr ⟨g :: front, bad, back, rfl, ⟨hg, hfront⟩, hbad⟩
    · exact .inr ⟨[], g, rest, rfl, trivial, hg⟩

theorem eval_holds (g : Guard) (s : Script) :
    eval (g.holds ask) s =
      match eval (ask g.condition) s with
      | (.ok answer, t) => (.ok (answer == g.wanted), t)
      | (.error f, t) => (.error (g.fault f), t) := by
  rw [holds, Step.eval_bind, eval_attempt]
  rcases eval (ask g.condition) s with ⟨f | answer, t⟩
  · unfold fault
    dsimp only
    split <;> rfl
  · rfl

/-- A guard with words behind it is asked first. -/
theorem eval_select_cons {word : String} {g : Guard} (hword : ofWord? word = some g) {rest : List String} (hrest : rest ≠ [])
    (s : Script) :
    eval (select ask (word :: rest)) s =
      match eval (ask g.condition) s with
      | (.ok answer, t) => if answer = g.wanted then eval (select ask rest) t else (.ok none, t)
      | (.error f, t) => (.error (g.fault f), t) := by
  have hmore : rest.isEmpty = false := by simpa using hrest
  rw [select, hword]
  dsimp only
  rw [hmore, if_neg Bool.false_ne_true, Step.eval_bind, eval_holds]
  rcases eval (ask g.condition) s with ⟨f | answer, t⟩
  · rfl
  · dsimp only
    by_cases hanswer : answer = g.wanted
    · rw [if_pos (beq_iff_eq.mpr hanswer), if_pos hanswer]
    · rw [if_neg (mt beq_iff_eq.mp hanswer), if_neg hanswer]
      rfl

/-- Guards that come out as wanted are passed. -/
theorem eval_select_append (front more : List Guard) {words : List String} {s : Script}
    (hwords : leading words = front ++ more) (hmore : more ≠ [] ∨ behind words ≠ []) (hfront : AllHold ask front s) :
    ∃ rest, leading rest = more ∧ behind rest = behind words ∧
      eval (select ask words) s = eval (select ask rest) (after ask front s) := by
  induction front generalizing words s with
  | nil => exact ⟨words, hwords, rfl, rfl⟩
  | cons g front ih =>
    rw [List.cons_append] at hwords
    obtain ⟨word, rest, rfl, hword, hleading, hbehind⟩ := exists_of_leading_eq_cons hwords
    have hrest : rest ≠ [] := by
      rintro rfl
      rw [leading, eq_comm, List.append_eq_nil_iff] at hleading
      rcases hmore with h | h
      · exact h hleading.2
      · exact h hbehind.symm
    obtain ⟨last, hlast, hsame, hselect⟩ := ih hleading (hbehind ▸ hmore) hfront.2
    refine ⟨last, hlast, hsame.trans hbehind, ?_⟩
    rw [eval_select_cons ask hword hrest]
    rcases hasked : eval (ask g.condition) s with ⟨answer, t⟩
    have hholds : answer = .ok g.wanted := by simpa [hasked] using hfront.1
    rw [hasked] at hselect
    subst hholds
    dsimp only
    rw [if_pos rfl, hselect]
    simp [after, hasked]

/-- **Words whose guards all come out as wanted are passed on without them.** -/
theorem eval_select_of_allHold (words : List String) (s : Script) (hbehind : behind words ≠ [])
    (h : AllHold ask (leading words) s) :
    eval (select ask words) s = (.ok (some (behind words)), after ask (leading words) s) := by
  obtain ⟨rest, hleading, hsame, hselect⟩ :=
    eval_select_append ask (leading words) [] (List.append_nil _).symm (.inr hbehind) h
  obtain ⟨hrest, hhead⟩ := behind_of_leading_eq_nil hleading
  rw [hselect, ← hsame, hrest]
  cases rest with
  | nil => exact absurd (hsame.symm.trans hrest) hbehind
  | cons word more =>
    rw [select, hhead word rfl]
    rfl

/-- Words without guards are passed on as they are. -/
theorem eval_select_plain {words : List String} (hne : words ≠ []) (h : leading words = []) (s : Script) :
    eval (select ask words) s = (.ok (some words), s) := by
  obtain ⟨hwords, -⟩ := behind_of_leading_eq_nil h
  have hselect := eval_select_of_allHold ask words s (by rwa [hwords]) (by rw [h]; trivial)
  rwa [hwords, h] at hselect

/-- **The first guard that does not come out as wanted settles what comes of the words**, if it is not the last of them. -/
theorem eval_select_of_first {words : List String} {s : Script} {front back : List Guard} {g : Guard}
    (hwords : leading words = front ++ g :: back) (hmore : back ≠ [] ∨ behind words ≠ []) (hfront : AllHold ask front s)
    (hg : (eval (ask g.condition) (after ask front s)).1 ≠ .ok g.wanted) :
    eval (select ask words) s =
      ((eval (ask g.condition) (after ask front s)).1.map (fun _ => none) |>.mapError g.fault,
        after ask (front ++ [g]) s) := by
  obtain ⟨rest, hleading, hsame, hselect⟩ := eval_select_append ask front _ hwords (.inl (List.cons_ne_nil g back)) hfront
  obtain ⟨word, more, rfl, hword, hback, hbehind⟩ := exists_of_leading_eq_cons hleading
  have hne : more ≠ [] := by
    rintro rfl
    rcases hmore with h | h
    · exact h hback.symm
    · exact h (hsame.symm.trans hbehind.symm)
  rw [hselect, eval_select_cons ask hword hne, after_concat]
  rcases hasked : eval (ask g.condition) (after ask front s) with ⟨f | answer, t⟩
  · rfl
  · rw [hasked] at hg
    dsimp only
    rw [if_neg fun h => hg (congrArg _ h)]
    rfl

/-- Words that are all guards are refused once all but the last have come out as wanted. -/
theorem eval_select_alone {words : List String} {s : Script} {front : List Guard} {g : Guard}
    (hwords : leading words = front ++ [g]) (hbehind : behind words = []) (hfront : AllHold ask front s) :
    eval (select ask words) s = (.error (.misuse .guardAlone), after ask front s) := by
  obtain ⟨rest, hleading, hsame, hselect⟩ := eval_select_append ask front _ hwords (.inl (List.cons_ne_nil g [])) hfront
  obtain ⟨word, more, rfl, hword, hnone, hend⟩ := exists_of_leading_eq_cons hleading
  have hnil : more = [] := by
    rw [← (behind_of_leading_eq_nil hnone).1, hend, hsame, hbehind]
  rw [hselect, hnil, select, hword]
  rfl

end Asking

/-! ## A condition and its opposite -/

theorem trimEnd_append_of_blank {back : List Char} (h : ∀ c ∈ back, isBlank c = true) (cs : List Char) :
    trimEnd (cs ++ back) = trimEnd cs := by
  have hback : back.reverse.dropWhile isBlank = [] := by
    rw [List.dropWhile_eq_nil_iff]
    intro c hc
    exact h c (List.mem_reverse.mp hc)
  unfold trimEnd
  rw [List.reverse_append, List.dropWhile_append, hback]
  simp

/-- A text is what is left of it without the blanks at its end, and these. -/
theorem exists_trimEnd_append (cs : List Char) : ∃ back, cs = trimEnd cs ++ back ∧ ∀ c ∈ back, isBlank c = true := by
  refine ⟨(cs.reverse.takeWhile isBlank).reverse, ?_, ?_⟩
  · unfold trimEnd
    rw [← List.reverse_append, List.takeWhile_append_dropWhile, List.reverse_reverse]
  · intro c hc
    exact List.mem_takeWhile_imp (List.mem_reverse.mp hc)

/-- Blanks at the end of a text do not matter to what it says without blanks around it. -/
theorem trimChars_trimEnd (cs : List Char) : trimChars (trimEnd cs) = trimChars cs := by
  obtain ⟨back, hcs, hback⟩ := exists_trimEnd_append cs
  have hblank : back.dropWhile isBlank = [] := List.dropWhile_eq_nil_iff.mpr hback
  have hstart : trimStart cs = if trimStart (trimEnd cs) = [] then [] else trimStart (trimEnd cs) ++ back := by
    conv => lhs; rw [hcs]
    unfold trimStart
    rw [List.dropWhile_append, hblank]
    simp
  unfold trimChars
  rw [hstart]
  split
  next hempty => rw [hempty]
  next => rw [trimEnd_append_of_blank hback]

theorem trimChars_mark_cons (cs : List Char) : trimChars ('!' :: cs) = '!' :: trimEnd cs := by
  have hmark : isBlank '!' = false := by decide
  unfold trimChars trimStart trimEnd
  rw [List.dropWhile_cons_of_neg (by simp [hmark]), List.reverse_cons, List.dropWhile_append]
  split
  next hempty => simp_all
  next => simp

theorem ofWord?_brackets {word : String} (cs : List Char) (h : word.toList = '[' :: (cs ++ [']'])) :
    ofWord? word = some (ofInside cs) := by
  unfold ofWord?
  rw [h]
  simp

/-- A condition in brackets has to hold. -/
theorem ofWord?_condition {c : String} (h : (trimChars c.toList).head? ≠ some '!') :
    ofWord? ("[" ++ c ++ "]") = some ⟨trim c, true⟩ := by
  rw [ofWord?_brackets c.toList (by simp), ofInside]
  split
  next rest hmark =>
    rw [hmark] at h
    exact absurd rfl h
  next => rfl

/-- A condition in brackets behind an exclamation mark must not hold. -/
theorem ofWord?_opposite (c : String) : ofWord? ("[!" ++ c ++ "]") = some ⟨trim c, false⟩ := by
  rw [ofWord?_brackets ('!' :: c.toList) (by simp), ofInside, trimChars_mark_cons]
  show some (Guard.mk (String.ofList (trimChars (trimEnd c.toList))) false) = _
  rw [trimChars_trimEnd]
  rfl

example : ofWord? "[ !short ]" = some ⟨"short", false⟩ := by decide +kernel

end Guard

namespace Script

variable {p : Performer}

/-- A line that is read as words: no header, no comment, and not empty. -/
structure IsCommand (s : Script) (line : String) (args : List String) : Prop where
  noHeader : line.startsWith s.plan.phasePrefix = false
  noComment : line.startsWith s.plan.commentPrefix = false
  split : Words.split s.expand line = .ok args
  ne_nil : args ≠ []

/-- A script that has read its next line and echoed it. -/
def echoed (line : String) (s : Script) : Script := (s.atLine line).write s!"> {line}\n"

/-- A line does what stands behind its guards, if they let it. -/
theorem eval_performLine_of_args {s : Script} {line : String} {args : List String} (h : IsCommand s line args) :
    eval (performLine p line) s =
      match eval (Guard.select p.ask args) (s.echoed line) with
      | (.ok (some words), t) => eval (command p words) t
      | (.ok none, t) => (.ok (), t)
      | (.error f, t) => (.error f, t) := by
  have hargs : args.isEmpty = false := by simpa using h.ne_nil
  rw [eval_performLine, h.noHeader, h.noComment, if_neg Bool.false_ne_true, if_neg Bool.false_ne_true, performCommand,
    Step.eval_bind, eval_parse, show s.counted.expand = s.expand from rfl, h.split]
  dsimp only
  rw [hargs, if_neg Bool.false_ne_true, Step.eval_modify_bind, Step.eval_bind]
  unfold echoed atLine
  rcases eval (Guard.select p.ask args) _ with ⟨f | ⟨_ | words⟩, t⟩ <;> rfl

/-- What asking conditions of a machine and its host leaves is what it was, but for what is known of programs. -/
theorem after_condition (host : Host) (gs : List Guard) (s : Script) :
    ∃ programs, Guard.after (condition host) gs s = { s with scene := { s.scene with programs } } := by
  have hask : ∀ (name : String) (s : Script),
      ∃ programs, (eval (condition host name) s).2 = { s with scene := { s.scene with programs } } := by
    intro name s
    unfold condition
    rw [Step.eval_get_bind]
    split
    next => exact ⟨s.scene.programs, rfl⟩
    next =>
      split
      next => exact ⟨_, rfl⟩
      next =>
        split
        next ask _ => cases ask name <;> exact ⟨s.scene.programs, rfl⟩
        next => exact ⟨s.scene.programs, rfl⟩
  induction gs generalizing s with
  | nil => exact ⟨s.scene.programs, rfl⟩
  | cons g rest ih =>
    obtain ⟨programs, hprograms⟩ := hask g.condition s
    obtain ⟨programs', hrest⟩ := ih { s with scene := { s.scene with programs } }
    refine ⟨programs', ?_⟩
    rw [Guard.after, List.foldl_cons, hprograms]
    exact hrest

/-- A line with one guard is carried out if that comes out as wanted. -/
theorem eval_performLine_of_guard {s : Script} {line word : String} {words : List String} {g : Guard} {answer : Bool}
    (h : IsCommand s line (word :: words)) (hword : Guard.ofWord? word = some g) (hwords : words ≠ [])
    (hplain : Guard.leading words = []) (hanswer : (eval (p.ask g.condition) (s.echoed line)).1 = .ok answer) :
    eval (performLine p line) s =
      if answer = g.wanted then eval (command p words) (eval (p.ask g.condition) (s.echoed line)).2
      else (.ok (), (eval (p.ask g.condition) (s.echoed line)).2) := by
  rw [eval_performLine_of_args h, Guard.eval_select_cons p.ask hword hwords]
  rcases hasked : eval (p.ask g.condition) (s.echoed line) with ⟨result, t⟩
  obtain rfl : result = .ok answer := by rw [← hanswer, hasked]
  by_cases hwanted : answer = g.wanted
  · simp [hwanted, Guard.eval_select_plain p.ask hwords hplain]
  · simp [hwanted]

/-- **What comes of a line with guards.** -/
theorem guards_settle_lines (p : Performer) (s : Script) :
    (∀ line args, IsCommand s line args →
      let s₁ : Script := { s with lineNumber := s.lineNumber + 1, line, log := s.log.write s!"> {line}\n" }
      let gs := Guard.leading args
      let words := Guard.behind args
      (Guard.AllHold p.ask gs s₁ → words ≠ [] →
        eval (performLine p line) s = eval (command p words) (Guard.after p.ask gs s₁)) ∧
      (∀ front g back, gs = front ++ g :: back → back ≠ [] ∨ words ≠ [] → Guard.AllHold p.ask front s₁ →
        let answer := (eval (p.ask g.condition) (Guard.after p.ask front s₁)).1
        let t := Guard.after p.ask (front ++ [g]) s₁
        (answer = .ok (!g.wanted) → eval (performLine p line) s = (.ok (), t)) ∧
        ∀ f, answer = .error f → eval (performLine p line) s = (.error (g.fault f), t)) ∧
      (∀ front g, gs = front ++ [g] → words = [] → Guard.AllHold p.ask front s₁ →
        eval (performLine p line) s = (.error (.misuse .guardAlone), Guard.after p.ask front s₁)) ∧
      (Guard.AllHold p.ask gs s₁ ∨ ∃ front g back, gs = front ++ g :: back ∧ Guard.AllHold p.ask front s₁ ∧
        (eval (p.ask g.condition) (Guard.after p.ask front s₁)).1 ≠ .ok g.wanted)) ∧
    (∀ c words line line' answer, (trimChars c.toList).head? ≠ some '!' → words ≠ [] → Guard.leading words = [] →
      IsCommand s line (("[" ++ c ++ "]") :: words) → IsCommand s line' (("[!" ++ c ++ "]") :: words) →
      let asked := eval (p.ask (trim c)) (s.echoed line)
      let asked' := eval (p.ask (trim c)) (s.echoed line')
      asked.1 = .ok answer → asked'.1 = .ok answer →
        eval (performLine p line) s = (if answer then eval (command p words) asked.2 else (.ok (), asked.2)) ∧
        eval (performLine p line') s = if answer then (.ok (), asked'.2) else eval (command p words) asked'.2) ∧
    ∀ host, p = performer host → ∀ gs t, ∃ programs,
      Guard.after p.ask gs t = { t with scene := { t.scene with programs } } := by
  refine ⟨?_, ?_, ?_⟩
  · intro line args h s₁ gs words
    have hrun := eval_performLine_of_args (p := p) h
    rw [show s.echoed line = s₁ from rfl] at hrun
    refine ⟨?_, ?_, ?_, Guard.allHold_or_first p.ask gs s₁⟩
    · intro hall hwords
      rw [hrun, Guard.eval_select_of_allHold p.ask args s₁ hwords hall]
    · intro front g back hgs hmore hfront answer t
      constructor
      · intro hanswer
        have hne : answer ≠ .ok g.wanted := by simp [hanswer]
        rw [hrun, Guard.eval_select_of_first p.ask hgs hmore hfront hne]
        rw [show (eval (p.ask g.condition) (Guard.after p.ask front s₁)).1 = _ from hanswer]
        rfl
      · intro f hf
        have hne : answer ≠ .ok g.wanted := by simp [hf]
        rw [hrun, Guard.eval_select_of_first p.ask hgs hmore hfront hne]
        rw [show (eval (p.ask g.condition) (Guard.after p.ask front s₁)).1 = _ from hf]
        rfl
    · intro front g hgs hwords hfront
      rw [hrun, Guard.eval_select_alone p.ask hgs hwords hfront]
  · intro c words line line' answer hc hwords hplain h h' asked asked' hasked hasked'
    have hline := eval_performLine_of_guard h (Guard.ofWord?_condition hc) hwords hplain hasked
    have hline' := eval_performLine_of_guard h' (Guard.ofWord?_opposite c) hwords hplain hasked'
    refine ⟨hline, hline'.trans ?_⟩
    cases answer <;> rfl
  · rintro host rfl gs t
    exact after_condition host gs t

end Script

end Rehearsal
