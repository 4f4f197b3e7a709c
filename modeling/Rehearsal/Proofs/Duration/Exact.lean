import Mathlib.Tactic.FieldSimp
import Mathlib.Tactic.NormNum
import Mathlib.Tactic.Positivity
import Mathlib.Tactic.Ring
import Rehearsal.Proofs.Duration.Search

/-!
# Durations without rounding

A duration is read in two steps: its parts are found, and what they come to is reckoned. How it is reckoned depends on the
numbers there are (`Reckoning`): with binary floats it is rounded in every step, with rational numbers in none. `ofTextBy?` is
the reading with numbers of any kind, and the reading of durations is the one with floats (`ofTextBy?_floats`).

The main law, `duration_iff_written`: what is read is a zero or what is written as a duration (`Written`), nothing is written
in two ways, and reckoned without rounding the result is the sign times the sum of the pieces. A search for the pattern of a
piece, over and over, comes to the same.
-/

namespace Rehearsal.Duration

/-! ## Durations as they are written -/

/-- What may stand in front of a duration. -/
inductive Sign where
  | none | plus | minus
  deriving DecidableEq, Repr

namespace Sign

/-- A sign as it is written. -/
def text : Sign → List Char
  | none => []
  | plus => ['+']
  | minus => ['-']

/-- What a sign multiplies by. -/
def factor : Sign → ℚ
  | none | plus => 1
  | minus => -1

end Sign

/-- A duration as it is written: a sign and at least one piece. -/
@[ext]
structure Written where
  sign : Sign
  pieces : List Piece
  pieces_ne_nil : pieces ≠ []

namespace Written

/-- A duration written down. -/
def text (w : Written) : List Char := w.sign.text ++ textOf w.pieces

/-- How long a duration is, in seconds. -/
def seconds (w : Written) : ℚ := w.sign.factor * (w.pieces.map Piece.seconds).sum

end Written

/-- The ways to write no time at all without a unit. -/
def zeros : List (List Char) := [['0'], ['+', '0'], ['-', '0']]

/-! ## Reckoning -/

/-- Numbers to reckon with: decimal ones with a sign and a power of ten, sums and products. -/
structure Reckoning (α : Type) where
  decimal : Bool → Nat → Int → α
  zero : α
  add : α → α → α
  mul : α → α → α

/-- Binary floats, which are rounded in every step. -/
def floats : Reckoning Float := ⟨Binary.ofDecimal, Float.ofBits 0, (· + ·), (· * ·)⟩

/-- Rational numbers, which are not. -/
def exact : Reckoning ℚ := ⟨fun negative n e => (if negative then -1 else 1) * n * 10 ^ e, 0, (· + ·), (· * ·)⟩

variable {α : Type} (r : Reckoning α)

/-- The number of seconds in a unit, with numbers of a kind. -/
def Scale.secondsBy : Scale → α
  | .nanosecond => r.decimal false 1 (-9)
  | .microsecond => r.decimal false 1 (-6)
  | .millisecond => r.decimal false 1 (-3)
  | .second => r.decimal false 1 0
  | .minute => r.decimal false 60 0
  | .hour => r.decimal false 3600 0

/-- The length of a part in seconds, with numbers of a kind. -/
def Part.secondsBy (p : Part) : α :=
  r.mul (r.decimal false (Integer.ofDigits 10 p.digits) (-p.places)) (p.scale.secondsBy r)

/-- The sum of parts in seconds, with numbers of a kind. -/
def totalBy (ps : List Part) : α := ps.foldl (fun sum p => r.add sum (p.secondsBy r)) r.zero

/-- Reads a duration in seconds, with numbers of a kind. -/
def ofTextBy? (s : String) : Option α :=
  (signedParts? s).map fun (negative, ps) => r.mul (r.decimal negative 1 0) (totalBy r ps)

/-- Durations are read with floats. -/
theorem ofTextBy?_floats (s : String) : ofTextBy? floats s = ofText? s := by
  have hscale : ∀ scale : Scale, scale.secondsBy floats = scale.seconds := by
    intro scale
    cases scale <;> rfl
  have hpart : Part.secondsBy floats = Part.seconds := by
    funext p
    rw [Part.secondsBy, hscale]
    rfl
  have htotal : ∀ ps, totalBy floats ps = total ps := by
    intro ps
    rw [totalBy, hpart]
    rfl
  unfold ofTextBy? ofText?
  cases signedParts? s with
  | none => rfl
  | some found =>
    obtain ⟨negative, ps⟩ := found
    rw [Option.map_some, Option.map_some]
    dsimp only
    rw [htotal]
    cases negative <;> rfl

/-! ## Without rounding -/

theorem ofDigits_eq (ds : List Nat) : Integer.ofDigits 10 ds = Nat.ofDigits 10 ds.reverse := by
  rw [Nat.ofDigits_eq_foldr, List.foldr_reverse, Integer.ofDigits]
  refine congrArg (fun f => ds.foldl f 0) (funext fun n => funext fun d => ?_)
  rw [Nat.cast_id, Nat.add_comm]

theorem ofDigits_append {front back : List Char} (hback : ∀ c ∈ back, isDigit c = true) :
    Integer.ofDigits 10 ((front ++ back).filterMap digitValue?) = worth front * 10 ^ back.length + worth back := by
  have hlength := length_filterMap_digitValue? hback
  rw [ofDigits_eq, List.filterMap_append, List.reverse_append, Nat.ofDigits_append, List.length_reverse, hlength, worth, worth]
  ring

theorem Numeral.isDigit_behind (n : Numeral) : ∀ c ∈ n.behind, isDigit c = true := by
  intro c hc
  unfold Numeral.behind at hc
  cases hfraction : n.fraction with
  | none => simp [hfraction] at hc
  | some ds => exact n.isDigit_fraction ds hfraction c (by simpa [hfraction] using hc)

/-- A piece that is read is as long as it is written. -/
theorem Piece.secondsBy_part (p : Piece) : p.part.secondsBy exact = p.seconds := by
  have hunit : p.unit.scale.secondsBy exact = p.unit.seconds := by
    cases p.unit <;> norm_num [UnitWord.scale, UnitWord.seconds, Scale.secondsBy, exact]
  have hnumber : exact.decimal false (Integer.ofDigits 10 p.part.digits) (-p.part.places) = p.number.value := by
    have hpow : (10 : ℚ) ^ p.number.behind.length ≠ 0 := by positivity
    simp only [Piece.part, exact, ofDigits_append p.number.isDigit_behind, Numeral.value, zpow_neg, zpow_natCast]
    push_cast
    field_simp
  unfold Part.secondsBy Piece.seconds
  rw [hnumber]
  exact congrArg (p.number.value * ·) hunit

theorem totalBy_exact (ps : List Piece) : totalBy exact (ps.map Piece.part) = (ps.map Piece.seconds).sum := by
  have hfold : ∀ (ps : List Piece) (sum : ℚ),
      (ps.map Piece.part).foldl (fun sum p => exact.add sum (p.secondsBy exact)) sum = sum + (ps.map Piece.seconds).sum := by
    intro ps
    induction ps with
    | nil => simp
    | cons p rest ih =>
      intro sum
      rw [List.map_cons, List.foldl_cons, ih, p.secondsBy_part, List.map_cons, List.sum_cons, ← add_assoc]
      rfl
  have h := hfold ps 0
  rwa [zero_add] at h

/-! ## What is read -/

/-- Whether a sign makes less of what it stands before. -/
def Sign.isMinus : Sign → Bool
  | .minus => true
  | _ => false

theorem sign_append (σ : Sign) {cs : List Char} (hne : cs ≠ []) (hgoes : Goes cs) :
    Integer.sign (σ.text ++ cs) = (σ.isMinus, cs) := by
  cases σ with
  | plus => rfl
  | minus => rfl
  | none =>
    cases cs with
    | nil => exact absurd rfl hne
    | cons c rest =>
      have hnumeric := hgoes c rfl
      have hminus : c ≠ '-' := by
        rintro rfl
        exact absurd hnumeric (by decide)
      have hplus : c ≠ '+' := by
        rintro rfl
        exact absurd hnumeric (by decide)
      simp [Sign.text, Sign.isMinus, Integer.sign, hminus, hplus]

theorem exists_sign (cs : List Char) : ∃ σ : Sign, cs = σ.text ++ (Integer.sign cs).2 ∧ (Integer.sign cs).1 = σ.isMinus := by
  cases cs with
  | nil => exact ⟨.none, rfl, rfl⟩
  | cons c rest =>
    unfold Integer.sign
    dsimp only
    split
    next hminus => exact ⟨.minus, by rw [eq_of_beq hminus]; rfl, rfl⟩
    next =>
      split
      next hplus => exact ⟨.plus, by rw [eq_of_beq hplus]; rfl, rfl⟩
      next => exact ⟨.none, rfl, rfl⟩

theorem textOf_ne_nil {ps : List Piece} (h : ps ≠ []) : textOf ps ≠ [] := by
  cases ps with
  | nil => exact absurd rfl h
  | cons p rest => simp [p.text_ne_nil]

theorem Written.sign_text (w : Written) : Integer.sign w.text = (w.sign.isMinus, textOf w.pieces) :=
  sign_append w.sign (textOf_ne_nil w.pieces_ne_nil) (goes_textOf w.pieces)

/-- Nothing is written in two ways. -/
theorem Written.text_injective : Function.Injective Written.text := by
  intro w w' h
  have hsign := congrArg Integer.sign h
  rw [w.sign_text, w'.sign_text, Prod.mk.injEq] at hsign
  have hpieces : w.pieces = w'.pieces := textOf_injective hsign.2
  have htext : w.sign.text = w'.sign.text := by
    unfold Written.text at h
    rw [hpieces] at h
    exact List.append_cancel_right h
  refine Written.ext ?_ hpieces
  revert htext
  cases w.sign <;> cases w'.sign <;> simp [Sign.text]

theorem Written.text_not_mem_zeros (w : Written) : w.text ∉ zeros := by
  have hparts : ∀ cs ∈ zeros, parts? (Integer.sign cs).2 = none := by
    intro cs hcs
    simp only [zeros, List.mem_cons, List.not_mem_nil, or_false] at hcs
    rcases hcs with rfl | rfl | rfl <;> exact parts?_of_part?_eq_none (by decide) (by rfl)
  intro h
  have hnone := hparts w.text h
  rw [w.sign_text, parts?_textOf] at hnone
  cases hnone

theorem signedParts?_of_mem_zeros {s : String} (h : trimChars s.toList ∈ zeros) : signedParts? s = some (false, []) := by
  simp only [zeros, List.mem_cons, List.not_mem_nil, or_false] at h
  unfold signedParts?
  rcases h with h | h | h <;> simp [h]

theorem signedParts?_of_not_mem_zeros {s : String} (h : trimChars s.toList ∉ zeros) :
    signedParts? s =
      if (Integer.sign (trimChars s.toList)).2.isEmpty then none
      else (parts? (Integer.sign (trimChars s.toList)).2).map ((Integer.sign (trimChars s.toList)).1, ·) := by
  simp only [zeros, List.mem_cons, List.not_mem_nil, or_false, not_or] at h
  unfold signedParts?
  simp [h]

/-- A duration that is written is read as its sign and its pieces. -/
theorem signedParts?_of_text {s : String} {w : Written} (h : trimChars s.toList = w.text) :
    signedParts? s = some (w.sign.isMinus, w.pieces.map Piece.part) := by
  have hne := textOf_ne_nil w.pieces_ne_nil
  rw [signedParts?_of_not_mem_zeros (h ▸ w.text_not_mem_zeros), h, w.sign_text, parts?_textOf]
  simp [hne]

/-- What is read is a zero or a duration as it is written. -/
theorem exists_of_signedParts? {s : String} {negative : Bool} {parts : List Part} (h : signedParts? s = some (negative, parts)) :
    trimChars s.toList ∈ zeros ∨ ∃ w : Written, trimChars s.toList = w.text := by
  by_cases hzero : trimChars s.toList ∈ zeros
  · exact .inl hzero
  · rw [signedParts?_of_not_mem_zeros hzero] at h
    split at h
    next => cases h
    next hempty =>
      obtain ⟨σ, hσ, -⟩ := exists_sign (trimChars s.toList)
      obtain ⟨found, hfound, -⟩ := Option.map_eq_some_iff.mp h
      obtain ⟨ps, hps, -⟩ := parts?_eq_some_iff.mp hfound
      rw [hps] at hσ hempty
      refine .inr ⟨⟨σ, ps, ?_⟩, hσ⟩
      rintro rfl
      exact hempty rfl

theorem ofTextBy?_of_text {s : String} {w : Written} (h : trimChars s.toList = w.text) :
    ofTextBy? exact s = some w.seconds := by
  unfold ofTextBy? Written.seconds
  rw [signedParts?_of_text h, Option.map_some]
  dsimp only
  rw [totalBy_exact]
  cases w.sign <;> simp [exact, Sign.isMinus, Sign.factor]

theorem exists_ofText?_iff (s : String) :
    (∃ x, ofText? s = some x) ↔ trimChars s.toList ∈ zeros ∨ ∃ w : Written, trimChars s.toList = w.text := by
  unfold ofText?
  constructor
  · rintro ⟨x, hx⟩
    obtain ⟨⟨negative, parts⟩, hfound, -⟩ := Option.map_eq_some_iff.mp hx
    exact exists_of_signedParts? hfound
  · rintro (h | ⟨w, h⟩)
    · exact ⟨_, congrArg (Option.map _) (signedParts?_of_mem_zeros h)⟩
    · exact ⟨_, congrArg (Option.map _) (signedParts?_of_text h)⟩

/-- What a text says without the blanks around it. -/
def bare (s : String) : List Char := trimChars s.toList

/-- What a text says behind its sign. -/
def body (s : String) : List Char := (Integer.sign (bare s)).2

theorem body_of_written {s : String} {w : Written} (h : bare s = w.text) : body s = textOf w.pieces := by
  rw [body, h, w.sign_text]

/-- **A duration is read exactly if it is written as one**, in the one way it is written. What the text without the blanks
around it says is a zero without a unit, or a sign, if there is one, and pieces, each a number directly followed by a unit;
no text says it in two ways. Reckoned without rounding it comes to the sign times the sum of the pieces, each its number times
its unit; what is read is the same reckoned with floats.

Searching the text behind the sign for the pattern of a piece, over and over, comes to the same: unless it is a zero, the text
is read exactly if it is not empty and the matches follow each other without a gap from its beginning to its end, and the
groups of the matches are the numbers and the units of the pieces. -/
theorem duration_iff_written (s : String) :
    ((∃ x, ofText? s = some x) ↔
      bare s ∈ zeros ∨ ∃ w : Written, bare s = w.text ∧ ∀ w' : Written, bare s = w'.text → w' = w) ∧
    (bare s ∈ zeros → ofTextBy? exact s = some 0) ∧
    (∀ w : Written, bare s = w.text → ofTextBy? exact s = some w.seconds) ∧
    ofText? s = ofTextBy? floats s ∧
    (bare s ∉ zeros → ((∃ x, ofText? s = some x) ↔
      body s ≠ [] ∧ Pattern.covered 0 (Pattern.spans piecePattern (body s)) = some (body s).length)) ∧
    ∀ w : Written, bare s = w.text →
      (Pattern.spans piecePattern (body s)).map (fun span =>
        (Pattern.groupAt? piecePattern (body s) span.1 1, Pattern.groupAt? piecePattern (body s) span.1 2)) =
      w.pieces.map fun p => (some p.number.text, some p.unit.text) := by
  refine ⟨?_, ?_, fun w hw => ofTextBy?_of_text hw, (ofTextBy?_floats s).symm, ?_, ?_⟩
  · rw [exists_ofText?_iff]
    refine or_congr_right ⟨fun ⟨w, hw⟩ => ⟨w, hw, fun w' hw' => ?_⟩, fun ⟨w, hw, _⟩ => ⟨w, hw⟩⟩
    exact Written.text_injective (hw'.symm.trans hw)
  · intro h
    unfold ofTextBy?
    rw [signedParts?_of_mem_zeros h]
    simp [exact, totalBy]
  · intro hzero
    rw [exists_ofText?_iff, covered_spans_iff]
    constructor
    · rintro (h | ⟨w, hw⟩)
      · exact absurd h hzero
      · have hbody := body_of_written hw
        refine ⟨?_, w.pieces, hbody⟩
        rw [hbody]
        exact textOf_ne_nil w.pieces_ne_nil
    · rintro ⟨hne, ps, hps⟩
      obtain ⟨σ, hσ, -⟩ := exists_sign (bare s)
      refine .inr ⟨⟨σ, ps, ?_⟩, hσ.trans (congrArg (σ.text ++ ·) hps)⟩
      rintro rfl
      exact hne hps
  · intro w hw
    rw [body_of_written hw, spans_textOf]
    exact groups_textOf [] w.pieces

end Rehearsal.Duration
