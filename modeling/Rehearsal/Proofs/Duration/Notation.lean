import Mathlib.Algebra.Order.Field.Basic
import Mathlib.Data.Nat.Digits.Defs
import Mathlib.Data.Rat.Cast.Defs
import Mathlib.Tactic.Ring
import Rehearsal.Duration

/-!
# How durations are written

A duration is written as a sign, if there is one, and pieces one behind the other, each a number and a word for a unit.
`Numeral`, `Piece` and `Written` are these as data; what they say about themselves is all that is asked of them. `text` writes
them down and `seconds` is what they mean, a number of seconds without any rounding.

The laws are that nothing is written in two ways (`text_injective`) and that the reader finds in a text the pieces it is
written of, or nothing if there are none (`parts?_eq_some_iff`). A number ends where its unit begins and a unit where the
next number does, because no digit and no point stands in a word for a unit (`Goes`, `Stops`).
-/

namespace Rehearsal.Duration

/-! ## Numbers and units -/

/-- A decimal number as it is written: digits of any script, and those behind a point if there is one. There is a digit on
at least one side of it. -/
@[ext]
structure Numeral where
  whole : List Char
  fraction : Option (List Char)
  isDigit_whole : ∀ c ∈ whole, isDigit c = true
  isDigit_fraction : ∀ ds ∈ fraction, ∀ c ∈ ds, isDigit c = true
  digits_ne_nil : whole ++ fraction.getD [] ≠ []

/-- The words for units. -/
inductive UnitWord where
  | ns | us | micro | ms | s | m | h
  deriving DecidableEq, Repr

/-- The number that digits make, the last of them counting once. -/
def worth (ds : List Char) : ℕ := Nat.ofDigits 10 (ds.filterMap digitValue?).reverse

namespace Numeral

/-- A number written down. -/
def text (n : Numeral) : List Char := n.whole ++ n.fraction.elim [] ('.' :: ·)

/-- The digits behind the point. -/
def behind (n : Numeral) : List Char := n.fraction.getD []

/-- What a number is. -/
def value (n : Numeral) : ℚ := worth n.whole + worth n.behind / 10 ^ n.behind.length

end Numeral

namespace UnitWord

/-- A word as it is written. -/
def text : UnitWord → List Char
  | ns => ['n', 's']
  | us => ['u', 's']
  | micro => ['\u00b5', 's']
  | ms => ['m', 's']
  | s => ['s']
  | m => ['m']
  | h => ['h']

/-- How many seconds a word stands for. -/
def seconds : UnitWord → ℚ
  | ns => 1 / 1000000000
  | us | micro => 1 / 1000000
  | ms => 1 / 1000
  | s => 1
  | m => 60
  | h => 3600

/-- The unit that a word is read as. -/
def scale : UnitWord → Scale
  | ns => .nanosecond
  | us | micro => .microsecond
  | ms => .millisecond
  | s => .second
  | m => .minute
  | h => .hour

end UnitWord

/-! ## Pieces -/

/-- A number with the word for its unit directly behind it. -/
@[ext]
structure Piece where
  number : Numeral
  unit : UnitWord

namespace Piece

/-- A piece written down. -/
def text (p : Piece) : List Char := p.number.text ++ p.unit.text

/-- How long a piece is. -/
def seconds (p : Piece) : ℚ := p.number.value * p.unit.seconds

/-- What is read of a piece. -/
def part (p : Piece) : Part :=
  ⟨(p.number.whole ++ p.number.behind).filterMap digitValue?, p.number.behind.length, p.unit.scale⟩

end Piece

/-- Pieces written one behind the other. -/
def textOf (ps : List Piece) : List Char := ps.flatMap Piece.text

@[simp] theorem textOf_nil : textOf [] = [] := rfl

@[simp] theorem textOf_cons (p : Piece) (ps : List Piece) : textOf (p :: ps) = p.text ++ textOf ps := rfl

/-! ## Where digits begin

The digits above ASCII are a table that is written as a text of words. No word but the first matters to where its runs begin,
so the text is not read here to its end.
-/

/-- What is written at the front of a table is the first of its words. -/
theorem exists_hexWords_of_front {s : String} {cs : List Char} (h : s.toList = '6' :: '6' :: '0' :: ' ' :: cs) :
    ∃ more, hexWords s = 0x660 :: more := by
  unfold hexWords
  extract_lets step
  have hfold : ∀ (cs : List Char) (done : List Nat) (word : Option Nat),
      ∃ more word', cs.foldl step (done ++ [0x660], word) = (more ++ [0x660], word') := by
    intro cs
    induction cs with
    | nil => exact fun done word => ⟨done, word, rfl⟩
    | cons c cs ih =>
      intro done word
      rw [List.foldl_cons]
      cases hc : hexValue? c <;> cases word <;> simp only [step, hc]
      case none.some n => exact ih (n :: done) none
      all_goals exact ih done _
  obtain ⟨more, word, hmore⟩ := hfold cs [] none
  have hfront : s.toList.foldl step ([], none) = cs.foldl step ([] ++ [0x660], none) := by
    rw [h]
    rfl
  rw [hfront, hmore]
  cases word <;> simp

/-- Runs begin no earlier than they are counted from. -/
theorem le_of_mem_runsFrom {start : Nat} {ws : List Nat} {run : Nat × Nat} (h : run ∈ Property.runsFrom start ws) :
    start ≤ run.1 := by
  fun_induction Property.runsFrom start ws with
  | case1 start gap more rest ih =>
    rcases List.mem_cons.mp h with rfl | hrest
    · exact Nat.le_add_right start gap
    · have := ih hrest
      omega
  | case2 => cases h

theorem le_of_mem_ofWords {cs : List Char} {texts : List String} {run : Nat × Nat}
    (h : run ∈ (Property.ofWords (String.join (String.ofList ('6' :: '6' :: '0' :: ' ' :: cs) :: texts))).runs) :
    0x660 ≤ run.1 := by
  have htext : (String.join (String.ofList ('6' :: '6' :: '0' :: ' ' :: cs) :: texts)).toList =
      '6' :: '6' :: '0' :: ' ' :: (cs ++ (String.join texts).toList) := by simp
  obtain ⟨more, hmore⟩ := exists_hexWords_of_front htext
  unfold Property.ofWords at h
  rw [hmore] at h
  cases more with
  | nil => cases h
  | cons length later =>
    rcases List.mem_cons.mp h with rfl | hrest
    · exact Nat.le_add_left _ _
    · have := le_of_mem_runsFrom hrest
      omega

/-- Between the digits of ASCII and the Arabic ones there is no digit. -/
theorem isDigit_of_lt {c : Char} (hascii : 0x80 ≤ c.toNat) (h : c.toNat < 0x660) : isDigit c = false := by
  unfold isDigit digitValue?
  rw [if_neg (by omega), Option.isSome_map, List.isSome_find?, List.any_eq_false]
  rintro ⟨first, last⟩ hrun
  unfold digitTable at hrun
  have hfirst : 0x660 ≤ first := le_of_mem_ofWords hrun
  simp only [Bool.and_eq_true, decide_eq_true_eq]
  omega

/-! ## Where numbers and words end -/

/-- Whether a character may stand in a number. -/
def isNumeric (c : Char) : Bool := isDigit c || c == '.'

/-- A text that a number does not go on in. -/
def Stops (cs : List Char) : Prop := ∀ c ∈ cs.head?, isNumeric c = false

/-- A text with nothing in it, or a number at its front. -/
def Goes (cs : List Char) : Prop := ∀ c ∈ cs.head?, isNumeric c = true

theorem Numeral.isNumeric_text (n : Numeral) : ∀ c ∈ n.text, isNumeric c = true := by
  intro c hc
  unfold Numeral.text at hc
  rcases List.mem_append.mp hc with h | h
  · simp [isNumeric, n.isDigit_whole c h]
  · cases hfraction : n.fraction with
    | none => simp [hfraction] at h
    | some ds =>
      rw [hfraction, Option.elim_some, List.mem_cons] at h
      rcases h with rfl | h
      · simp [isNumeric]
      · simp [isNumeric, n.isDigit_fraction ds hfraction c h]

theorem Numeral.text_ne_nil (n : Numeral) : n.text ≠ [] := by
  intro h
  have hempty := n.digits_ne_nil
  cases hfraction : n.fraction <;> simp_all [Numeral.text]

theorem UnitWord.text_ne_nil (u : UnitWord) : u.text ≠ [] := by cases u <;> simp [UnitWord.text]

theorem UnitWord.isNumeric_text (u : UnitWord) : ∀ c ∈ u.text, isNumeric c = false := by
  have hmicro : isDigit '\u00b5' = false := isDigit_of_lt (by decide) (by decide)
  have hnone : u.text.any isNumeric = false := by
    cases u
    case micro => simp [UnitWord.text, isNumeric, hmicro, show isDigit 's' = false by decide]
    all_goals decide
  simpa using hnone

theorem mem_of_head?_append {front rest : List Char} (hne : front ≠ []) {c : Char} (hc : c ∈ (front ++ rest).head?) :
    c ∈ front := by
  cases front with
  | nil => exact absurd rfl hne
  | cons d more =>
    cases hc
    exact List.mem_cons_self

theorem UnitWord.stops_append (u : UnitWord) (rest : List Char) : Stops (u.text ++ rest) := by
  intro c hc
  exact u.isNumeric_text c (mem_of_head?_append u.text_ne_nil hc)

theorem Piece.text_ne_nil (p : Piece) : p.text ≠ [] := by simp [Piece.text, p.number.text_ne_nil]

theorem Piece.goes_append (p : Piece) (rest : List Char) : Goes (p.text ++ rest) := by
  intro c hc
  rw [Piece.text, List.append_assoc] at hc
  exact p.number.isNumeric_text c (mem_of_head?_append p.number.text_ne_nil hc)

theorem goes_textOf (ps : List Piece) : Goes (textOf ps) := by
  cases ps with
  | nil => simp [Goes]
  | cons p rest => exact p.goes_append (textOf rest)

/-! ## Nothing is written in two ways -/

theorem takeWhile_append_of_head {p : Char → Bool} {front rest : List Char} (hfront : ∀ c ∈ front, p c = true)
    (hrest : ∀ c ∈ rest.head?, p c = false) : (front ++ rest).takeWhile p = front := by
  rw [List.takeWhile_append_of_pos hfront]
  cases rest with
  | nil => simp
  | cons c more => simp [hrest c rfl]

/-- Of two texts that are cut where a test fails for the first time, the fronts and the rests are the same if the wholes
are. -/
theorem append_inj_of_head {p : Char → Bool} {front rest front' rest' : List Char} (hfront : ∀ c ∈ front, p c = true)
    (hrest : ∀ c ∈ rest.head?, p c = false) (hfront' : ∀ c ∈ front', p c = true) (hrest' : ∀ c ∈ rest'.head?, p c = false)
    (h : front ++ rest = front' ++ rest') : front = front' ∧ rest = rest' := by
  have hsame : front = front' := by
    rw [← takeWhile_append_of_head hfront hrest, h, takeWhile_append_of_head hfront' hrest']
  exact ⟨hsame, List.append_cancel_left (hsame ▸ h)⟩

theorem Numeral.text_injective : Function.Injective Numeral.text := by
  intro n n' h
  have hpoint : isDigit '.' = false := by decide
  have hhead : ∀ (n : Numeral), ∀ c ∈ (n.fraction.elim [] ('.' :: ·)).head?, isDigit c = false := by
    intro n c hc
    cases hfraction : n.fraction with
    | none => simp [hfraction] at hc
    | some ds =>
      simp only [hfraction, Option.elim_some, List.head?_cons, Option.mem_def, Option.some.injEq] at hc
      exact hc ▸ hpoint
  obtain ⟨hwhole, hrest⟩ := append_inj_of_head n.isDigit_whole (hhead n) n'.isDigit_whole (hhead n') h
  refine Numeral.ext hwhole ?_
  cases hfraction : n.fraction <;> cases hfraction' : n'.fraction <;> simp_all

theorem UnitWord.text_injective : Function.Injective UnitWord.text := by
  intro u u'
  cases u <;> cases u' <;> simp [UnitWord.text]

/-- A piece in front of what a number may begin is told from it. -/
theorem Piece.append_inj {p p' : Piece} {rest rest' : List Char} (hrest : Goes rest) (hrest' : Goes rest')
    (h : p.text ++ rest = p'.text ++ rest') : p = p' ∧ rest = rest' := by
  unfold Piece.text at h
  rw [List.append_assoc, List.append_assoc] at h
  obtain ⟨hnumber, h⟩ := append_inj_of_head p.number.isNumeric_text (p.unit.stops_append rest) p'.number.isNumeric_text
    (p'.unit.stops_append rest') h
  have hword : ∀ (u : UnitWord), ∀ c ∈ u.text, (!isNumeric c) = true := by
    intro u c hc
    rw [u.isNumeric_text c hc, Bool.not_false]
  have hgoes : ∀ {cs : List Char}, Goes cs → ∀ c ∈ cs.head?, (!isNumeric c) = false := by
    intro cs hcs c hc
    rw [hcs c hc, Bool.not_true]
  obtain ⟨hunit, hrest⟩ := append_inj_of_head (hword p.unit) (hgoes hrest) (hword p'.unit) (hgoes hrest') h
  exact ⟨Piece.ext (Numeral.text_injective hnumber) (UnitWord.text_injective hunit), hrest⟩

/-- **Pieces are told apart by what is written.** -/
theorem textOf_injective : Function.Injective textOf := by
  intro ps
  induction ps with
  | nil =>
    intro qs h
    cases qs with
    | nil => rfl
    | cons q rest => exact absurd (List.append_eq_nil_iff.mp h.symm).1 q.text_ne_nil
  | cons p rest ih =>
    intro qs h
    cases qs with
    | nil => exact absurd (List.append_eq_nil_iff.mp h).1 p.text_ne_nil
    | cons q more =>
      obtain ⟨rfl, hrest⟩ := Piece.append_inj (goes_textOf rest) (goes_textOf more) h
      rw [ih hrest]

/-! ## What is read of what is written -/

theorem length_filterMap_digitValue? {ds : List Char} (h : ∀ c ∈ ds, isDigit c = true) :
    (ds.filterMap digitValue?).length = ds.length := by
  induction ds with
  | nil => rfl
  | cons c rest ih =>
    obtain ⟨d, hd⟩ := Option.isSome_iff_exists.mp (h c List.mem_cons_self)
    rw [List.filterMap_cons_some hd, List.length_cons, List.length_cons, ih fun c hc => h c (List.mem_cons_of_mem _ hc)]

theorem leadingDigits_append {ds rest : List Char} (hds : ∀ c ∈ ds, isDigit c = true)
    (hrest : ∀ c ∈ rest.head?, isDigit c = false) : leadingDigits (ds ++ rest) = ds.filterMap digitValue? := by
  rw [leadingDigits, takeWhile_append_of_head hds hrest]

theorem Stops.isDigit {cs : List Char} (h : Stops cs) : ∀ c ∈ cs.head?, isDigit c = false := by
  intro c hc
  have := h c hc
  simp only [isNumeric, Bool.or_eq_false_iff] at this
  exact this.1

/-- **A number is read as what it was written from**, up to where it stops. -/
theorem number?_text_append (n : Numeral) {rest : List Char} (hrest : Stops rest) :
    number? (n.text ++ rest) =
      some ((n.whole ++ n.behind).filterMap digitValue?, n.behind.length, n.text.length) := by
  have hwhole := length_filterMap_digitValue? n.isDigit_whole
  have hempty := n.digits_ne_nil
  unfold Numeral.text Numeral.behind number?
  cases hfraction : n.fraction with
  | none =>
    rw [hfraction, Option.getD_none, List.append_nil] at hempty
    have hsome : (n.whole.filterMap digitValue?).isEmpty = false := by
      rw [List.isEmpty_eq_false_iff_exists_mem]
      refine List.exists_mem_of_ne_nil _ fun h => hempty ?_
      rw [h] at hwhole
      exact List.length_eq_zero_iff.mp hwhole.symm
    rw [Option.elim_none, List.append_nil, leadingDigits_append n.isDigit_whole hrest.isDigit]
    dsimp only
    rw [hwhole, List.drop_left]
    cases rest with
    | nil => simp [hsome]
    | cons c more =>
      have hpoint : c ≠ '.' := by
        intro h
        have := hrest c rfl
        simp [isNumeric, h] at this
      simp [hsome, hpoint]
  | some ds =>
    have hds := n.isDigit_fraction ds hfraction
    have hlength := length_filterMap_digitValue? hds
    rw [hfraction, Option.getD_some] at hempty
    have hsome : ((n.whole.filterMap digitValue?).isEmpty && (ds.filterMap digitValue?).isEmpty) = false := by
      rw [Bool.and_eq_false_iff, List.isEmpty_eq_false_iff, List.isEmpty_eq_false_iff, ← not_and_or]
      rintro ⟨hleft, hright⟩
      refine hempty (List.append_eq_nil_iff.mpr ⟨?_, ?_⟩)
      · exact List.length_eq_zero_iff.mp (by rw [← hwhole, hleft]; rfl)
      · exact List.length_eq_zero_iff.mp (by rw [← hlength, hright]; rfl)
    have hpoint : ∀ c ∈ ('.' :: (ds ++ rest)).head?, isDigit c = false := by
      intro c hc
      cases hc
      decide
    rw [Option.elim_some, Option.getD_some, List.append_assoc, List.cons_append,
      leadingDigits_append n.isDigit_whole hpoint]
    dsimp only
    rw [hwhole, List.drop_left]
    simp only [leadingDigits_append hds hrest.isDigit, hsome, hlength, Bool.false_eq_true, if_false,
      List.filterMap_append, List.length_append, List.length_cons, Nat.add_right_comm, ← Nat.add_assoc]

theorem takeWhile_isDigit (cs : List Char) : ∀ c ∈ cs.takeWhile isDigit, isDigit c = true := by
  intro c hc
  exact List.all_eq_true.mp List.all_takeWhile c hc

theorem length_leadingDigits (cs : List Char) :
    (leadingDigits cs).length = (cs.takeWhile isDigit).length := length_filterMap_digitValue? (takeWhile_isDigit cs)

theorem drop_leadingDigits (cs : List Char) : cs.drop (leadingDigits cs).length = cs.dropWhile isDigit := by
  rw [length_leadingDigits]
  calc cs.drop (cs.takeWhile isDigit).length
      = (cs.takeWhile isDigit ++ cs.dropWhile isDigit).drop (cs.takeWhile isDigit).length := by
        rw [List.takeWhile_append_dropWhile]
    _ = cs.dropWhile isDigit := List.drop_left

/-- What is read as a number is one that is written there. -/
theorem exists_of_number? {cs : List Char} {digits : List Nat} {places width : Nat}
    (h : number? cs = some (digits, places, width)) :
    ∃ (n : Numeral) (rest : List Char), cs = n.text ++ rest ∧ digits = (n.whole ++ n.behind).filterMap digitValue? ∧
      places = n.behind.length ∧ width = n.text.length := by
  have hcut : cs = cs.takeWhile isDigit ++ cs.dropWhile isDigit := (List.takeWhile_append_dropWhile).symm
  unfold number? at h
  dsimp only at h
  rw [drop_leadingDigits] at h
  split at h
  next rest hrest =>
    split at h
    next => cases h
    next hsome =>
      cases h
      refine ⟨⟨cs.takeWhile isDigit, some (rest.takeWhile isDigit), takeWhile_isDigit cs, ?_, ?_⟩, rest.dropWhile isDigit,
        ?_, ?_, ?_, ?_⟩
      · rintro ds ⟨⟩
        exact takeWhile_isDigit rest
      · intro hnil
        obtain ⟨hleft, hright⟩ := List.append_eq_nil_iff.mp hnil
        rw [Option.getD_some] at hright
        simp [leadingDigits, hleft, hright] at hsome
      · rw [hrest] at hcut
        conv_lhs => rw [hcut]
        simp [Numeral.text]
      · simp [Numeral.behind, leadingDigits]
      · simp [Numeral.behind, length_leadingDigits]
      · simp only [Numeral.text, Option.elim_some, List.length_append, List.length_cons, length_leadingDigits]
        omega
  next =>
    split at h
    next => cases h
    next hsome =>
      cases h
      refine ⟨⟨cs.takeWhile isDigit, none, takeWhile_isDigit cs, by simp, ?_⟩, cs.dropWhile isDigit, ?_, ?_, rfl, ?_⟩
      · intro hnil
        rw [Option.getD_none, List.append_nil] at hnil
        simp [leadingDigits, hnil] at hsome
      · simp [Numeral.text]
      · simp [Numeral.behind, leadingDigits]
      · simp [Numeral.text, length_leadingDigits]

theorem scale?_text_append (u : UnitWord) {rest : List Char} (hrest : Goes rest) :
    scale? (u.text ++ rest) = some (u.scale, u.text.length) := by
  cases u with
  | m =>
    cases rest with
    | nil => rfl
    | cons c more =>
      have hs : c ≠ 's' := by
        rintro rfl
        exact absurd (hrest 's' rfl) (by decide)
      simp [UnitWord.text, UnitWord.scale, scale?, hs]
  | _ => rfl

theorem exists_of_scale? {cs : List Char} {scale : Scale} {width : Nat} (h : scale? cs = some (scale, width)) :
    ∃ (u : UnitWord) (rest : List Char), cs = u.text ++ rest ∧ scale = u.scale ∧ width = u.text.length := by
  unfold scale? at h
  split at h
  case h_1 rest => cases h; exact ⟨.ns, rest, rfl, rfl, rfl⟩
  case h_2 rest => cases h; exact ⟨.us, rest, rfl, rfl, rfl⟩
  case h_3 rest => cases h; exact ⟨.micro, rest, rfl, rfl, rfl⟩
  case h_4 rest => cases h; exact ⟨.ms, rest, rfl, rfl, rfl⟩
  case h_5 rest => cases h; exact ⟨.s, rest, rfl, rfl, rfl⟩
  case h_6 rest _ => cases h; exact ⟨.m, rest, rfl, rfl, rfl⟩
  case h_7 rest => cases h; exact ⟨.h, rest, rfl, rfl, rfl⟩
  case h_8 => cases h

theorem part?_text_append (p : Piece) {rest : List Char} (hrest : Goes rest) :
    part? (p.text ++ rest) = some (p.part, p.text.length) := by
  have hnumber := number?_text_append p.number (p.unit.stops_append rest)
  have hscale := scale?_text_append p.unit hrest
  unfold part? Piece.text
  rw [List.append_assoc, hnumber]
  dsimp only
  rw [List.drop_left, hscale]
  simp [Piece.part]

theorem exists_of_part? {cs : List Char} {part : Part} {width : Nat} (h : part? cs = some (part, width)) :
    ∃ (p : Piece) (rest : List Char), cs = p.text ++ rest ∧ part = p.part ∧ width = p.text.length := by
  unfold part? at h
  split at h
  next => cases h
  next digits places width hnumber =>
    obtain ⟨n, behind, rfl, rfl, rfl, rfl⟩ := exists_of_number? hnumber
    rw [List.drop_left] at h
    split at h
    next => cases h
    next scale more hscale =>
      obtain ⟨u, rest, rfl, rfl, rfl⟩ := exists_of_scale? hscale
      cases h
      exact ⟨⟨n, u⟩, rest, by simp [Piece.text], rfl, by simp [Piece.text]⟩

theorem parts?_of_part? {cs : List Char} {p : Part} {width : Nat} (hcs : cs ≠ []) (hwidth : 0 < width)
    (h : part? cs = some (p, width)) : parts? cs = (parts? (cs.drop width)).map (p :: ·) := by
  cases cs with
  | nil => exact absurd rfl hcs
  | cons c rest =>
    obtain ⟨width, rfl⟩ := Nat.exists_eq_add_of_lt hwidth
    rw [parts?, h]
    simp

theorem parts?_of_part?_eq_none {cs : List Char} (hcs : cs ≠ []) (h : part? cs = none) : parts? cs = none := by
  cases cs with
  | nil => exact absurd rfl hcs
  | cons c rest => rw [parts?, h]

/-- Pieces are read as what they were written from. -/
theorem parts?_textOf (ps : List Piece) : parts? (textOf ps) = some (ps.map Piece.part) := by
  induction ps with
  | nil => rw [textOf_nil, parts?]; rfl
  | cons p rest ih =>
    have hpart := part?_text_append p (goes_textOf rest)
    have hne : p.text ++ textOf rest ≠ [] := by simp [p.text_ne_nil]
    rw [textOf_cons, parts?_of_part? hne (List.length_pos_iff.mpr p.text_ne_nil) hpart, List.drop_left, ih]
    rfl

/-- **The reader finds exactly what is written.** -/
theorem parts?_eq_some_iff {cs : List Char} {parts : List Part} :
    parts? cs = some parts ↔ ∃ ps, cs = textOf ps ∧ parts = ps.map Piece.part := by
  constructor
  · intro h
    -- The induction is on the length of the text, which every piece shortens.
    induction hn : cs.length using Nat.strong_induction_on generalizing cs parts with
    | _ n ih =>
      subst hn
      by_cases hcs : cs = []
      · subst hcs
        rw [parts?] at h
        cases h
        exact ⟨[], rfl, rfl⟩
      · cases hpart : part? cs with
        | none => rw [parts?_of_part?_eq_none hcs hpart] at h; cases h
        | some found =>
          obtain ⟨part, width⟩ := found
          obtain ⟨p, rest, rfl, rfl, rfl⟩ := exists_of_part? hpart
          have hpos : 0 < p.text.length := List.length_pos_iff.mpr p.text_ne_nil
          rw [parts?_of_part? hcs hpos hpart, List.drop_left, Option.map_eq_some_iff] at h
          obtain ⟨more, hmore, rfl⟩ := h
          obtain ⟨ps, rfl, rfl⟩ := ih rest.length (by rw [List.length_append]; omega) hmore rfl
          exact ⟨p :: ps, rfl, rfl⟩
  · rintro ⟨ps, rfl, rfl⟩
    exact parts?_textOf ps

end Rehearsal.Duration
