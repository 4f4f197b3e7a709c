import Mathlib.Data.List.Basic
import Rehearsal.Text.Bytes

/-!
# UTF-8 there and back

`decode_encode` and `encode_of_decode` say that texts and the byte strings that hold them correspond one to one: what
`encode` writes is read back, and a byte string that `decode` accepts is what `encode` writes for the answer.

Both come from the code of one character. `head_encodeChar` reads it and `encodeChar_of_head` writes it; the four lengths
a code can have are the four cases of each.

`exists_encode_between` is the law behind cutting encoded texts: between two ASCII bytes of an encoded text stands an
encoded text again. No byte of a longer code is ASCII, so a cut at an ASCII byte falls between characters.
-/

namespace Rehearsal.Utf8

/-! ## Numbers of bytes and characters -/

theorem toNat_cases (c : Char) : c.toNat < 0xD800 ∨ 0xDFFF < c.toNat ∧ c.toNat < 0x110000 := c.valid

theorem toNat_toUInt8 {n : Nat} (h : n < 256) : n.toUInt8.toNat = n := by
  rw [Nat.toUInt8_eq, UInt8.toNat_ofNat']
  omega

theorem toNat_ofNat {n : Nat} (h : n < 0xD800 ∨ 0xDFFF < n ∧ n < 0x110000) : (Char.ofNat n).toNat = n := by
  rw [Char.ofNat, dif_pos h]
  rfl

theorem isContinuation_iff {b : UInt8} : isContinuation b = true ↔ 0x80 ≤ b.toNat ∧ b.toNat < 0xC0 := by
  simp [isContinuation, UInt8.le_iff_toNat_le, UInt8.lt_iff_toNat_lt]

theorem isSecond_iff {first b : UInt8} : isSecond first b = true ↔
    (0x80 ≤ b.toNat ∧ b.toNat < 0xC0) ∧ (first.toNat = 0xE0 → 0xA0 ≤ b.toNat) ∧
      (first.toNat = 0xED → b.toNat < 0xA0) ∧ (first.toNat = 0xF0 → 0x90 ≤ b.toNat) ∧
      (first.toNat = 0xF4 → b.toNat < 0x90) := by
  simp [isSecond, isContinuation_iff, UInt8.le_iff_toNat_le, UInt8.lt_iff_toNat_lt, ← UInt8.toNat_inj]
  omega

/-! ## What stands at the head -/

theorem head_one {a : UInt8} (ha : a.toNat < 0x80) (rest : Bytes) : head a rest = .char (Char.ofNat a.toNat) 0 := by
  have h : a < 0x80 := by simpa [UInt8.lt_iff_toNat_lt] using ha
  simp [head, h]

theorem head_two {a b : UInt8} (ha : 0xC2 ≤ a.toNat ∧ a.toNat < 0xE0) (hb : isContinuation b = true) (rest : Bytes) :
    head a (b :: rest) = .char (Char.ofNat ((a.toNat - 0xC0) * 64 + low b)) 1 := by
  have h1 : ¬a < 0x80 := by simp [UInt8.lt_iff_toNat_lt]; omega
  have h2 : ¬a < 0xC2 := by simp [UInt8.lt_iff_toNat_lt]; omega
  have h3 : a < 0xE0 := by simpa [UInt8.lt_iff_toNat_lt] using ha.2
  simp [head, h1, h2, h3, hb]

theorem head_three {a b c : UInt8} (ha : 0xE0 ≤ a.toNat ∧ a.toNat < 0xF0) (hb : isSecond a b = true)
    (hc : isContinuation c = true) (rest : Bytes) :
    head a (b :: c :: rest) = .char (Char.ofNat ((a.toNat - 0xE0) * 4096 + low b * 64 + low c)) 2 := by
  have h1 : ¬a < 0x80 := by simp [UInt8.lt_iff_toNat_lt]; omega
  have h2 : ¬a < 0xC2 := by simp [UInt8.lt_iff_toNat_lt]; omega
  have h3 : ¬a < 0xE0 := by simp [UInt8.lt_iff_toNat_lt]; omega
  have h4 : a < 0xF0 := by simpa [UInt8.lt_iff_toNat_lt] using ha.2
  simp [head, h1, h2, h3, h4, hb, hc]

theorem head_four {a b c d : UInt8} (ha : 0xF0 ≤ a.toNat ∧ a.toNat < 0xF5) (hb : isSecond a b = true)
    (hc : isContinuation c = true) (hd : isContinuation d = true) (rest : Bytes) :
    head a (b :: c :: d :: rest) =
      .char (Char.ofNat ((a.toNat - 0xF0) * 262144 + low b * 4096 + low c * 64 + low d)) 3 := by
  have h1 : ¬a < 0x80 := by simp [UInt8.lt_iff_toNat_lt]; omega
  have h2 : ¬a < 0xC2 := by simp [UInt8.lt_iff_toNat_lt]; omega
  have h3 : ¬a < 0xE0 := by simp [UInt8.lt_iff_toNat_lt]; omega
  have h4 : ¬a < 0xF0 := by simp [UInt8.lt_iff_toNat_lt]; omega
  have h5 : a < 0xF5 := by simpa [UInt8.lt_iff_toNat_lt] using ha.2
  simp [head, h1, h2, h3, h4, h5, hb, hc, hd]

/-- The code of a character is read as that character, whatever stands behind it. -/
theorem head_encodeChar (ch : Char) :
    ∃ a tail, encodeChar ch = a :: tail ∧ ∀ rest, head a (tail ++ rest) = .char ch tail.length := by
  have hvalid := toNat_cases ch
  unfold encodeChar
  by_cases h1 : ch.toNat < 0x80
  · refine ⟨_, _, if_pos h1, fun rest => ?_⟩
    have ha := toNat_toUInt8 (n := ch.toNat) (by omega)
    rw [head_one (by omega), ha, Char.ofNat_toNat]
    rfl
  by_cases h2 : ch.toNat < 0x800
  · refine ⟨_, _, (if_neg h1).trans (if_pos h2), fun rest => ?_⟩
    have ha := toNat_toUInt8 (n := 0xC0 + ch.toNat / 64) (by omega)
    have hb := toNat_toUInt8 (n := 0x80 + ch.toNat % 64) (by omega)
    rw [List.cons_append, head_two (by omega) (isContinuation_iff.mpr (by omega)), low, ha, hb,
      show (0xC0 + ch.toNat / 64 - 0xC0) * 64 + (0x80 + ch.toNat % 64) % 64 = ch.toNat by omega, Char.ofNat_toNat]
    rfl
  by_cases h3 : ch.toNat < 0x10000
  · refine ⟨_, _, (if_neg h1).trans ((if_neg h2).trans (if_pos h3)), fun rest => ?_⟩
    have ha := toNat_toUInt8 (n := 0xE0 + ch.toNat / 4096) (by omega)
    have hb := toNat_toUInt8 (n := 0x80 + ch.toNat / 64 % 64) (by omega)
    have hc := toNat_toUInt8 (n := 0x80 + ch.toNat % 64) (by omega)
    rw [List.cons_append, List.cons_append, head_three (by omega) (isSecond_iff.mpr (by omega))
        (isContinuation_iff.mpr (by omega)), low, low, ha, hb, hc,
      show (0xE0 + ch.toNat / 4096 - 0xE0) * 4096 + (0x80 + ch.toNat / 64 % 64) % 64 * 64 +
        (0x80 + ch.toNat % 64) % 64 = ch.toNat by omega, Char.ofNat_toNat]
    rfl
  · refine ⟨_, _, (if_neg h1).trans ((if_neg h2).trans (if_neg h3)), fun rest => ?_⟩
    have ha := toNat_toUInt8 (n := 0xF0 + ch.toNat / 262144) (by omega)
    have hb := toNat_toUInt8 (n := 0x80 + ch.toNat / 4096 % 64) (by omega)
    have hc := toNat_toUInt8 (n := 0x80 + ch.toNat / 64 % 64) (by omega)
    have hd := toNat_toUInt8 (n := 0x80 + ch.toNat % 64) (by omega)
    rw [List.cons_append, List.cons_append, List.cons_append, head_four (by omega) (isSecond_iff.mpr (by omega))
        (isContinuation_iff.mpr (by omega)) (isContinuation_iff.mpr (by omega)), low, low, low, ha, hb, hc, hd,
      show (0xF0 + ch.toNat / 262144 - 0xF0) * 262144 + (0x80 + ch.toNat / 4096 % 64) % 64 * 4096 +
        (0x80 + ch.toNat / 64 % 64) % 64 * 64 + (0x80 + ch.toNat % 64) % 64 = ch.toNat by omega, Char.ofNat_toNat]
    rfl

/-- The four shapes of a character at the head of a byte string. -/
inductive Shape (a : UInt8) : Bytes → Char → Nat → Prop where
  | one {rest : Bytes} (ha : a.toNat < 0x80) : Shape a rest (Char.ofNat a.toNat) 0
  | two {b : UInt8} {more : Bytes} (ha : 0xC2 ≤ a.toNat ∧ a.toNat < 0xE0) (hb : isContinuation b = true) :
    Shape a (b :: more) (Char.ofNat ((a.toNat - 0xC0) * 64 + low b)) 1
  | three {b c : UInt8} {more : Bytes} (ha : 0xE0 ≤ a.toNat ∧ a.toNat < 0xF0) (hb : isSecond a b = true)
    (hc : isContinuation c = true) :
    Shape a (b :: c :: more) (Char.ofNat ((a.toNat - 0xE0) * 4096 + low b * 64 + low c)) 2
  | four {b c d : UInt8} {more : Bytes} (ha : 0xF0 ≤ a.toNat ∧ a.toNat < 0xF5) (hb : isSecond a b = true)
    (hc : isContinuation c = true) (hd : isContinuation d = true) :
    Shape a (b :: c :: d :: more) (Char.ofNat ((a.toNat - 0xF0) * 262144 + low b * 4096 + low c * 64 + low d)) 3

theorem shape_of_head {a : UInt8} {rest : Bytes} {ch : Char} {extra : Nat} (h : head a rest = .char ch extra) :
    Shape a rest ch extra := by
  simp only [head, UInt8.lt_iff_toNat_lt, UInt8.reduceToNat, Bool.not_eq_true'] at h
  split at h
  next h1 =>
    cases h
    exact .one h1
  split at h
  next => cases h
  split at h
  next h2 h3 =>
    split at h
    next => cases h
    next b more =>
      split at h
      next hb =>
        cases h
        exact .two (by omega) hb
      next => cases h
  split at h
  next h3 h4 =>
    split at h
    next => cases h
    next b more =>
      split at h
      next => cases h
      next hb =>
        split at h
        next => cases h
        next c more =>
          split at h
          next hc =>
            cases h
            exact .three (by omega) (by simpa using hb) hc
          next => cases h
  split at h
  next h4 h5 =>
    split at h
    next => cases h
    next b more =>
      split at h
      next => cases h
      next hb =>
        split at h
        next => cases h
        next c more =>
          split at h
          next => cases h
          next hc =>
            split at h
            next => cases h
            next d more =>
              split at h
              next hd =>
                cases h
                exact .four (by omega) (by simpa using hb) (by simpa using hc) hd
              next => cases h
  next => cases h

/-- A character at the head of a byte string stands there by its code. -/
theorem encodeChar_of_head {a : UInt8} {rest : Bytes} {ch : Char} {extra : Nat} (h : head a rest = .char ch extra) :
    a :: rest = encodeChar ch ++ rest.drop extra := by
  cases shape_of_head h with
  | one ha =>
    have hn := toNat_ofNat (n := a.toNat) (by omega)
    simp only [encodeChar, hn, if_pos ha, List.drop_zero, List.cons_append, List.nil_append, List.cons.injEq, and_true]
    exact UInt8.toNat_inj.mp (toNat_toUInt8 (by omega)).symm
  | @two b more ha hb =>
    rw [isContinuation_iff] at hb
    have hn := toNat_ofNat (n := (a.toNat - 0xC0) * 64 + low b) (by unfold low; omega)
    unfold low at hn ⊢
    rw [encodeChar, if_neg (by omega), if_pos (by omega), hn]
    simp only [List.drop_succ_cons, List.drop_zero, List.cons_append, List.nil_append, List.cons.injEq, and_true]
    refine ⟨UInt8.toNat_inj.mp ?_, UInt8.toNat_inj.mp ?_⟩ <;> rw [toNat_toUInt8 (by omega)] <;> omega
  | @three b c more ha hb hc =>
    rw [isContinuation_iff] at hc
    rw [isSecond_iff] at hb
    have hn := toNat_ofNat (n := (a.toNat - 0xE0) * 4096 + low b * 64 + low c) (by unfold low; omega)
    unfold low at hn ⊢
    rw [encodeChar, if_neg (by omega), if_neg (by omega), if_pos (by omega), hn]
    simp only [List.drop_succ_cons, List.drop_zero, List.cons_append, List.nil_append, List.cons.injEq, and_true]
    refine ⟨UInt8.toNat_inj.mp ?_, UInt8.toNat_inj.mp ?_, UInt8.toNat_inj.mp ?_⟩ <;>
      rw [toNat_toUInt8 (by omega)] <;> omega
  | @four b c d more ha hb hc hd =>
    rw [isContinuation_iff] at hc hd
    rw [isSecond_iff] at hb
    have hn := toNat_ofNat (n := (a.toNat - 0xF0) * 262144 + low b * 4096 + low c * 64 + low d)
      (by unfold low; omega)
    unfold low at hn ⊢
    rw [encodeChar, if_neg (by omega), if_neg (by omega), if_neg (by omega), hn]
    simp only [List.drop_succ_cons, List.drop_zero, List.cons_append, List.nil_append, List.cons.injEq, and_true]
    refine ⟨UInt8.toNat_inj.mp ?_, UInt8.toNat_inj.mp ?_, UInt8.toNat_inj.mp ?_, UInt8.toNat_inj.mp ?_⟩ <;>
      rw [toNat_toUInt8 (by omega)] <;> omega

/-! ## There and back -/

theorem encodeChars_append (cs ds : List Char) : encodeChars (cs ++ ds) = encodeChars cs ++ encodeChars ds :=
  List.flatMap_append

theorem encodeChars_cons (c : Char) (cs : List Char) : encodeChars (c :: cs) = encodeChar c ++ encodeChars cs := rfl

theorem encodeChar_ne_nil (c : Char) : encodeChar c ≠ [] := by
  obtain ⟨a, tail, heq, -⟩ := head_encodeChar c
  rw [heq]
  exact List.cons_ne_nil _ _

theorem decodeFrom_encodeChars (cs : List Char) (start : Nat) : decodeFrom start (encodeChars cs) = .ok cs := by
  induction cs generalizing start with
  | nil => rw [encodeChars, List.flatMap_nil, decodeFrom]
  | cons c cs ih =>
    obtain ⟨a, tail, heq, hhead⟩ := head_encodeChar c
    rw [encodeChars_cons, heq, List.cons_append, decodeFrom, hhead]
    simp only [List.drop_left, ih]

theorem decodeChars_encodeChars (cs : List Char) : decodeChars (encodeChars cs) = .ok cs :=
  decodeFrom_encodeChars cs 0

/-- A text that was encoded is read back. -/
theorem decode_encode (s : String) : decode (encode s) = .ok s := by
  rw [decode, encode, decodeChars_encodeChars]
  simp only [String.ofList_toList]

theorem encodeChars_of_decodeFrom {d : Bytes} {start : Nat} {cs : List Char} (h : decodeFrom start d = .ok cs) :
    encodeChars cs = d := by
  induction hn : d.length using Nat.strongRecOn generalizing d start cs with
  | ind n ih =>
    cases d with
    | nil =>
      rw [decodeFrom] at h
      cases h
      rfl
    | cons a rest =>
      rw [decodeFrom] at h
      split at h
      next c extra hhead =>
        split at h
        next cs' hrest =>
          cases h
          have hlt : (rest.drop extra).length < n := by
            rw [← hn, List.length_drop, List.length_cons]
            omega
          rw [encodeChars_cons, ih _ hlt hrest rfl, ← encodeChar_of_head hhead]
        next => cases h
      next => cases h

theorem encodeChars_of_decodeChars {d : Bytes} {cs : List Char} (h : decodeChars d = .ok cs) : encodeChars cs = d :=
  encodeChars_of_decodeFrom h

/-- A byte string that is read as a text is the code of that text. -/
theorem encode_of_decode {d : Bytes} {s : String} (h : decode d = .ok s) : encode s = d := by
  rw [decode] at h
  split at h
  next cs hcs =>
    cases h
    rw [encode, String.toList_ofList, encodeChars_of_decodeChars hcs]
  next => cases h

theorem encode_injective {s t : String} (h : encode s = encode t) : s = t := by
  have hs := decode_encode s
  rw [h, decode_encode t] at hs
  exact (Except.ok.inj hs).symm

@[simp] theorem encode_eq_nil_iff {s : String} : encode s = [] ↔ s = "" := by
  refine ⟨fun h => encode_injective (h.trans rfl), fun h => by rw [h]; rfl⟩

/-! ## ASCII -/

/-- An ASCII character is one byte of its number; a longer code holds no ASCII byte. -/
theorem encodeChar_cases (c : Char) :
    (c.toNat < 0x80 ∧ encodeChar c = [c.toNat.toUInt8]) ∨
      (0x80 ≤ c.toNat ∧ ∀ b ∈ encodeChar c, 0x80 ≤ b.toNat) := by
  have hvalid := toNat_cases c
  unfold encodeChar
  by_cases h1 : c.toNat < 0x80
  · exact .inl ⟨h1, if_pos h1⟩
  · right
    refine ⟨by omega, ?_⟩
    rw [if_neg h1]
    split
    · rintro b hb
      simp only [List.mem_cons, List.not_mem_nil, or_false] at hb
      rcases hb with rfl | rfl <;> rw [toNat_toUInt8 (by omega)] <;> omega
    split
    · rintro b hb
      simp only [List.mem_cons, List.not_mem_nil, or_false] at hb
      rcases hb with rfl | rfl | rfl <;> rw [toNat_toUInt8 (by omega)] <;> omega
    · rintro b hb
      simp only [List.mem_cons, List.not_mem_nil, or_false] at hb
      rcases hb with rfl | rfl | rfl | rfl <;> rw [toNat_toUInt8 (by omega)] <;> omega

/-- An ASCII byte in a code is the whole code. -/
theorem encodeChar_of_ascii_mem {c : Char} {b : UInt8} (hb : b.toNat < 0x80) (h : b ∈ encodeChar c) :
    encodeChar c = [b] ∧ c.toNat = b.toNat := by
  rcases encodeChar_cases c with ⟨hc, heq⟩ | ⟨-, hall⟩
  · rw [heq, List.mem_singleton] at h
    exact ⟨by rw [heq, h], by rw [h, toNat_toUInt8 (by omega)]⟩
  · exact absurd (hall b h) (by omega)

/-- An encoded text can be cut in front of an ASCII byte and behind it. -/
theorem exists_encodeChars_cut {b : UInt8} (hb : b.toNat < 0x80) :
    ∀ {cs : List Char} {front back : Bytes}, encodeChars cs = front ++ b :: back →
      ∃ cs₁ c cs₂, cs = cs₁ ++ c :: cs₂ ∧ c.toNat = b.toNat ∧ encodeChars cs₁ = front ∧ encodeChars cs₂ = back := by
  intro cs
  induction cs with
  | nil => intro front back h; simp [encodeChars] at h
  | cons c cs ih =>
    intro front back h
    rw [encodeChars_cons, List.append_eq_append_iff] at h
    rcases h with ⟨more, rfl, hrest⟩ | ⟨more, hcode, hrest⟩
    · obtain ⟨cs₁, c', cs₂, rfl, hc, rfl, rfl⟩ := ih hrest
      exact ⟨c :: cs₁, c', cs₂, rfl, hc, rfl, rfl⟩
    cases more with
    | nil =>
      have hback : encodeChars cs = [] ++ b :: back := hrest.symm
      obtain ⟨cs₁, c', cs₂, rfl, hc, hnil, rfl⟩ := ih hback
      refine ⟨c :: cs₁, c', cs₂, rfl, hc, ?_, rfl⟩
      rw [encodeChars_cons, hnil, hcode, List.append_nil, List.append_nil]
    | cons b' more =>
      -- The byte lies in the code of `c`, so it is that code.
      rw [List.cons_append, List.cons.injEq] at hrest
      obtain ⟨rfl, rfl⟩ := hrest
      obtain ⟨hone, hc⟩ := encodeChar_of_ascii_mem hb (hcode ▸ List.mem_append_right _ List.mem_cons_self)
      rw [hone, eq_comm, List.append_eq_singleton_iff] at hcode
      rcases hcode with ⟨rfl, hmore⟩ | ⟨-, hmore⟩
      · cases hmore
        exact ⟨[], c, cs, rfl, hc, rfl, rfl⟩
      · cases hmore

/-- Between two ASCII bytes of an encoded text stands an encoded text. -/
theorem exists_encode_between {s : String} {front middle back : Bytes} {a b : UInt8} (ha : a.toNat < 0x80)
    (hb : b.toNat < 0x80) (h : encode s = front ++ a :: (middle ++ b :: back)) : ∃ t, encode t = middle := by
  obtain ⟨_, _, cs, -, -, -, hcs⟩ := exists_encodeChars_cut ha h
  obtain ⟨cs₁, _, _, -, -, hmiddle, -⟩ := exists_encodeChars_cut hb hcs
  exact ⟨String.ofList cs₁, by rw [encode, String.toList_ofList, hmiddle]⟩

/-- An ASCII byte stands in an encoded text exactly when its character stands in the text. -/
theorem mem_encode_iff {s : String} {b : UInt8} (hb : b.toNat < 0x80) :
    b ∈ encode s ↔ Char.ofNat b.toNat ∈ s.toList := by
  have hof : ∀ {c : Char}, c.toNat = b.toNat → c = Char.ofNat b.toNat := fun h => by rw [← h, Char.ofNat_toNat]
  rw [encode, encodeChars, List.mem_flatMap]
  constructor
  · rintro ⟨c, hc, hmem⟩
    exact hof (encodeChar_of_ascii_mem hb hmem).2 ▸ hc
  · intro h
    refine ⟨_, h, ?_⟩
    have hn := toNat_ofNat (n := b.toNat) (by omega)
    rw [encodeChar, hn, if_pos hb, List.mem_singleton]
    exact UInt8.toNat_inj.mp (toNat_toUInt8 (by omega)).symm

end Rehearsal.Utf8
