import Mathlib.Data.String.Basic
import Rehearsal.Text.Line

/-!
# Cutting a text at a character

Cutting a list is the library's own (`splitOn_eq`), so that its laws apply. `splitOn_singleton` says that cutting a text at
the text of one character is cutting its characters there: what is known of lists is known of the names of a path.
-/

namespace Rehearsal.Line

open String (utf8Len)

/-- The pieces of a list are those that the library cuts it into. -/
theorem splitOn_eq {α : Type} [BEq α] (cut : α) (l : List α) : splitOn cut l = l.splitOn cut := by
  induction l with
  | nil => rfl
  | cons c rest ih =>
    rw [splitOn, ih, List.splitOn_cons_eq_if_modifyHead]
    split
    next hrest => exact absurd hrest (List.splitOn_ne_nil cut rest)
    next piece more hrest => rw [hrest, List.modifyHead_cons]

section Lists

variable {α : Type} [BEq α]

/-- There is one piece more than there are cuts. -/
theorem length_splitOn (cut : α) (l : List α) : (l.splitOn cut).length = l.count cut + 1 := by
  induction l with
  | nil => rfl
  | cons c rest ih =>
    rw [List.splitOn_cons_eq_if_modifyHead, List.count_cons]
    cases c == cut with
    | true =>
      rw [if_pos rfl, if_pos rfl, List.length_cons, ih]
    | false =>
      rw [if_neg Bool.false_ne_true, if_neg Bool.false_ne_true, List.length_modifyHead, ih, Nat.add_zero]

/-- A piece has no cut in it. -/
theorem not_mem_of_mem_splitOn [LawfulBEq α] {cut : α} {l piece : List α} (h : piece ∈ l.splitOn cut) : cut ∉ piece := by
  induction l generalizing piece with
  | nil =>
    rw [List.splitOn_nil, List.mem_singleton] at h
    exact h ▸ List.not_mem_nil
  | cons c rest ih =>
    rw [List.splitOn_cons_eq_if_modifyHead] at h
    split at h
    next =>
      rcases List.mem_cons.mp h with rfl | h
      · exact List.not_mem_nil
      · exact ih h
    next hc =>
      obtain ⟨first, more, hpieces⟩ := List.exists_cons_of_ne_nil (List.splitOn_ne_nil cut rest)
      rw [hpieces] at h ih
      rw [List.modifyHead_cons] at h
      rcases List.mem_cons.mp h with rfl | h
      · have hne : cut ≠ c := fun heq => hc (by simp [heq])
        simpa [hne] using ih List.mem_cons_self
      · exact ih (List.mem_cons_of_mem _ h)

/-- Behind a cut come the pieces of what stands there. -/
theorem drop_splitOn [LawfulBEq α] (cut : α) (front rest : List α) :
    ((front ++ cut :: rest).splitOn cut).drop (front.count cut + 1) = rest.splitOn cut := by
  rw [List.splitOn_append_cons_self, ← length_splitOn, List.drop_left]

/-- Cuts at the front leave empty pieces. -/
theorem splitOn_replicate_append [LawfulBEq α] (cut : α) (n : Nat) (rest : List α) :
    (List.replicate n cut ++ rest).splitOn cut = List.replicate n [] ++ rest.splitOn cut := by
  induction n with
  | zero => rfl
  | succ n ih =>
    have hcut := List.splitOn_append_cons_self [] (List.replicate n cut ++ rest) (a := cut)
    rw [List.nil_append, List.splitOn_nil, ih] at hcut
    rw [List.replicate_succ, List.cons_append, hcut]
    rfl

end Lists

/-- The place of the search behind one more character. -/
theorem next_eq (front : List Char) (c : Char) (rest : List Char) :
    String.Pos.Raw.next (String.ofList (front ++ c :: rest)) ⟨utf8Len front⟩ = ⟨utf8Len (front ++ [c])⟩ := by
  rw [String.next_of_valid, String.utf8Len_append, String.utf8Len_cons, String.utf8Len_nil, Nat.zero_add]

theorem get_singleton (cut : Char) : String.Pos.Raw.get (String.singleton cut) 0 = cut := String.get_of_valid [] [cut]

theorem next_singleton (cut : Char) : String.Pos.Raw.next (String.singleton cut) 0 = ⟨utf8Len [cut]⟩ :=
  next_eq [] cut []

/-- At the character that is looked for, what stands in front of it is a piece. -/
theorem splitOnAux_cut (cut : Char) (l m r : List Char) (acc : List String) :
    String.splitOnAux (String.ofList (l ++ m ++ cut :: r)) (String.singleton cut) ⟨utf8Len l⟩ ⟨utf8Len (l ++ m)⟩ 0 acc =
      String.splitOnAux (String.ofList (l ++ m ++ cut :: r)) (String.singleton cut) ⟨utf8Len (l ++ m ++ [cut])⟩
        ⟨utf8Len (l ++ m ++ [cut])⟩ 0 (String.ofList m :: acc) := by
  have hend : ¬_ := mt (String.atEnd_of_valid (l ++ m) (cut :: r)).mp (List.cons_ne_nil cut r)
  have hget := String.get_of_valid (l ++ m) (cut :: r)
  have hdone : String.Pos.Raw.atEnd (String.singleton cut) ⟨utf8Len [cut]⟩ :=
    (String.atEnd_of_valid [cut] []).mpr rfl
  have hback : (⟨utf8Len (l ++ m ++ [cut])⟩ : String.Pos.Raw).unoffsetBy ⟨utf8Len [cut]⟩ = ⟨utf8Len l + utf8Len m⟩ := by
    refine String.Pos.Raw.ext ?_
    rw [String.Pos.Raw.byteIdx_unoffsetBy, String.utf8Len_append, String.utf8Len_append, Nat.add_sub_cancel]
  rw [String.splitOnAux, if_neg hend, hget, get_singleton, List.headD_cons, if_pos (beq_self_eq_true cut)]
  simp only [next_eq, next_singleton, hdone, if_true, hback, String.extract_of_valid l m (cut :: r)]

/-- Any other character is passed over. -/
theorem splitOnAux_pass {cut c : Char} (hc : c ≠ cut) (l m r : List Char) (acc : List String) :
    String.splitOnAux (String.ofList (l ++ m ++ c :: r)) (String.singleton cut) ⟨utf8Len l⟩ ⟨utf8Len (l ++ m)⟩ 0 acc =
      String.splitOnAux (String.ofList (l ++ m ++ c :: r)) (String.singleton cut) ⟨utf8Len l⟩
        ⟨utf8Len (l ++ m ++ [c])⟩ 0 acc := by
  have hend : ¬_ := mt (String.atEnd_of_valid (l ++ m) (c :: r)).mp (List.cons_ne_nil c r)
  have hget := String.get_of_valid (l ++ m) (c :: r)
  have hhere : (⟨utf8Len (l ++ m)⟩ : String.Pos.Raw).unoffsetBy 0 = ⟨utf8Len (l ++ m)⟩ := rfl
  rw [String.splitOnAux, if_neg hend, hget, get_singleton, List.headD_cons, if_neg (by simpa using hc), hhere, next_eq]

/-- Where the search has come to: `m` stands between the last cut and the place of the search, `r` behind it. -/
theorem splitOnAux_of_valid (cut : Char) (l m r : List Char) (acc : List String) (h : cut ∉ m) :
    String.splitOnAux (String.ofList (l ++ m ++ r)) (String.singleton cut) ⟨utf8Len l⟩ ⟨utf8Len (l ++ m)⟩ 0 acc =
      acc.reverse ++ (splitOn cut (m ++ r)).map String.ofList := by
  induction r generalizing l m acc with
  | nil =>
    have hend := (String.atEnd_of_valid (l ++ m) []).mpr rfl
    have hpiece := String.extract_of_valid l m []
    rw [← String.utf8Len_append] at hpiece
    rw [String.splitOnAux, if_pos hend, hpiece, List.append_nil, splitOn_eq, List.splitOn_eq_singleton h,
      List.reverse_cons]
    rfl
  | cons c r ih =>
    have hrest : l ++ m ++ c :: r = l ++ m ++ [c] ++ r := by simp
    by_cases hc : c = cut
    · subst hc
      have hnew := ih (l ++ m ++ [c]) [] (String.ofList m :: acc) List.not_mem_nil
      rw [List.append_nil, List.nil_append, List.reverse_cons, List.append_assoc acc.reverse] at hnew
      rw [splitOnAux_cut, hrest, hnew, splitOn_eq, splitOn_eq, List.splitOn_append_cons_self_of_not_mem h, List.map_cons]
      rfl
    · have hmem : cut ∉ m ++ [c] := by
        rw [List.mem_append, List.mem_singleton, not_or]
        exact ⟨h, Ne.symm hc⟩
      have hnew := ih l (m ++ [c]) acc hmem
      rw [← List.append_assoc, List.append_assoc m, List.singleton_append] at hnew
      rw [splitOnAux_pass hc, hrest, hnew]

/-- Cutting a text at a character is cutting its characters there. -/
theorem splitOn_singleton (cut : Char) (s : String) :
    s.splitOn (String.singleton cut) = (splitOn cut s.toList).map String.ofList := by
  have h := splitOnAux_of_valid cut [] [] s.toList [] List.not_mem_nil
  rw [List.nil_append, List.nil_append, String.ofList_toList] at h
  have hcut : (String.singleton cut == "") = false := beq_eq_false_iff_ne.mpr (by simp)
  rw [String.splitOn, hcut]
  exact h

end Rehearsal.Line
