import Rehearsal.Archive.Quoting
import Rehearsal.Proofs.Archive.RoundTrip

/-!
# Quoted contents

What `quote` writes is free of marker lines and `unquote` takes it back to what it was: `isPlain_of_quote` and
`unquote_of_quote`. `quoting_faithful` puts this together with what can be quoted (`quote_error_iff`), with what an archive
does with quoted contents, and with what quoting makes of contents whose quotes were taken away: `unquote` lets lines
without a mark stand, so the two are inverse to each other only where every line has one.

`needsQuote_encode` says when a text has to be quoted. For the code of a text the search never fails, because a name
between the dashes of a marker line is cut out at ASCII bytes.
-/

namespace Rehearsal.Archive

open Bytes (newline IsEnded)

/-! ## Whether a text has to be quoted -/

/-- The middle of a marker line in the code of a text is the code of a text. -/
theorem exists_encode_middle {s : String} {front body back : Bytes}
    (h : Utf8.encode s = front ++ (opening ++ body ++ closing) ++ back) : ∃ t, Utf8.encode t = Bytes.trim body := by
  obtain ⟨lead, trail, hbody, hlead, htrail, -⟩ := Bytes.exists_trim body
  have hascii : ∀ b, Bytes.isBlank b = true → b.toNat < 0x80 := fun b hb => by
    rw [isBlank_iff] at hb
    omega
  -- The byte in front is the last of the opening and the blanks, the byte behind the first of the blanks and the closing.
  obtain ⟨lead', a, hlead', ha⟩ : ∃ lead' a, opening ++ lead = lead' ++ [a] ∧ a.toNat < 0x80 := by
    rcases List.eq_nil_or_concat lead with rfl | ⟨more, a, rfl⟩
    · exact ⟨[45, 45], 32, by rw [opening_eq]; rfl, by decide⟩
    · exact ⟨opening ++ more, a, by rw [List.concat_eq_append, List.append_assoc], hascii a (hlead a (by simp))⟩
  obtain ⟨b, trail', htrail', hb⟩ : ∃ b trail', trail ++ closing = b :: trail' ∧ b.toNat < 0x80 := by
    cases trail with
    | nil => exact ⟨32, [45, 45], by rw [closing_eq]; rfl, by decide⟩
    | cons b more => exact ⟨b, more ++ closing, rfl, hascii b (htrail b List.mem_cons_self)⟩
  have hcut : Utf8.encode s = front ++ lead' ++ a :: (Bytes.trim body ++ b :: (trail' ++ back)) := by
    calc Utf8.encode s = front ++ (opening ++ (lead ++ Bytes.trim body ++ trail) ++ closing) ++ back := by rw [← hbody, h]
      _ = front ++ (opening ++ lead) ++ Bytes.trim body ++ (trail ++ closing) ++ back := by simp
      _ = front ++ lead' ++ a :: (Bytes.trim body ++ b :: (trail' ++ back)) := by rw [hlead', htrail']; simp
  exact Utf8.exists_encode_between ha hb hcut

/-- Looking for a name fails in no line of the code of a text. -/
theorem exists_markerName?_of_mem_lines {s : String} {line : Bytes} (h : line ∈ Bytes.lines (Utf8.encode s)) :
    ∃ name?, markerName? (Bytes.trimRight newline line) = .ok name? := by
  rw [markerName?]
  split
  next => exact ⟨_, rfl⟩
  next m hm =>
    obtain ⟨body, hbody, rfl⟩ := markerMiddle?_eq_some_iff.mp hm
    obtain ⟨n, hcr, -⟩ := Bytes.exists_trimRight Bytes.carriageReturn (Bytes.trimRight newline line)
    obtain ⟨k, hnl, -⟩ := Bytes.exists_trimRight newline line
    obtain ⟨before, after, hlines⟩ := List.append_of_mem h
    have hcode : Utf8.encode s = before.flatten ++ (opening ++ body ++ closing) ++
        (List.replicate n Bytes.carriageReturn ++ (List.replicate k newline ++ after.flatten)) := by
      calc Utf8.encode s = before.flatten ++ (line ++ after.flatten) := by
            rw [← Bytes.flatten_lines (Utf8.encode s), hlines, List.flatten_append, List.flatten_cons]
        _ = _ := by rw [hnl, hcr, hbody]; simp
    obtain ⟨t, ht⟩ := exists_encode_middle hcode
    rw [← ht, Utf8.decode_encode]
    exact ⟨_, rfl⟩

/-- A text has to be quoted exactly when a line of it marks a file. -/
theorem needsQuote_encode (s : String) : needsQuote (Utf8.encode s) = .ok (decide ¬IsPlain (Utf8.encode s)) := by
  have hall : ∀ ls : List Bytes,
      (∀ line ∈ ls, ∃ name?, markerName? (Bytes.trimRight newline line) = .ok name?) →
        anyMarker ls = .ok (decide ¬∀ line ∈ ls, ¬IsMarker (Bytes.trimRight newline line)) := by
    intro ls hls
    induction ls with
    | nil => simp [anyMarker]
    | cons line ls ih =>
      obtain ⟨name?, hname⟩ := hls line List.mem_cons_self
      have hrest := ih fun l hl => hls l (List.mem_cons_of_mem _ hl)
      rw [anyMarker, hname]
      cases name? with
      | none =>
        have hline := markerName?_eq_none_iff.mp hname
        simp only [hrest, List.forall_mem_cons, hline, not_false_eq_true, true_and]
      | some name =>
        have hline : IsMarker (Bytes.trimRight newline line) := by
          by_contra hnot
          rw [markerName?_eq_none_iff.mpr hnot] at hname
          cases hname
        simp only [List.forall_mem_cons, hline, not_true_eq_false, false_and, not_false_eq_true, decide_true]
  rw [needsQuote_eq_anyMarker]
  exact hall _ fun _ => exists_markerName?_of_mem_lines

/-- Contents without a marker line need no quotes. -/
theorem needsQuote_of_isPlain {d : Bytes} (h : IsPlain d) : needsQuote d = .ok false := by
  have hall : ∀ ls : List Bytes, (∀ line ∈ ls, ¬IsMarker (Bytes.trimRight newline line)) → anyMarker ls = .ok false := by
    intro ls hls
    induction ls with
    | nil => rfl
    | cons line ls ih =>
      rw [anyMarker, markerName?_eq_none_iff.mpr (hls line List.mem_cons_self)]
      exact ih fun l hl => hls l (List.mem_cons_of_mem _ hl)
  rw [needsQuote_eq_anyMarker]
  exact hall _ h

/-! ## What can be quoted -/

/-- What may not stand in quoted contents: a control below the space that is neither newline nor tab. -/
theorem isQuotable_eq_false_iff {c : Char} : isQuotable c = false ↔ c < ' ' ∧ c ≠ '\n' ∧ c ≠ '\t' := by
  simp [isQuotable, and_assoc]

/-- The first character that may not stand in quoted contents is found if there is one. -/
theorem find?_unquotable_eq_none_iff {cs : List Char} :
    (cs.zipIdx.find? fun (c, _) => !isQuotable c) = none ↔ ∀ c ∈ cs, isQuotable c = true := by
  rw [List.find?_eq_none]
  constructor
  · intro h c hc
    obtain ⟨i, hi, rfl⟩ := List.getElem_of_mem hc
    have := h (cs[i], i) (List.mk_mem_zipIdx_iff_getElem?.mpr (List.getElem?_eq_getElem hi))
    simpa using this
  · rintro h ⟨c, i⟩ hmem
    have hc : c ∈ cs := List.mem_of_getElem? (List.mk_mem_zipIdx_iff_getElem?.mp hmem)
    simp [h c hc]

/-- **What cannot be quoted**: contents that do not end in a newline, are no text, or have a control character in them. -/
theorem quote_error_iff {d : Bytes} :
    (∃ e, quote d = .error e) ↔
      d ≠ [] ∧ (Bytes.endsInNewline d = false ∨ (∀ s, Utf8.encode s ≠ d) ∨
        ∃ s, Utf8.encode s = d ∧ ∃ c ∈ s.toList, c < ' ' ∧ c ≠ '\n' ∧ c ≠ '\t') := by
  have hquote : (∃ e, quote d = .error e) ↔ ∃ e, checkQuotable d = .error e := by
    rw [quote]
    cases checkQuotable d <;> simp
  rw [hquote, checkQuotable]
  by_cases hempty : d = []
  · simp [hempty]
  rw [if_neg (by simpa using hempty)]
  cases hend : Bytes.endsInNewline d with
  | false => simp [hempty]
  | true =>
    rw [if_neg (by decide)]
    cases hdecode : Utf8.decodeChars d with
    | error e =>
      have hcode : ∀ s, Utf8.encode s ≠ d := by
        rintro s rfl
        rw [Utf8.encode, Utf8.decodeChars_encodeChars] at hdecode
        cases hdecode
      simp [hempty, hcode]
    | ok cs =>
      obtain rfl : Utf8.encode (String.ofList cs) = d := by
        rw [Utf8.encode, String.toList_ofList, Utf8.encodeChars_of_decodeChars hdecode]
      have honly : ∀ s, Utf8.encode s = Utf8.encode (String.ofList cs) ↔ s = String.ofList cs :=
        fun s => ⟨Utf8.encode_injective, fun h => h ▸ rfl⟩
      simp only [← isQuotable_eq_false_iff, ne_eq, honly]
      cases hfind : cs.zipIdx.find? fun (c, _) => !isQuotable c with
      | none =>
        have hall := find?_unquotable_eq_none_iff.mp hfind
        simp +contextual [hall]
      | some found =>
        have hnot : ¬∀ c ∈ cs, isQuotable c = true := fun h => by
          rw [find?_unquotable_eq_none_iff.mpr h] at hfind
          cases hfind
        simpa [hempty] using hnot

/-! ## Quoting and taking the quotes away -/

/-- Every line behind a quote mark. -/
def marked (d : Bytes) : Bytes := (Bytes.lines d).flatMap fun line => quoteMark :: line

/-- What is quoted is empty or ends in a newline, and every line of it gets a mark. -/
theorem eq_marked_of_quote {d q : Bytes} (h : quote d = .ok q) :
    IsEnded d ∧ q = marked d := by
  rw [quote] at h
  split at h
  next => cases h
  next hcheck =>
    cases h
    refine ⟨?_, rfl⟩
    rw [checkQuotable] at hcheck
    split at hcheck
    next hempty => exact .inl (List.isEmpty_iff.mp hempty)
    split at hcheck
    next => cases hcheck
    next hend => exact .inr (by simpa using hend)

theorem marked_append_newline {body : Bytes} (h : newline ∉ body) (rest : Bytes) :
    marked (body ++ newline :: rest) = quoteMark :: (body ++ newline :: marked rest) := by
  rw [marked, Bytes.lines_append_newline h, List.flatMap_cons, marked]
  simp

theorem newline_not_mem_quoteMark_cons {body : Bytes} (h : newline ∉ body) : newline ∉ quoteMark :: body := by
  rw [List.mem_cons, not_or]
  exact ⟨by decide, h⟩

theorem lines_marked {d : Bytes} (h : IsEnded d) : Bytes.lines (marked d) = (Bytes.lines d).map (quoteMark :: ·) := by
  induction d, h using Bytes.endedInduction with
  | nil => rfl
  | line body rest hbody _ ih =>
    rw [marked_append_newline hbody, ← List.cons_append,
      Bytes.lines_append_newline (newline_not_mem_quoteMark_cons hbody), ih, Bytes.lines_append_newline hbody]
    rfl

/-- No line behind a quote mark marks a file. -/
theorem isPlain_of_quote {d q : Bytes} (h : quote d = .ok q) : IsPlain q := by
  obtain ⟨hend, rfl⟩ := eq_marked_of_quote h
  intro line hline
  rw [lines_marked hend] at hline
  obtain ⟨old, -, rfl⟩ := List.mem_map.mp hline
  rintro ⟨body, n, hshape, -⟩
  obtain ⟨k, hline, -⟩ := Bytes.exists_trimRight newline (quoteMark :: old)
  rw [hshape, opening_eq] at hline
  exact absurd (List.cons.inj hline).1 (by decide)

theorem fixNewline_marked {d : Bytes} (h : IsEnded d) : fixNewline (marked d) = marked d := by
  induction d, h using Bytes.endedInduction with
  | nil => rfl
  | line body rest hbody _ ih =>
    rw [marked_append_newline hbody, ← List.cons_append, fixNewline_append_newline, ih]

/-- Quoted contents have their final newline. -/
theorem fixNewline_of_quote {d q : Bytes} (h : quote d = .ok q) : fixNewline q = q := by
  obtain ⟨hend, rfl⟩ := eq_marked_of_quote h
  exact fixNewline_marked hend

/-- What stands in front of a newline is passed over. -/
theorem dropMarks_append {body : Bytes} (h : newline ∉ body) (rest : Bytes) :
    dropMarks (body ++ newline :: rest) = body ++ dropMarks (newline :: rest) := by
  induction body with
  | nil => rfl
  | cons b body ih =>
    have hb : (b == newline) = false := by simpa using fun e : b = newline => h (e ▸ List.mem_cons_self)
    have hrest := ih fun m => h (List.mem_cons_of_mem _ m)
    cases body with
    | nil => simp only [List.cons_append, List.nil_append, dropMarks, hb, Bool.false_and, Bool.false_eq_true, if_false]
    | cons c body =>
      simp only [List.cons_append] at hrest ⊢
      rw [dropMarks]
      simp only [hb, Bool.false_and, Bool.false_eq_true, if_false, hrest]

/-- Behind a newline the marks of all lines are dropped. -/
theorem dropMarks_marked {d : Bytes} (h : IsEnded d) : dropMarks (newline :: marked d) = newline :: d := by
  induction d, h using Bytes.endedInduction with
  | nil => rfl
  | line body rest hbody _ ih =>
    rw [marked_append_newline hbody, dropMarks, if_pos (by decide), dropMarks_append hbody, ih]

/-- Taking the quotes away drops the mark of every line. -/
theorem unquote_marked {d : Bytes} (hend : IsEnded d) : unquote (marked d) = .ok d := by
  have hfix := fixNewline_marked hend
  cases d, hend using Bytes.endedInduction with
  | nil => rfl
  | line body rest hbody hrest _ =>
    have hquoted : Bytes.endsInNewline (marked (body ++ newline :: rest)) = true := by
      refine (hfix ▸ isEnded_fixNewline _ : IsEnded _).resolve_left ?_
      rw [marked_append_newline hbody]
      exact List.cons_ne_nil _ _
    have hdrop : dropMarks (marked (body ++ newline :: rest)) = quoteMark :: (body ++ newline :: rest) := by
      rw [marked_append_newline hbody, ← List.cons_append, dropMarks_append (newline_not_mem_quoteMark_cons hbody),
        dropMarks_marked hrest, List.cons_append]
    rw [unquote, hquoted, hdrop, marked_append_newline hbody]
    simp

/-- Taking the quotes away gives back what was quoted. -/
theorem unquote_of_quote {d q : Bytes} (h : quote d = .ok q) : unquote q = .ok d := by
  obtain ⟨hend, rfl⟩ := eq_marked_of_quote h
  exact unquote_marked hend

/-! ## Quotes that were taken away -/

/-- What stands behind the marks of lines that all have one. -/
theorem exists_eq_marked {q : Bytes} (hend : IsEnded q) (h : ∀ line ∈ Bytes.lines q, line.head? = some quoteMark) :
    ∃ d, IsEnded d ∧ q = marked d := by
  induction q, hend using Bytes.endedInduction with
  | nil => exact ⟨[], .inl rfl, rfl⟩
  | line body rest hbody _ ih =>
    rw [Bytes.lines_append_newline hbody, List.forall_mem_cons] at h
    obtain ⟨d, hd, rfl⟩ := ih h.2
    cases body with
    | nil => cases h.1
    | cons b body =>
      obtain rfl : b = quoteMark := Option.some.inj h.1
      have hbody' : newline ∉ body := fun hmem => hbody (List.mem_cons_of_mem _ hmem)
      exact ⟨body ++ newline :: d, Bytes.isEnded_append_newline.mpr hd, (marked_append_newline hbody' d).symm⟩

/-- Contents that quotes can be taken away from end in a newline, if there are any. -/
theorem isEnded_of_unquote {q d : Bytes} (h : unquote q = .ok d) : IsEnded q := by
  rw [unquote] at h
  split at h
  next hempty => exact .inl (List.isEmpty_iff.mp hempty)
  split at h
  next => cases h
  next hquoted =>
    rw [Bool.or_eq_true, not_or] at hquoted
    exact .inr (by simpa using hquoted.2)

/-- Quoting what quotes were taken away from gives it back exactly if every line had a mark. -/
theorem quote_of_unquote_eq_iff {q d r : Bytes} (hunquote : unquote q = .ok d) (hquote : quote d = .ok r) :
    r = q ↔ ∀ line ∈ Bytes.lines q, line.head? = some quoteMark := by
  obtain ⟨hend, rfl⟩ := eq_marked_of_quote hquote
  constructor
  · rintro rfl line hline
    rw [lines_marked hend] at hline
    obtain ⟨old, -, rfl⟩ := List.mem_map.mp hline
    rfl
  · intro hmarks
    obtain ⟨e, he, rfl⟩ := exists_eq_marked (isEnded_of_unquote hunquote) hmarks
    obtain rfl : e = d := Except.ok.inj ((unquote_marked he).symm.trans hunquote)
    rfl

/-! ## Quoting as a whole -/

/-- Contents without marker lines fit into an archive that can be written. -/
theorem Storable.insert {comment data : Bytes} {front back : List File} {name : String}
    (h : (⟨comment, front ++ back⟩ : Archive).Storable) (hname : IsFileName name) (hdata : IsPlain data) :
    (⟨comment, front ++ ⟨name, data⟩ :: back⟩ : Archive).Storable := by
  have hmem : ∀ {f : File}, f ∈ front ++ ⟨name, data⟩ :: back → f = ⟨name, data⟩ ∨ f ∈ front ++ back := by
    intro f hf
    simp only [List.mem_append, List.mem_cons] at hf ⊢
    tauto
  refine ⟨h.comment, fun f hf => ?_, fun f hf => ?_⟩
  · rcases hmem hf with rfl | hf
    · exact hname
    · exact h.names f hf
  · rcases hmem hf with rfl | hf
    · exact hdata
    · exact h.data f hf

/-- **Quoting makes any printable text storable.** What cannot be quoted is what has no final newline, is no text, or has a
control character in it. All else comes back from its quotes, needs no more of them, and stands in an archive as one of its
files. Quotes that were taken away are put back as they were exactly if every line had its mark. -/
theorem quoting_faithful :
    (∀ d, (∃ e, quote d = .error e) ↔
      d ≠ [] ∧ (Bytes.endsInNewline d = false ∨ (∀ s, Utf8.encode s ≠ d) ∨
        ∃ s, Utf8.encode s = d ∧ ∃ c ∈ s.toList, c < ' ' ∧ c ≠ '\n' ∧ c ≠ '\t')) ∧
    (∀ d q, quote d = .ok q →
      unquote q = .ok d ∧ needsQuote q = .ok false ∧
        ∀ comment front back name, (⟨comment, front ++ back⟩ : Archive).Storable → IsFileName name →
          let a : Archive := ⟨comment, front ++ ⟨name, q⟩ :: back⟩
          parse a.render = .ok a.terminated ∧ a.terminated.files.length = a.files.length ∧
            a.terminated.files[front.length]? = some ⟨name, q⟩) ∧
    ∀ q d r, q ≠ [] → unquote q = .ok d → quote d = .ok r →
      (r = q ↔ ∀ line ∈ Bytes.lines q, line.head? = some quoteMark) := by
  refine ⟨fun d => quote_error_iff, fun d q h => ?_, fun q d r _ => quote_of_unquote_eq_iff⟩
  have hplain := isPlain_of_quote h
  refine ⟨unquote_of_quote h, needsQuote_of_isPlain hplain, ?_⟩
  intro comment front back name hrest hname a
  refine ⟨parse_render (hrest.insert hname hplain), by simp [terminated, a], ?_⟩
  simp [terminated, a, fixNewline_of_quote h]

/-- Lines that have a mark already, or mark a file, are quoted and come back; of lines without a mark only those that had
one get theirs back. -/
theorem quoting_faithful_lines :
    (quote (Bytes.ascii ">a\n\n-- x --\n") = .ok (Bytes.ascii ">>a\n>\n>-- x --\n") ∧
      unquote (Bytes.ascii ">>a\n>\n>-- x --\n") = .ok (Bytes.ascii ">a\n\n-- x --\n") ∧
      (⟨[], [⟨"b", []⟩, ⟨"c", Bytes.ascii ">>a\n>\n>-- x --\n"⟩]⟩ : Archive).terminated.files[1]? =
        some ⟨"c", Bytes.ascii ">>a\n>\n>-- x --\n"⟩) ∧
      unquote (Bytes.ascii ">a\nb\n") = .ok (Bytes.ascii "a\nb\n") ∧
        quote (Bytes.ascii "a\nb\n") = .ok (Bytes.ascii ">a\n>b\n") ∧
        ¬∀ line ∈ Bytes.lines (Bytes.ascii ">a\nb\n"), line.head? = some quoteMark := by
  have hquote : quote (Bytes.ascii ">a\n\n-- x --\n") = .ok (Bytes.ascii ">>a\n>\n>-- x --\n") := by cbv
  have hunquote : unquote (Bytes.ascii ">a\nb\n") = .ok (Bytes.ascii "a\nb\n") := by cbv
  have hagain : quote (Bytes.ascii "a\nb\n") = .ok (Bytes.ascii ">a\n>b\n") := by cbv
  have hrest : (⟨[], [⟨"b", []⟩] ++ []⟩ : Archive).Storable := by decide
  have hname : IsFileName "c" := by decide
  obtain ⟨hcomes, -, hstored⟩ := quoting_faithful.2.1 _ _ hquote
  have hfile := (hstored [] [⟨"b", []⟩] [] "c" hrest hname).2.2
  have hback := quoting_faithful.2.2 _ _ _ (by decide) hunquote hagain
  have hnot : ¬∀ line ∈ Bytes.lines (Bytes.ascii ">a\nb\n"), line.head? = some quoteMark :=
    fun hmarks => absurd (hback.mpr hmarks) (by decide)
  exact ⟨⟨hquote, hcomes, hfile⟩, hunquote, hagain, hnot⟩

end Rehearsal.Archive
