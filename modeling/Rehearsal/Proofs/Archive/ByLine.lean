import Rehearsal.Proofs.Archive.Quoting
import Rehearsal.Proofs.Text.Split

/-!
# An archive as its lines tell it

What `parse` makes of a byte string, said without looking for anything: the byte string is cut at its newlines, and some of
its lines are marker lines. `IsReading` is an archive that these lines tell. Its files are the marker lines in their order,
each with the bytes up to the next one, and nothing else is in it: comment, marker lines and contents together are the byte
string again, with a newline at its end if it lacks one.

`parse_iff_isReading` is the main law. A byte string has at most one reading, and it has none exactly if some marker line
names its file in bytes that are not UTF-8 (`parse_error_iff`). `needsQuote` asks for the first marker line alone.

What this does not decide is which of several such names the error is about; it is the first.
-/

namespace Rehearsal.Archive

open Bytes (newline carriageReturn IsEnded)

/-! ## The lines that mark files -/

/-- What a line marks: the bytes between its opening and its closing without the blanks around them, if there are others.
Carriage returns may follow. -/
def Marks (line middle : Bytes) : Prop :=
  ∃ body n, line = opening ++ body ++ closing ++ List.replicate n carriageReturn ∧ middle = Bytes.trim body ∧ middle ≠ []

theorem marks_iff {line middle : Bytes} : Marks line middle ↔ markerMiddle? line = some middle ∧ middle ≠ [] := by
  rw [markerMiddle?_eq_some_iff]
  constructor
  · rintro ⟨body, n, rfl, hmiddle, hne⟩
    refine ⟨⟨body, ?_, hmiddle⟩, hne⟩
    exact Bytes.trimRight_append_replicate (by rw [getLast?_append_closing]; decide) n
  · rintro ⟨⟨body, hline, hmiddle⟩, hne⟩
    obtain ⟨n, hd, -⟩ := Bytes.exists_trimRight carriageReturn line
    exact ⟨body, n, by rw [hd, hline], hmiddle, hne⟩

theorem isMarker_iff_exists_marks {line : Bytes} : IsMarker line ↔ ∃ middle, Marks line middle := by
  simp only [isMarker_iff, marks_iff]

theorem markerName?_eq_some_iff_marks {line : Bytes} {name : String} :
    markerName? line = .ok (some name) ↔ Marks line (Utf8.encode name) := by
  rw [markerName?_eq_some_iff, marks_iff, Ne, Ne, Utf8.encode_eq_nil_iff]

/-- Looking for a name fails in the lines that mark what is no text. -/
theorem markerName?_error_iff {line : Bytes} :
    (∃ e, markerName? line = .error e) ↔ ∃ middle, Marks line middle ∧ ∀ s, Utf8.encode s ≠ middle := by
  constructor
  · rintro ⟨e, h⟩
    rw [markerName?] at h
    split at h
    next => cases h
    next middle hmiddle =>
      split at h
      next e' hdecode =>
        have hcode : ∀ s, Utf8.encode s ≠ middle := by
          rintro s rfl
          rw [Utf8.decode_encode] at hdecode
          cases hdecode
        exact ⟨middle, marks_iff.mpr ⟨hmiddle, fun hnil => hcode "" hnil.symm⟩, hcode⟩
      next => cases h
  · rintro ⟨middle, hmarks, hcode⟩
    cases hdecode : Utf8.decode middle with
    | error e =>
      refine ⟨e, ?_⟩
      rw [markerName?, (marks_iff.mp hmarks).1]
      dsimp only
      rw [hdecode]
    | ok s => exact absurd (Utf8.encode_of_decode hdecode) (hcode s)

/-- The marker lines of a byte string, in their order. -/
def markerLines (d : Bytes) : List Bytes := (d.splitOn newline).filter fun line => IsMarker line

theorem markerLines_append_newline {body : Bytes} (h : newline ∉ body) (rest : Bytes) :
    markerLines (body ++ newline :: rest) = if IsMarker body then body :: markerLines rest else markerLines rest := by
  rw [markerLines, List.splitOn_append_cons_self_of_not_mem h, List.filter_cons]
  simp only [decide_eq_true_eq]
  rfl

@[simp] theorem markerLines_nil : markerLines [] = [] := by decide

theorem markerLines_of_not_mem {body : Bytes} (h : newline ∉ body) :
    markerLines body = if IsMarker body then [body] else [] := by
  rw [markerLines, List.splitOn_eq_singleton h, List.filter_cons, List.filter_nil]
  simp only [decide_eq_true_eq]

@[simp] theorem markerLines_fixNewline (d : Bytes) : markerLines (fixNewline d) = markerLines d := by
  induction d using Bytes.lineInduction with
  | nil => rfl
  | last body h hne =>
    rw [fixNewline_of_not_mem h hne, markerLines_append_newline h, markerLines_of_not_mem h, markerLines_nil]
  | line body rest h ih =>
    rw [fixNewline_append_newline, markerLines_append_newline h, markerLines_append_newline h, ih]

theorem newline_not_mem_of_mem_markerLines {d line : Bytes} (h : line ∈ markerLines d) : newline ∉ line :=
  Line.not_mem_of_mem_splitOn (List.mem_filter.mp h).1

/-- A section without marker lines, whichever way it is cut into lines. -/
theorem isPlain_iff {d : Bytes} : IsPlain d ↔ markerLines d = [] := by
  rw [IsPlain]
  induction d using Bytes.lineInduction with
  | nil => exact iff_of_true isPlain_nil rfl
  | last body h hne =>
    rw [Bytes.lines_of_not_mem h hne, List.forall_mem_singleton, Bytes.trimRight_newline_open h, markerLines_of_not_mem h]
    split <;> simp [*]
  | line body rest h ih =>
    rw [Bytes.lines_append_newline h, List.forall_mem_cons, Bytes.trimRight_newline_ended h, markerLines_append_newline h,
      ih]
    split <;> simp [*]

/-! ## What the lines tell -/

/-- The sections of an archive: its comment and the contents of its files. -/
def sections (a : Archive) : List Bytes := a.comment :: a.files.map File.data

/-- The archive that the lines of a byte string tell. -/
structure IsReading (d : Bytes) (a : Archive) : Prop where
  /-- There is one file for each marker line, and it has the name that the line marks. -/
  names : List.Forall₂ (fun line f => Marks line (Utf8.encode f.name)) (markerLines d) a.files
  /-- Nothing is lost, moved or put twice. -/
  whole : fixNewline d =
    a.comment ++ (List.zipWith (fun line f => line ++ newline :: f.data) (markerLines d) a.files).flatten
  /-- A section goes up to the next marker line. -/
  plain : ∀ part ∈ a.sections, markerLines part = []
  ended : ∀ part ∈ a.sections, IsEnded part

/-- A final newline is no part of what is told. -/
theorem isReading_fixNewline {d : Bytes} {a : Archive} : IsReading (fixNewline d) a ↔ IsReading d a := by
  constructor
  · rintro ⟨hnames, hwhole, hplain, hended⟩
    rw [markerLines_fixNewline] at hnames hwhole
    rw [fixNewline_fixNewline] at hwhole
    exact ⟨hnames, hwhole, hplain, hended⟩
  · rintro ⟨hnames, hwhole, hplain, hended⟩
    exact ⟨by rwa [markerLines_fixNewline], by rwa [markerLines_fixNewline, fixNewline_fixNewline], hplain, hended⟩

theorem isReading_nil : IsReading [] empty :=
  ⟨.nil, rfl, by simp [sections, empty], by simp [sections, empty, IsEnded]⟩

/-- A line that marks nothing belongs to the comment. -/
theorem IsReading.withFront {body rest : Bytes} {a : Archive} (h : newline ∉ body) (hbody : ¬IsMarker body)
    (hrest : IsReading rest a) : IsReading (body ++ newline :: rest) (withFront (body ++ [newline]) a) := by
  obtain ⟨hplain, hplains⟩ := List.forall_mem_cons.mp hrest.plain
  obtain ⟨hended, hendeds⟩ := List.forall_mem_cons.mp hrest.ended
  have hcomment : body ++ [newline] ++ a.comment = body ++ newline :: a.comment := by simp
  have hmarkers : markerLines (body ++ newline :: rest) = markerLines rest := by
    rw [markerLines_append_newline h, if_neg hbody]
  refine ⟨?_, ?_, List.forall_mem_cons.mpr ⟨?_, hplains⟩, List.forall_mem_cons.mpr ⟨?_, hendeds⟩⟩
  · rw [hmarkers]
    exact hrest.names
  · rw [hmarkers, fixNewline_append_newline, hrest.whole]
    simp [Archive.withFront]
  · rw [Archive.withFront, hcomment, markerLines_append_newline h, if_neg hbody, hplain]
  · rw [Archive.withFront, hcomment]
    exact Bytes.isEnded_append_newline.mpr hended

/-- A marker line begins a file with the section behind it. -/
theorem IsReading.withFile {body rest : Bytes} {name : String} {a : Archive} (h : newline ∉ body)
    (hbody : Marks body (Utf8.encode name)) (hrest : IsReading rest a) :
    IsReading (body ++ newline :: rest) (withFile name a) := by
  have hmarkers : markerLines (body ++ newline :: rest) = body :: markerLines rest := by
    rw [markerLines_append_newline h, if_pos (isMarker_iff_exists_marks.mpr ⟨_, hbody⟩)]
  refine ⟨?_, ?_, List.forall_mem_cons.mpr ⟨markerLines_nil, hrest.plain⟩, List.forall_mem_cons.mpr ⟨.inl rfl, hrest.ended⟩⟩
  · rw [hmarkers]
    exact .cons hbody hrest.names
  · rw [hmarkers, fixNewline_append_newline, hrest.whole]
    simp [Archive.withFile]

/-! ## Reading -/

theorem ofLines_map_fixNewline {ls : List Bytes} (h : ∀ line ∈ ls, Bytes.IsLine line) :
    ofLines (ls.map fixNewline) = ofLines ls := by
  induction ls with
  | nil => rfl
  | cons line ls ih =>
    rw [List.forall_mem_cons] at h
    rw [List.map_cons, ofLines, ofLines, trimRight_fixNewline h.1, fixNewline_fixNewline, ih h.2]

/-- A final newline makes no difference to what is read. -/
theorem parse_fixNewline (d : Bytes) : parse (fixNewline d) = parse d := by
  rw [parse_eq_ofLines, parse_eq_ofLines, lines_fixNewline, ofLines_map_fixNewline fun _ => Bytes.isLine_of_mem_lines]

/-- What is read is what the lines tell. -/
theorem isReading_of_parse {d : Bytes} {a : Archive} (h : parse d = .ok a) : IsReading d a := by
  rw [← parse_fixNewline] at h
  rw [← isReading_fixNewline]
  have hended := isEnded_fixNewline d
  generalize fixNewline d = d at h hended ⊢
  induction d, hended using Bytes.endedInduction generalizing a with
  | nil =>
    cases parse_nil.symm.trans h
    exact isReading_nil
  | line body rest hbody _ ih =>
    rw [parse_append_newline hbody] at h
    rcases hname : markerName? body with e | _ | name
    all_goals rw [hname] at h
    · cases h
    all_goals
      cases htail : parse rest
      all_goals
        rw [htail] at h
        cases h
    · exact (ih htail).withFront hbody (markerName?_eq_none_iff.mp hname)
    · exact (ih htail).withFile hbody (markerName?_eq_some_iff_marks.mp hname)

/-- Marker lines with their contents are read as the files that they name. -/
theorem parse_marked {lines : List Bytes} {files : List File}
    (hnames : List.Forall₂ (fun line f => Marks line (Utf8.encode f.name)) lines files)
    (hlines : ∀ line ∈ lines, newline ∉ line) (hplain : ∀ f ∈ files, markerLines f.data = [])
    (hended : ∀ f ∈ files, IsEnded f.data) :
    parse (List.zipWith (fun line f => line ++ newline :: f.data) lines files).flatten = .ok ⟨[], files⟩ := by
  induction hnames with
  | nil => exact parse_nil
  | @cons line f lines files hname _ ih =>
    rw [List.forall_mem_cons] at hlines hplain hended
    have hdata := parse_append_plain (isPlain_iff.mpr hplain.1) (ih hlines.2 hplain.2 hended.2)
    rw [fixNewline_of_isEnded hended.1, List.append_nil] at hdata
    rw [List.zipWith_cons_cons, List.flatten_cons, List.append_assoc, List.cons_append, parse_append_newline hlines.1,
      markerName?_eq_some_iff_marks.mpr hname, hdata]
    rfl

/-- What the lines tell is read. -/
theorem IsReading.parse_eq {d : Bytes} {a : Archive} (h : IsReading d a) : parse d = .ok a := by
  obtain ⟨hplain, hplains⟩ := List.forall_mem_cons.mp h.plain
  obtain ⟨hended, hendeds⟩ := List.forall_mem_cons.mp h.ended
  have hfiles := parse_marked h.names (fun _ => newline_not_mem_of_mem_markerLines)
    (fun f hf => hplains _ (List.mem_map_of_mem hf)) fun f hf => hendeds _ (List.mem_map_of_mem hf)
  have hwhole := parse_append_plain (isPlain_iff.mpr hplain) hfiles
  rw [fixNewline_of_isEnded hended, ← h.whole, parse_fixNewline, List.append_nil] at hwhole
  exact hwhole

/-- **Reading finds what the lines tell**, and nothing else. -/
theorem parse_iff_isReading {d : Bytes} {a : Archive} : parse d = .ok a ↔ IsReading d a :=
  ⟨isReading_of_parse, IsReading.parse_eq⟩

/-- **Reading fails exactly if some marker line names its file in what is no text.** -/
theorem parse_error_iff {d : Bytes} :
    (∃ e, parse d = .error e) ↔ ∃ line ∈ markerLines d, ∃ middle, Marks line middle ∧ ∀ s, Utf8.encode s ≠ middle := by
  rw [← parse_fixNewline, ← markerLines_fixNewline]
  induction fixNewline d, isEnded_fixNewline d using Bytes.endedInduction with
  | nil => simp
  | line body rest hbody _ ih =>
    rw [parse_append_newline hbody, markerLines_append_newline hbody]
    rcases hname : markerName? body with e | _ | name
    · obtain ⟨middle, hmarks, hcode⟩ := markerName?_error_iff.mp ⟨e, hname⟩
      rw [if_pos (isMarker_iff_exists_marks.mpr ⟨middle, hmarks⟩)]
      exact iff_of_true ⟨e, rfl⟩ ⟨body, List.mem_cons_self, middle, hmarks, hcode⟩
    · rw [if_neg (markerName?_eq_none_iff.mp hname), ← ih]
      cases parse rest <;> simp [Except.map]
    · have hmarks := markerName?_eq_some_iff_marks.mp hname
      have htext : ¬∃ middle, Marks body middle ∧ ∀ s, Utf8.encode s ≠ middle := by
        rw [← markerName?_error_iff, hname]
        rintro ⟨e, he⟩
        cases he
      rw [if_pos (isMarker_iff_exists_marks.mpr ⟨_, hmarks⟩)]
      simp only [List.mem_cons, exists_eq_or_imp, htext, false_or]
      rw [← ih]
      cases parse rest <;> simp [Except.map]

/-- **Reading an archive follows its lines.** -/
theorem reading_follows_lines :
    (∀ d, (∃ e, parse d = .error e) ↔
      ∃ line ∈ markerLines d, ∃ middle, Marks line middle ∧ ∀ s, Utf8.encode s ≠ middle) ∧
    (∀ d a, parse d = .ok a ↔ IsReading d a) ∧
    ∀ s, needsQuote (Utf8.encode s) = .ok (decide (markerLines (Utf8.encode s) ≠ [])) := by
  refine ⟨fun _ => parse_error_iff, fun _ _ => parse_iff_isReading, fun s => ?_⟩
  rw [needsQuote_encode]
  simp only [isPlain_iff, ne_eq]

end Rehearsal.Archive
