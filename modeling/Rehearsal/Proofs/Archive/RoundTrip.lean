import Mathlib
import Rehearsal.Proofs.Archive.Scan

/-!
# Archives there and back

Reading undoes writing and writing undoes reading, up to the final newline that every section is given. `parse_render`
is the one direction: a `Storable` archive reads back with its sections `terminated`. `storable_of_parse` and
`terminated_of_parse` are the other: what is read is storable and needs no newline.

Both go along the lines of an archive. `ofLines_append_plain` says that a section without marker lines is passed over
whole, and `ofLines_markerLine` that a marker line begins a file.
-/

namespace Rehearsal.Archive

open Bytes (newline endsInNewline IsLine IsEnded)

/-! ## What can be written -/

/-- The archive in which every section has its final newline. -/
def terminated (a : Archive) : Archive :=
  ⟨fixNewline a.comment, a.files.map fun f => { f with data := fixNewline f.data }⟩

/-- An archive that can be written: its names can stand in marker lines, and no section has a marker line. -/
structure Storable (a : Archive) : Prop where
  comment : IsPlain a.comment
  names : ∀ f ∈ a.files, IsFileName f.name
  data : ∀ f ∈ a.files, IsPlain f.data

instance (a : Archive) : Decidable a.Storable :=
  decidable_of_iff (IsPlain a.comment ∧ (∀ f ∈ a.files, IsFileName f.name) ∧ ∀ f ∈ a.files, IsPlain f.data)
    ⟨fun h => ⟨h.1, h.2.1, h.2.2⟩, fun h => ⟨h.comment, h.names, h.data⟩⟩

/-! ## Writing and reading back -/

/-- Lines that mark nothing belong to the section they stand in. -/
theorem ofLines_append_plain {ls rest : List Bytes} {tail : Archive}
    (h : ∀ line ∈ ls, ¬IsMarker (Bytes.trimRight newline line)) (hrest : ofLines rest = .ok tail) :
    ofLines (ls ++ rest) = .ok ⟨(ls.map fixNewline).flatten ++ tail.comment, tail.files⟩ := by
  induction ls with
  | nil => exact hrest
  | cons line ls ih =>
    have hline := markerName?_eq_none_iff.mpr (h line List.mem_cons_self)
    have hls := ih fun l hl => h l (List.mem_cons_of_mem _ hl)
    simp only [List.cons_append, ofLines, hline, hls, List.map_cons, List.flatten_cons, List.append_assoc]

/-- A marker line begins a file with the section behind it. -/
theorem ofLines_markerLine {name : String} (h : IsFileName name) {rest : List Bytes} {tail : Archive}
    (hrest : ofLines rest = .ok tail) :
    ofLines (markerLine name :: rest) = .ok ⟨[], ⟨name, tail.comment⟩ :: tail.files⟩ := by
  simp only [ofLines, h.markerName?_markerLine, hrest]

/-- A section without marker lines is passed over whole. -/
theorem parse_append_plain {d rest : Bytes} {tail : Archive} (h : IsPlain d) (hrest : parse rest = .ok tail) :
    parse (fixNewline d ++ rest) = .ok ⟨fixNewline d ++ tail.comment, tail.files⟩ := by
  have hlines : ((Bytes.lines (fixNewline d)).map fixNewline).flatten = fixNewline d := by
    rw [← lines_fixNewline, fixNewline_fixNewline, Bytes.flatten_lines]
  rw [parse_eq_ofLines] at hrest ⊢
  rw [Bytes.lines_append (isEnded_fixNewline d), ofLines_append_plain (isPlain_fixNewline h) hrest, hlines]

/-- The files of an archive are read back one by one. -/
theorem parse_files {fs : List File} (hnames : ∀ f ∈ fs, IsFileName f.name) (hdata : ∀ f ∈ fs, IsPlain f.data) :
    parse (fs.flatMap fun f => markerLine f.name ++ fixNewline f.data) =
      .ok ⟨[], fs.map fun f => { f with data := fixNewline f.data }⟩ := by
  induction fs with
  | nil => exact parse_nil
  | cons f fs ih =>
    have hname := hnames f List.mem_cons_self
    have hrest := ih (fun g hg => hnames g (List.mem_cons_of_mem _ hg))
      fun g hg => hdata g (List.mem_cons_of_mem _ hg)
    have hsection := parse_append_plain (hdata f List.mem_cons_self) hrest
    have hline : IsEnded (markerLine f.name) := Bytes.isEnded_newline _
    rw [parse_eq_ofLines] at hsection
    rw [List.flatMap_cons, List.append_assoc, parse_eq_ofLines, Bytes.lines_append hline, hname.isLine_markerLine.lines_eq,
      List.singleton_append, ofLines_markerLine hname hsection]
    simp

/-- A storable archive that is written reads back with its sections terminated. -/
theorem parse_render {a : Archive} (h : a.Storable) : parse a.render = .ok a.terminated := by
  rw [render, parse_append_plain h.comment (parse_files h.names h.data), terminated, List.append_nil]

/-! ## Reading and writing back -/

/-- What is read line by line is storable, and its sections are terminated. -/
theorem storable_of_ofLines {ls : List Bytes} {a : Archive} (hls : ∀ line ∈ ls, IsLine line)
    (h : ofLines ls = .ok a) : a.Storable ∧ a.terminated = a := by
  induction ls generalizing a with
  | nil =>
    cases h
    exact ⟨⟨isPlain_nil, by simp [empty], by simp [empty]⟩, rfl⟩
  | cons line ls ih =>
    have hline := hls line List.mem_cons_self
    rw [ofLines] at h
    split at h
    next => cases h
    next name? hname =>
      split at h
      next => cases h
      next tail htail =>
        obtain ⟨hstorable, hterminated⟩ := ih (fun l hl => hls l (List.mem_cons_of_mem _ hl)) htail
        obtain ⟨hcomment, hfiles⟩ := Archive.mk.inj hterminated
        split at h
        next name =>
          cases h
          have hfile := IsFileName.of_markerName? hline.newline_not_mem_trimRight hname
          refine ⟨⟨isPlain_nil, ?_, ?_⟩, ?_⟩
          · exact List.forall_mem_cons.mpr ⟨hfile, hstorable.names⟩
          · exact List.forall_mem_cons.mpr ⟨hstorable.comment, hstorable.data⟩
          · simp only [terminated, List.map_cons, hcomment, hfiles, fixNewline_nil]
        next =>
          cases h
          have hfix : Bytes.lines (fixNewline line) = [fixNewline line] := (IsLine.fixNewline hline).lines_eq
          have hended := isEnded_fixNewline line
          refine ⟨⟨?_, hstorable.names, hstorable.data⟩, ?_⟩
          · intro l hl
            rw [Bytes.lines_append hended, hfix, List.singleton_append, List.mem_cons] at hl
            rcases hl with rfl | hl
            · rw [trimRight_fixNewline hline]
              exact markerName?_eq_none_iff.mp hname
            · exact hstorable.comment l hl
          · have hsection : fixNewline (fixNewline line ++ tail.comment) = fixNewline line ++ tail.comment := by
              rw [fixNewline_append hended, hcomment]
            simp only [terminated, hsection, hfiles]

/-- What is read is storable. -/
theorem storable_of_parse {d : Bytes} {a : Archive} (h : parse d = .ok a) : a.Storable :=
  (storable_of_ofLines (fun _ => Bytes.isLine_of_mem_lines) ((parse_eq_ofLines d).symm.trans h)).1

/-- What is read needs no newlines. -/
theorem terminated_of_parse {d : Bytes} {a : Archive} (h : parse d = .ok a) : a.terminated = a :=
  (storable_of_ofLines (fun _ => Bytes.isLine_of_mem_lines) ((parse_eq_ofLines d).symm.trans h)).2

/-- **Reading and writing are inverse to each other.** What was read is written as something that reads the same, and an
archive that can be written reads back with its sections terminated. -/
theorem parse_render_inverse :
    (∀ d a, parse d = .ok a → parse a.render = .ok a) ∧
      ∀ a : Archive, a.Storable → parse a.render = .ok a.terminated := by
  refine ⟨fun d a h => ?_, fun a h => parse_render h⟩
  rw [parse_render (storable_of_parse h), terminated_of_parse h]

/-- An archive with a name that holds dashes, a marker without a name, and a file whose marker is the last line. -/
def sampleText : Bytes := Bytes.ascii "go\n-- a -- b --\r\n--  --\n-- x -- \n-- c --"

/-- The same archive with the final newline of a section missing. -/
def sample : Archive := ⟨Bytes.ascii "go", [⟨"a -- b", Bytes.ascii "--  --\n-- x -- "⟩, ⟨"c", []⟩]⟩

theorem parse_render_inverse_sample :
    (parse sampleText = .ok sample.terminated ∧ parse sample.terminated.render = .ok sample.terminated) ∧
      sample.Storable ∧ parse sample.render = .ok sample.terminated :=
  have hread : parse sampleText = .ok sample.terminated := (parse_eq_ofLines _).trans (by cbv)
  have hstorable : sample.Storable := by decide
  ⟨⟨hread, parse_render_inverse.1 _ _ hread⟩, hstorable, parse_render_inverse.2 _ hstorable⟩

end Rehearsal.Archive
