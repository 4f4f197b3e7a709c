import Rehearsal.Command.Files
import Rehearsal.Proofs.Files.Clean
import Rehearsal.Proofs.Script.FixedPoint

/-!
# What files are compared as

Files are compared as the texts that they are read as, in which every line end is a newline. So two files compare equal
exactly if they are the same but for their line ends, and what a program wrote compares equal to a file that has its line
ends all as newlines. Copying keeps every byte: `cmp_compares_unified` puts the two together, and says of which texts a copy
compares equal to what it was made from.

What this does not decide: how a file compares that is no text. The line fails then in another way.
-/

namespace Rehearsal

/-- What a text is read as from a file. -/
def Line.unified (text : String) : String := String.ofList (Line.unifyNewlines text.toList)

theorem Line.not_mem_unifyNewlines (cs : List Char) : '\r' ∉ unifyNewlines cs := by
  induction cs with
  | nil => exact List.not_mem_nil
  | cons c rest ih =>
    unfold unifyNewlines
    split
    next =>
      split
      · exact ih
      · simpa using ih
    next hc =>
      have hne : '\r' ≠ c := fun heq => hc (by simp [← heq])
      simpa [hne] using ih

/-- A text is read as it is exactly if it has no carriage return. -/
theorem Line.unified_eq_iff {text : String} : unified text = text ↔ '\r' ∉ text.toList := by
  constructor
  · intro h
    have hlist : unifyNewlines text.toList = text.toList :=
      calc unifyNewlines text.toList
        _ = (unified text).toList := String.toList_ofList.symm
        _ = text.toList := by rw [h]
    exact hlist ▸ not_mem_unifyNewlines _
  · intro h
    rw [unified, unifyNewlines_of_not_mem h, String.ofList_toList]

open Step (eval)
open Files (Disk Entry)

/-- A file of the disk holds a text. -/
def Script.Holds (s : Script) (file text : String) : Prop :=
  s.scene.disk.read (Path.clean (s.absolute file)) = .ok (Utf8.encode text)

/-- Nothing but a plain file stands where a path leads. -/
def Script.TakesFile (s : Script) (file : String) : Prop :=
  ∀ e, s.scene.disk.find? true (s.absolute file) = some e → e.isFile = true

namespace Command

variable {m : Modifier} {s t : Script} {file first old text : String}

/-- A path that is absolute from a directory at the root is absolute from it once and for all. -/
theorem absolute_absolute (hroot : Path.isAbsolute s.directory = true) (file : String) :
    s.absolute (s.absolute file) = s.absolute file :=
  Script.absolute_of_isAbsolute (Path.isAbsolute_join hroot file)

theorem absolute_ne_stream (hroot : Path.isAbsolute s.directory = true) (file : String) :
    s.absolute file ≠ "stdout" ∧ s.absolute file ≠ "stderr" := by
  apply Script.ne_stream_of_slash
  apply Path.slash_mem_join
  rintro hempty
  rw [hempty] at hroot
  exact absurd hroot (by decide)

/-- Where no golden files are updated, a text compares equal to a file exactly if it is what the file is read as. -/
theorem cmp_iff_of_fixed (hm : m ≠ .negated) (hfixed : s.plan.updateScripts = false)
    (hroot : Path.isAbsolute s.directory = true) (hfirst : s.text first = .ok old) (hholds : s.Holds file text) :
    (eval (cmp m [first, file]) s).1 = .ok () ↔ old = Line.unified text := by
  have hread : s.text (s.absolute file) = .ok (Line.unified text) := by
    apply Script.text_of_read (absolute_ne_stream hroot file)
    rw [absolute_absolute hroot]
    exact hholds
  rw [eval_cmp hm hfirst hread, golden?, hfixed]
  by_cases heq : old = Line.unified text
  · rw [if_pos heq]
    exact iff_of_true rfl heq
  · rw [if_neg heq]
    refine iff_of_false ?_ heq
    rintro ⟨⟩

/-! ## Copying what was written -/

/-- What a program wrote is copied to what is no directory: it is written there, and then everyone may read it. -/
theorem eval_cp_stdout (hplain : s.scene.disk.isDirectory (s.absolute file) = false) :
    eval (cp .plain ["stdout", file]) s =
      eval (do
        Action.files (Files.Access.write (s.absolute file) (Utf8.encode s.stdout))
        Action.files (Files.Access.chmod (s.absolute file) 0o666)) s := by
  have hrefuse : eval (refuseModifier "cp" .plain) s = (.ok (), s) := rfl
  have hpath : eval (absolute file) s = (.ok (s.absolute file), s) := rfl
  have hcopied : eval (copied "stdout") s = (.ok (Utf8.encode s.stdout, 0o666), s) := rfl
  refine (Step.eval_bind_of_ok hrefuse).trans ((Step.eval_bind_of_ok hpath).trans ?_)
  rw [Step.eval_get_bind, hplain]
  simp only [List.isEmpty_nil, Bool.not_true, Bool.false_and, Bool.false_eq_true, if_false, List.reverse_singleton,
    List.forIn_cons, List.forIn_nil, Step.eval_bind, hcopied]
  rcases eval (Action.files (Files.Access.write (s.absolute file) (Utf8.encode s.stdout))) s with ⟨e | _, t⟩
  · rfl
  · dsimp only
    rcases eval (Action.files (Files.Access.chmod (s.absolute file) 0o666)) t with ⟨e | _, u⟩ <;> rfl

/-- Work with files that went well was done on the disk of the scene. -/
theorem exists_of_files {α : Type} {a : Files.Access α} {x : α} (h : eval (Action.files a) s = (.ok x, t)) :
    ∃ d, eval a s.scene.disk = (.ok x, d) ∧ t = { s with scene := { s.scene with disk := d } } := by
  rw [eval_files] at h
  rcases ha : eval a s.scene.disk with ⟨e | y, d⟩
  · rw [ha] at h
    cases h
  · rw [ha] at h
    cases h
    exact ⟨d, rfl, rfl⟩

/-- What a program wrote stands in the file that it was copied to, where nothing else than a file was. -/
theorem holds_of_cp_stdout (hfile : s.TakesFile file) (h : eval (cp .plain ["stdout", file]) s = (.ok (), t)) :
    t.Holds file s.stdout ∧ t.plan = s.plan ∧ t.directory = s.directory ∧ t.stdout = s.stdout := by
  have hplain : s.scene.disk.isDirectory (s.absolute file) = false := by
    rw [Bool.eq_false_iff, Ne, Disk.isDirectory, Option.any_eq_true]
    rintro ⟨e, he, hdir⟩
    have hfile := hfile e he
    cases e <;> simp_all [Entry.isDirectory, Entry.isFile]
  rw [eval_cp_stdout hplain] at h
  obtain ⟨_, u, hwrite, hchmod⟩ := Step.eval_bind_eq_ok h
  obtain ⟨d, hwritten, rfl⟩ := exists_of_files hwrite
  obtain ⟨d', hchanged, rfl⟩ := exists_of_files hchmod
  refine ⟨?_, rfl, rfl, rfl⟩
  obtain ⟨r, e, hfind, hdir, hdata, hother⟩ := Files.Access.find_of_write hwritten
  -- What is found there after writing is a file: anything else was there before.
  have hplain : e.isFile = true := by
    by_contra hnot
    have hbefore := hother (by simpa using hnot)
    exact hnot (hfile e (by rw [Disk.find?, hbefore]))
  cases e with
  | file mode old =>
    obtain rfl := hdata mode old rfl
    rw [Disk.eval_chmod hfind] at hchanged
    cases hchanged
    have hclean := Disk.find_clean (Disk.find_putEntry_file hfind 0o666 (Utf8.encode s.stdout)) rfl
    exact Disk.read_of_find hclean (by simp [Entry.allows, Entry.mode, Files.readBit])
  | _ => cases hplain

/-- **Files compare equal exactly if they are the same but for their line ends.** Where no golden files are updated, what a
program wrote compares equal to a file exactly if the file is read as it, and a file to another exactly if the two are read
as one text. A text is read as another than it is exactly if it has a carriage return; so of what a program wrote, a copy
compares equal to it exactly if there is none in it. -/
theorem cmp_compares_unified (hm : m ≠ .negated) (hfixed : s.plan.updateScripts = false)
    (hroot : Path.isAbsolute s.directory = true) :
    (∀ file text, s.Holds file text →
      ((eval (cmp m ["stdout", file]) s).1 = .ok () ↔ Utf8.encode s.stdout = Utf8.encode (Line.unified text))) ∧
    (∀ file file' text text', file ≠ "stdout" → file ≠ "stderr" → s.Holds file text → s.Holds file' text' →
      ((eval (cmp m [file, file']) s).1 = .ok () ↔
        Utf8.encode (Line.unified text) = Utf8.encode (Line.unified text'))) ∧
    (∀ file t, s.TakesFile file → eval (cp .plain ["stdout", file]) s = (.ok (), t) →
      ((eval (cmp m ["stdout", file]) t).1 = .ok () ↔ '\r' ∉ s.stdout.toList)) ∧
    ∀ text, Line.unified text = text ↔ '\r' ∉ text.toList := by
  have hencode : ∀ {text text' : String}, text = text' ↔ Utf8.encode text = Utf8.encode text' :=
    ⟨congrArg _, fun h => Utf8.encode_injective h⟩
  refine ⟨fun file text hholds => ?_, fun file file' text text' hout herr hholds hholds' => ?_,
    fun file t hfile hcp => ?_, fun text => Line.unified_eq_iff⟩
  · rw [cmp_iff_of_fixed hm hfixed hroot (Script.text_stdout s) hholds, hencode]
  · rw [cmp_iff_of_fixed hm hfixed hroot (Script.text_of_read ⟨hout, herr⟩ hholds) hholds']
    exact hencode
  · obtain ⟨hholds, hplan, hdirectory, hstdout⟩ := holds_of_cp_stdout hfile hcp
    rw [cmp_iff_of_fixed hm (hplan ▸ hfixed) (hdirectory ▸ hroot) (Script.text_stdout t) hholds, hstdout, eq_comm]
    exact Line.unified_eq_iff

/-! ### A golden file -/

/-- A script that has written a text and has a golden file with the same text. -/
def told (text : String) : Script := (Script.retoldReady Plan.usual (Utf8.encode text)).telling text

theorem find_told (text : String) :
    (told text).absolute "out" = "/script-/out" ∧
      (told text).scene.disk.find true "/script-/out" =
        .ok (["script-", "out"], .file Files.newFileMode (Utf8.encode text)) := by
  have hfind := (Script.place_retold (Utf8.encode text)).2
  rw [Script.path_retold.1] at hfind
  exact ⟨(Script.text_told Plan.usual text text).1, hfind⟩

theorem absolute_told (text : String) : Path.isAbsolute (told text).directory = true := by
  rw [told, (Script.told_eq Plan.usual (Utf8.encode text) text).2.2.1]
  cbv

theorem holds_told (text : String) : (told text).Holds "out" text := by
  rw [Script.Holds, (find_told text).1]
  exact Script.read_toldDisk (Utf8.encode text)

theorem takesFile_told (text : String) : (told text).TakesFile "out" := by
  obtain ⟨hpath, hfind⟩ := find_told text
  intro e he
  rw [hpath, Disk.find?, hfind] at he
  cases he
  rfl

theorem exists_cp_told (text : String) : ∃ t, eval (cp .plain ["stdout", "out"]) (told text) = (.ok (), t) := by
  obtain ⟨hpath, hfind⟩ := find_told text
  have hplain : (told text).scene.disk.isDirectory ((told text).absolute "out") = false := by
    rw [hpath, Disk.isDirectory, Disk.find?, hfind]
    rfl
  have hwrite := Files.Access.eval_write_of_find hfind (Utf8.encode (told text).stdout)
  rw [if_pos (by simp [Entry.allows, Entry.mode, Files.newFileMode, Files.writeBit])] at hwrite
  have hchmod := Disk.eval_chmod (Disk.find_putEntry_file hfind Files.newFileMode (Utf8.encode (told text).stdout)) 0o666
  rw [eval_cp_stdout hplain, Step.eval_bind, eval_files, hpath, hwrite]
  dsimp only [Except.mapError]
  rw [eval_files, hchmod]
  exact ⟨_, rfl⟩

theorem cmp_compares_unified_told :
    (Modifier.plain ≠ .negated ∧ (told "a\n").plan.updateScripts = false ∧
      Path.isAbsolute (told "a\n").directory = true ∧ (told "a\n").Holds "out" "a\n" ∧
      (told "a\n").TakesFile "out") ∧
    (eval (cmp .plain ["stdout", "out"]) (told "a\n")).1 = .ok () ∧
    (eval (cmp .plain ["out", "out"]) (told "a\n")).1 = .ok () ∧
    ∃ t, eval (cp .plain ["stdout", "out"]) (told "a\n") = (.ok (), t) ∧
      (eval (cmp .plain ["stdout", "out"]) t).1 = .ok () := by
  have hroot := absolute_told "a\n"
  have hholds := holds_told "a\n"
  have hfile := takesFile_told "a\n"
  obtain ⟨t, hcp⟩ := exists_cp_told "a\n"
  obtain ⟨hout, htwo, hcopy, hunified⟩ := cmp_compares_unified (m := .plain) (by decide) rfl hroot
  have hsame : Line.unified "a\n" = "a\n" := (hunified "a\n").mpr (by decide)
  refine ⟨⟨by decide, rfl, hroot, hholds, hfile⟩, ?_, ?_, t, hcp, ?_⟩
  · exact (hout _ _ hholds).mpr (congrArg _ hsame.symm)
  · exact (htwo _ _ _ _ (by decide) (by decide) hholds hholds).mpr rfl
  · exact (hcopy _ _ hfile hcp).mpr (show '\r' ∉ "a\n".toList by decide)

/-- What a program wrote with a carriage return does not compare equal to a file of the same bytes, nor to its copy. -/
theorem cmp_finds_copy_different :
    (told "a\r\n").plan.updateScripts = false ∧
      (told "a\r\n").Holds "out" (told "a\r\n").stdout ∧
      (eval (cmp .plain ["stdout", "out"]) (told "a\r\n")).1 ≠ .ok () ∧
      ∃ t, eval (cp .plain ["stdout", "out"]) (told "a\r\n") = (.ok (), t) ∧
        t.stdout = (told "a\r\n").stdout ∧ (eval (cmp .plain ["stdout", "out"]) t).1 ≠ .ok () := by
  have hroot := absolute_told "a\r\n"
  have hdiffers : "a\r\n" ≠ Line.unified "a\r\n" := fun heq => Line.unified_eq_iff.mp heq.symm (by decide)
  obtain ⟨t, hcp⟩ := exists_cp_told "a\r\n"
  obtain ⟨hholds, hplan, hdirectory, hstdout⟩ := holds_of_cp_stdout (takesFile_told _) hcp
  refine ⟨rfl, holds_told _, fun hok => ?_, t, hcp, hstdout, fun hok => ?_⟩
  · exact hdiffers ((cmp_iff_of_fixed (by decide) rfl hroot (Script.text_stdout _) (holds_told _)).mp hok)
  · have hsame := (cmp_iff_of_fixed (by decide) (hplan ▸ rfl) (hdirectory ▸ hroot) (Script.text_stdout t) hholds).mp hok
    rw [hstdout] at hsame
    exact hdiffers hsame

end Command

end Rehearsal
