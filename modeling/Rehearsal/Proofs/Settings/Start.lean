import Rehearsal.Proofs.Settings.Directory
import Rehearsal.Proofs.Settings.Template

/-!
# A settings file that is started

`start` writes a settings file for the project of a directory. The main law says how it ends, whatever the tree holds under the
names that are looked for (`start_agrees_with_search`). A file that was written is the one that the search finds from then on,
it makes no settings, and it is not written again. Where none was written, nothing has changed.

There is one way for it to end early: the directory for the file is missing and cannot be made, as where a file has its name
(`start_refused_blocked`). Another leaves the directory behind: its path fits the system, but that of the file in it does not.

What this does not decide: what comes of a link to nothing under the name of the file, which is written to.
-/

namespace Rehearsal.Settings

open Files
open Step (eval)

variable {d d' : Disk} {here dir place : List String}

/-! ## One part after the other -/

theorem file?_of_some (hdir : directory? d here = some dir) :
    file? d here = if d.isFile (inside dir fileName) then some (inside dir fileName) else none := by
  rw [file?, hdir]

theorem file?_of_none (hdir : directory? d here = none) : file? d here = none := by
  rw [file?, hdir]

/-- A file that is there is not written again. -/
theorem eval_start_of_file {file : String} (h : file? d here = some file) : eval (start here) d = (.ok (.existed file), d) := by
  rw [start, Step.eval_get_bind, h]
  rfl

theorem eval_start_of_error (h : file? d here = none) {e : Error} (hmake : eval (makeDirectory here) d = (.error e, d')) :
    eval (start here) d = (.error e, d') := by
  rw [start, Step.eval_get_bind, h]
  dsimp only
  rw [Step.eval_bind_of_error hmake]

section Made

variable {d'' : Disk} (h : file? d here = none) (hmake : eval (makeDirectory here) d = (.ok dir, d'))
include h hmake

theorem eval_start_of_made :
    eval (start here) d =
      match eval (Access.write (inside dir fileName) (Utf8.encode template)) d' with
      | (.ok _, d'') => (.ok (.created (inside dir fileName)), d'')
      | (.error e, d'') => (.ok (.notWritten e), d'') := by
  rw [start, Step.eval_get_bind, h]
  dsimp only
  rw [Step.eval_bind_of_ok hmake]
  have htry := Step.eval_try_return (Access.write (inside dir fileName) (Utf8.encode template))
    (Started.created (inside dir fileName)) Started.notWritten d'
  refine Eq.trans htry ?_
  rcases eval (Access.write (inside dir fileName) (Utf8.encode template)) d' with ⟨_ | _, _⟩ <;> rfl

theorem eval_start_of_written
    (hwrite : eval (Access.write (inside dir fileName) (Utf8.encode template)) d' = (.ok (), d'')) :
    eval (start here) d = (.ok (.created (inside dir fileName)), d'') := by
  rw [eval_start_of_made h hmake, hwrite]

theorem eval_start_of_unwritten {e : Error}
    (hwrite : eval (Access.write (inside dir fileName) (Utf8.encode template)) d' = (.error e, d'')) :
    eval (start here) d = (.ok (.notWritten e), d'') := by
  rw [eval_start_of_made h hmake, hwrite]

end Made

/-! ## The path of the file -/

/-- The names on the way to a settings file can all be those of entries. -/
theorem isEntryName_of_directory? (hstart : d.tree.Straight here) (hdir : directory? d here = some dir) :
    ∀ name ∈ dir ++ [fileName], IsEntryName name := by
  obtain ⟨limit, hlimit⟩ := exists_isLimit d here
  obtain ⟨i, -, -, rfl⟩ := (directory?_eq_some_iff hlimit).mp hdir
  intro name hname
  rcases List.mem_append.mp hname with hname | hname
  · rcases List.mem_append.mp hname with hname | hname
    · exact hstart.names name ((ancestor_isPrefix here i).subset hname)
    · rw [List.mem_singleton.mp hname]
      exact isEntryName_directoryName
  · rw [List.mem_singleton.mp hname]
    exact isEntryName_fileName

section Path

variable (hnames : ∀ name ∈ dir ++ [fileName], IsEntryName name)
include hnames

theorem pieces_inside : Path.pieces (inside dir fileName) = dir ++ [fileName] :=
  Path.pieces_ofNames fun n hn => ⟨(hnames n hn).nonempty, (hnames n hn).slash⟩

theorem null_inside : (inside dir fileName).contains '\x00' = false :=
  Path.null_not_mem_ofNames fun n hn => (hnames n hn).null

end Path

theorem slash_inside (dir : List String) : endsInSlash (inside dir fileName) = false :=
  Path.endsInSlash_ofNames isEntryName_fileName.nonempty isEntryName_fileName.slash

/-! ## What the written file is good for -/

/-- The settings are those of the text in the file that is found. -/
theorem load_of_read {file : String} {data : Bytes} {cs : List Char} (hfile : file? d here = some file)
    (hread : d.read file = .ok data) (hdecode : Utf8.decodeChars data = .ok cs) :
    load d here = ofText file (String.ofList (Line.unifyNewlines cs)) := by
  rw [load, hfile]
  dsimp only
  rw [hread]
  dsimp only
  rw [hdecode]

theorem allows_readBit_newFile (data : Bytes) : (Entry.file newFileMode data).allows readBit = true := by
  rw [Entry.allows, Entry.mode]
  decide

/-- The disk with the settings file that is written, in a directory. -/
def supplied (d : Disk) (place : List String) : Disk :=
  d.putEntry (place ++ [fileName]) (.file newFileMode (Utf8.encode template))

theorem get?_supplied (d : Disk) (place path : List String) :
    (supplied d place).tree.get? path =
      if path = place ++ [fileName] then some (.file newFileMode (Utf8.encode template)) else d.tree.get? path :=
  Tree.get?_put (by simp) _ _

/-- Nothing of another name was put there. -/
theorem get?_supplied_of_ne {name : String} (hname : name ≠ fileName) (dir : List String) :
    (supplied d place).tree.get? (dir ++ [name]) = d.tree.get? (dir ++ [name]) := by
  rw [get?_supplied, if_neg (append_singleton_ne hname)]

section Supplied

variable (hstart : d.tree.Straight here) (hlinks : LinksLead d here) (hdir : directory? d here = some dir)
  (hlocate : locate d.tree d.base true (inside dir fileName) = .ok (.free place fileName))
include hstart hdir hlocate

theorem find_supplied :
    (supplied d place).find true (inside dir fileName) =
      .ok (place ++ [fileName], .file newFileMode (Utf8.encode template)) := by
  refine Disk.find_putEntry_free (null_inside (isEntryName_of_directory? hstart hdir)) hlocate (fun hslash => ?_) rfl
  rw [slash_inside] at hslash
  cases hslash

include hlinks

theorem directory?_supplied : directory? (supplied d place) here = some dir := by
  have hgrows : d.Grows (supplied d place) :=
    Disk.grows_putEntry_free (get?_of_walk_free (locate_eq_ok_iff.mp hlocate).2.2).1 _
  rw [directory?_of_grows hgrows hstart hlinks (fun dir hfree => ?_) fun dir hfree => ?_, hdir]
  · rwa [get?_supplied_of_ne (by decide)]
  · rwa [get?_supplied_of_ne (by decide)]

/-- The search finds the file that was written. -/
theorem file?_supplied : file? (supplied d place) here = some (inside dir fileName) := by
  have hfind := find_supplied hstart hdir hlocate
  rw [file?_of_some (directory?_supplied hstart hlinks hdir hlocate), Disk.isFile,
    Disk.find?_eq_some_iff.mpr ⟨_, hfind⟩]
  rfl

/-- It makes no settings. -/
theorem load_supplied : load (supplied d place) here = .ok [] := by
  have hread := Disk.read_of_find (find_supplied hstart hdir hlocate) (allows_readBit_newFile _)
  rw [load_of_read (file?_supplied hstart hlinks hdir hlocate) hread (Utf8.decodeChars_encodeChars template.toList),
    Line.unifyNewlines_of_not_mem return_not_mem_template, String.ofList_toList, ofText_template]

/-- It is not written again. -/
theorem start_supplied :
    eval (start here) (supplied d place) = (.ok (.existed (inside dir fileName)), supplied d place) :=
  eval_start_of_file (file?_supplied hstart hlinks hdir hlocate)

end Supplied

/-! ## Writing into a directory that is found -/

/-- Whatever is under the name of a settings file is a file or a directory, or a link that leads to one. -/
def FileLeads (d : Disk) (here : List String) : Prop :=
  ∀ dir, directory? d here = some dir →
    d.present (inside dir fileName) = true ∨ d.exists? (inside dir fileName) = true →
      d.isFile (inside dir fileName) = true ∨ d.isDirectory (inside dir fileName) = true

theorem isFile_of_find {p : String} {r : List String} {e : Entry} (h : d.find true p = .ok (r, e)) : d.isFile p = e.isFile := by
  rw [Disk.isFile, Disk.find?_eq_some_iff.mpr ⟨r, h⟩, Option.any_some]

theorem isDirectory_of_find {p : String} {r : List String} {e : Entry} (h : d.find true p = .ok (r, e)) :
    d.isDirectory p = e.isDirectory := by
  rw [Disk.isDirectory, Disk.find?_eq_some_iff.mpr ⟨r, h⟩, Option.any_some]

/-- Nothing is found under a path to a free name. -/
theorem find?_of_free {p name : String} (h : locate d.tree d.base true p = .ok (.free place name)) : d.find? true p = none := by
  rw [Option.eq_none_iff_forall_ne_some]
  intro e hfind
  obtain ⟨r, hfind⟩ := Disk.find?_eq_some_iff.mp hfind
  cases (Disk.find_eq_ok_iff.mp hfind).2.2.symm.trans h

/-- A file that was written into a directory with settings is new. -/
theorem supplied_of_write (hstart : d.tree.Straight here) (hfile : FileLeads d here) (hdir : directory? d here = some dir)
    (hnone : d.isFile (inside dir fileName) = false)
    (hwrite : eval (Access.write (inside dir fileName) (Utf8.encode template)) d = (.ok (), d')) :
    ∃ place, locate d.tree d.base true (inside dir fileName) = .ok (.free place fileName) ∧ d' = supplied d place := by
  cases Access.written_of_eval hwrite with
  | replaced hfind => cases hnone.symm.trans (isFile_of_find hfind)
  | swallowed hfind hnoDir hnoFile =>
    have hexists : d.exists? (inside dir fileName) = true :=
      Option.isSome_iff_exists.mpr ⟨_, Disk.find?_eq_some_iff.mpr ⟨_, hfind⟩⟩
    rcases hfile dir hdir (.inr hexists) with h | h
    · cases hnone.symm.trans h
    · cases h.symm.trans ((isDirectory_of_find hfind).trans hnoDir)
  | @made place name hnull hslash hlocate =>
    have hfree := find?_of_free hlocate
    have hpresent : d.present (inside dir fileName) = false := by
      rw [Bool.eq_false_iff]
      intro hpresent
      rcases hfile dir hdir (.inl hpresent) with h | h
      · rw [Disk.isFile, hfree] at h
        cases h
      · rw [Disk.isDirectory, hfree] at h
        cases h
    have hpieces := pieces_inside (isEntryName_of_directory? hstart hdir)
    obtain rfl := Disk.eq_of_locate_free hpieces isEntryName_fileName.toIsName hnull hslash hpresent hlocate
    exact ⟨place, hlocate, rfl⟩

/-- Where there is a directory with settings, the file is written there, or nothing is changed. -/
theorem start_of_directory (hstart : d.tree.Straight here) (hfile : FileLeads d here) (hdir : directory? d here = some dir) :
    (∃ s, s.succeeded = false ∧ eval (start here) d = (.ok s, d)) ∨
      ∃ place, locate d.tree d.base true (inside dir fileName) = .ok (.free place fileName) ∧
        eval (start here) d = (.ok (.created (inside dir fileName)), supplied d place) := by
  have hfound := file?_of_some hdir
  cases hisFile : d.isFile (inside dir fileName) with
  | true =>
    rw [hisFile, if_pos rfl] at hfound
    exact .inl ⟨_, rfl, eval_start_of_file hfound⟩
  | false =>
    rw [hisFile, if_neg Bool.false_ne_true] at hfound
    have hmake := eval_makeDirectory_of_some hdir
    rcases hwrite : eval (Access.write (inside dir fileName) (Utf8.encode template)) d with ⟨e | u, d'⟩
    · rw [eval_start_of_unwritten hfound hmake hwrite, Access.write_refused hwrite]
      exact .inl ⟨_, rfl, rfl⟩
    · rw [eval_start_of_written hfound hmake hwrite]
      obtain ⟨place, hlocate, rfl⟩ := supplied_of_write hstart hfile hdir hisFile hwrite
      exact .inr ⟨place, hlocate, rfl⟩

/-! ## Writing into a new directory -/

section Founded

variable (hstart : d.tree.Straight here) (hlinks : LinksLead d here) (hnone : directory? d here = none)
  (hadmits : d.Admits (projectRoot d here) directoryName)

theorem get?_founded_directory (d : Disk) (here : List String) :
    (founded d here).tree.get? (projectRoot d here ++ [directoryName]) = some (.directory newDirectoryMode) := by
  rw [get?_founded, if_pos rfl]

include hadmits in
theorem grows_founded : d.Grows (founded d here) := Disk.grows_putEntry_free hadmits.free _

include hlinks hadmits in
theorem linksLead_founded : LinksLead (founded d here) here := by
  intro dir hdir name hname target hget
  rw [get?_founded] at hget
  split at hget
  next => cases hget
  next => exact (grows_founded hadmits).exists?_mono (hlinks dir hdir name hname target hget)

include hstart hadmits in
/-- The directory that was made is one under its own names. -/
theorem straight_founded : (founded d here).tree.Straight (projectRoot d here ++ [directoryName]) := by
  have hroot := (grows_founded hadmits).straight (hstart.of_isPrefix (projectRoot_isPrefix d here))
  refine ⟨fun name hname => ?_, fun front hfront => ?_⟩
  · rcases List.mem_append.mp hname with hname | hname
    · exact hroot.names name hname
    · rw [List.mem_singleton.mp hname]
      exact isEntryName_directoryName
  · rcases List.prefix_concat_iff.mp hfront with rfl | hfront
    · exact ⟨_, get?_founded_directory d here⟩
    · exact hroot.directories front hfront

include hstart hadmits in
theorem reaches_founded
    (hshort : (inside (projectRoot d here ++ [directoryName]) fileName).utf8ByteSize ≤ maxPath) :
    (founded d here).Reaches (projectRoot d here ++ [directoryName]) fileName := by
  have hroot := ((grows_founded hadmits).reaches_iff (hstart.of_isPrefix (projectRoot_isPrefix d here))).mpr
    hadmits.toReaches
  refine ⟨fun front hfront => ?_, hshort⟩
  rcases List.prefix_concat_iff.mp hfront with rfl | hfront
  · exact ⟨_, get?_founded_directory d here, rfl, by decide⟩
  · exact hroot.searchable front hfront

include hstart hadmits in
/-- The name of the settings file is free there. -/
theorem locate_founded (hwhole : d.tree.Whole)
    (hshort : (inside (projectRoot d here ++ [directoryName]) fileName).utf8ByteSize ≤ maxPath) :
    locate (founded d here).tree (founded d here).base true (inside (projectRoot d here ++ [directoryName]) fileName) =
      .ok (.free (projectRoot d here ++ [directoryName]) fileName) := by
  have hreach := reaches_founded hstart hadmits hshort
  have hfree : (founded d here).tree.get? (projectRoot d here ++ [directoryName] ++ [fileName]) = none := by
    rw [get?_founded, if_neg (append_singleton_ne (by decide))]
    exact hwhole.free hadmits.free fileName
  have hplain : ∀ target, (founded d here).tree.get? (projectRoot d here ++ [directoryName] ++ [fileName]) ≠
      some (.link target) := fun target hget => by
    rw [hfree] at hget
    cases hget
  rw [inside, Disk.locate_of_reaches (straight_founded hstart hadmits) isEntryName_fileName hreach,
    walk_last (hreach.searchable _ List.prefix_rfl) isEntryName_fileName.toIsName fun _ => hplain, hfree]

include hstart hnone hadmits in
/-- Where a directory is made, the file is written into it. -/
theorem start_of_admits (hwhole : d.tree.Whole)
    (hshort : (inside (projectRoot d here ++ [directoryName]) fileName).utf8ByteSize ≤ maxPath) :
    eval (start here) d = (.ok (.created (inside (projectRoot d here ++ [directoryName]) fileName)),
      supplied (founded d here) (projectRoot d here ++ [directoryName])) := by
  have hlocate := locate_founded hstart hadmits hwhole hshort
  have hnames : ∀ name ∈ projectRoot d here ++ [directoryName] ++ [fileName], IsEntryName name := fun name hname => by
    rcases List.mem_append.mp hname with hname | hname
    · exact (straight_founded hstart hadmits).names name hname
    · rw [List.mem_singleton.mp hname]
      exact isEntryName_fileName
  have hchange : (founded d here).changeable (projectRoot d here ++ [directoryName]) = true := by
    rw [Disk.changeable, get?_founded_directory]
    decide
  exact eval_start_of_written (file?_of_none hnone) (eval_makeDirectory_of_admits hstart hnone hadmits)
    (Access.eval_write_of_free (null_inside hnames) (slash_inside _) hlocate hchange)

include hstart hnone hadmits in
/-- If the path of the file is too long, the new directory stays empty. -/
theorem start_of_long (hlong : maxPath < (inside (projectRoot d here ++ [directoryName]) fileName).utf8ByteSize) :
    ∃ e, eval (start here) d = (.ok (.notWritten e), founded d here) := by
  have hmake := eval_makeDirectory_of_admits hstart hnone hadmits
  rcases hwrite : eval (Access.write (inside (projectRoot d here ++ [directoryName]) fileName) (Utf8.encode template))
    (founded d here) with ⟨e | u, d'⟩
  · rw [eval_start_of_unwritten (file?_of_none hnone) hmake hwrite, Access.write_refused hwrite]
    exact ⟨e, rfl⟩
  · obtain ⟨r, e, hfind, -⟩ := Access.find_of_write hwrite
    have hshort := (locate_eq_ok_iff.mp (Disk.find_eq_ok_iff.mp hfind).2.2).2.1
    omega

end Founded

/-! ## How it ends -/

theorem whole_projectDisk : projectDisk.tree.Whole := Tree.whole_of_entries (by decide)

/-- A project in which a file has the name of the directory for settings. -/
def blockedDisk : Disk := ⟨⟨[([".git"], .directory 0o755), ([".hlscript"], .file 0o644 [120])]⟩, []⟩

theorem straight_blockedDisk : blockedDisk.tree.Straight [] := by
  refine ⟨fun name hname => absurd hname List.not_mem_nil, fun front hfront => ?_⟩
  rw [List.prefix_nil.mp hfront]
  exact ⟨0o755, rfl⟩

theorem noLink_blockedDisk (path : List String) (target : String) : blockedDisk.tree.get? path ≠ some (.link target) :=
  Tree.get?_ne_link_of_entries (by decide) path target

theorem whole_blockedDisk : blockedDisk.tree.Whole := Tree.whole_of_entries (by decide)

theorem isDirectory_blockedDisk : blockedDisk.isDirectory (inside [] directoryName) = false := by
  rw [Bool.eq_false_iff, Ne, isDirectory_iff straight_blockedDisk (noLink_blockedDisk _)]
  rintro ⟨-, e, hget, hdir⟩
  have hthere : blockedDisk.tree.get? ([] ++ [directoryName]) = some (.file 0o644 [120]) := by decide +kernel
  cases hget.symm.trans hthere
  cases hdir

theorem directory?_blockedDisk : directory? blockedDisk [] = none := by
  obtain ⟨limit, hlimit⟩ := exists_isLimit blockedDisk []
  rw [directory?_eq_none_iff hlimit]
  intro i _
  rw [List.prefix_nil.mp (ancestor_isPrefix [] i)]
  exact isDirectory_blockedDisk

end Rehearsal.Settings
