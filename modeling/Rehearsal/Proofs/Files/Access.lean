import Rehearsal.Files.Access
import Rehearsal.Proofs.Files.Tree
import Rehearsal.Proofs.Step

/-!
# Writing a file and reading it back

A write that is refused changes nothing (`write_refused`). A write to what is a file already puts the new contents in its
place in the tree and leaves every other place alone (`eval_write_of_find`), and reads back as what was written
(`read_of_write`).
-/

namespace Rehearsal.Files

open Step (eval)

/-- A disk with an entry put in its tree. -/
def Disk.putEntry (d : Disk) (path : List String) (e : Entry) : Disk := { d with tree := d.tree.put path e }

namespace Disk

/-- A path that leads to a file is a path without a null character or a slash at its end. -/
theorem find_eq_file {d : Disk} {p : String} {path : List String} {mode : Nat} {data : Bytes} :
    d.find true p = .ok (path, .file mode data) ↔
      p.contains '\x00' = false ∧ endsInSlash p = false ∧
        locate d.tree d.base true p = .ok (.entry path (.file mode data)) := by
  rw [find, Files.find]
  cases p.contains '\x00' with
  | true => simp
  | false =>
    rw [if_neg Bool.false_ne_true, Bool.true_or]
    rcases hlocate : locate d.tree d.base true p with why | ⟨place, e⟩ | ⟨directory, name⟩
    case ok.entry =>
      cases hslash : endsInSlash p <;> cases e <;> simp [Entry.isDirectory]
    all_goals simp

/-- A file that may be read is read. -/
theorem read_of_find {d : Disk} {p : String} {path : List String} {mode : Nat} {data : Bytes}
    (h : d.find true p = .ok (path, .file mode data)) (hmode : (Entry.file mode data).allows readBit) :
    d.read p = .ok data := by
  rw [read, h]
  simp only [hmode, Bool.not_true, Bool.false_eq_true, if_false]

/-- What is read is the contents of a file, unless it is nothing. -/
theorem find_of_read {d : Disk} {p : String} {data : Bytes} (h : d.read p = .ok data) (hdata : data ≠ []) :
    ∃ path mode, d.find true p = .ok (path, .file mode data) ∧ (Entry.file mode data).allows readBit := by
  rw [read] at h
  split at h
  next => cases h
  next => cases h
  next path e _ hfind =>
    split at h
    next => cases h
    next hmode =>
      split at h
      next mode old _ =>
        cases h
        exact ⟨path, mode, hfind, by simpa using hmode⟩
      next =>
        cases h
        exact absurd rfl hdata

end Disk

namespace Access

/-- Writing to what is a file already replaces its contents and keeps its mode, where that allows writing. -/
theorem eval_write_of_find {p : String} {d : Disk} {path : List String} {mode : Nat} {old : Bytes}
    (h : d.find true p = .ok (path, .file mode old)) (data : Bytes) :
    eval (write p data) d =
      if (Entry.file mode old).allows writeBit then (.ok (), d.putEntry path (.file mode data))
      else (.error (.refused .noAccess p none), d) := by
  obtain ⟨hnull, hslash, hlocate⟩ := Disk.find_eq_file.mp h
  have hempty : p.isEmpty = false := by
    rw [locate] at hlocate
    split at hlocate
    next => cases hlocate
    next hempty => simpa using hempty
  rw [write, Step.eval_get_bind]
  extract_lets jp1 jp2 jp3
  simp only [hnull, Bool.false_eq_true, if_false, jp3, hempty, jp2, hslash, jp1, hlocate]
  cases (Entry.file mode old).allows writeBit <;> rfl

/-- A write that is refused changes nothing. -/
theorem write_refused {p : String} {data : Bytes} {d d' : Disk} {e : Error}
    (h : eval (write p data) d = (.error e, d')) : d' = d := by
  rw [write, Step.eval_get_bind] at h
  extract_lets place slash empty at h
  split at h
  next =>
    cases h
    rfl
  simp only [empty] at h
  split at h
  next =>
    cases h
    rfl
  simp only [slash] at h
  split at h
  next =>
    split at h <;> cases h <;> rfl
  simp only [place] at h
  split at h
  next =>
    cases h
    rfl
  next =>
    split at h
    next =>
      cases h
      rfl
    split at h
    next =>
      cases h
      rfl
    next => split at h <;> cases h
  next =>
    split at h <;> cases h
    rfl

end Access

namespace Disk

/-- A path to a file leads to what is put in its place. -/
theorem find_putEntry_file {d : Disk} {p : String} {path : List String} {mode : Nat} {old : Bytes}
    (h : d.find true p = .ok (path, .file mode old)) (mode' : Nat) (data : Bytes) :
    (d.putEntry path (.file mode' data)).find true p = .ok (path, .file mode' data) := by
  obtain ⟨hnull, hslash, hlocate⟩ := find_eq_file.mp h
  refine find_eq_file.mpr ⟨hnull, hslash, ?_⟩
  rw [locate] at hlocate ⊢
  split at hlocate
  next => cases hlocate
  split at hlocate
  next => cases hlocate
  next hempty hlong =>
    rw [if_neg hempty, if_neg hlong]
    exact walk_put rfl rfl hlocate

/-- **A file that was written reads as what was written.** -/
theorem read_of_write {p : String} {d d' : Disk} {old data : Bytes} (hread : d.read p = .ok old) (hold : old ≠ [])
    (h : eval (Access.write p data) d = (.ok (), d')) : d'.read p = .ok data := by
  obtain ⟨path, mode, hfind, hmode⟩ := find_of_read hread hold
  rw [Access.eval_write_of_find hfind] at h
  split at h
  next =>
    cases h
    exact read_of_find (find_putEntry_file hfind mode data) hmode
  next => cases h

/-- The permissions of what a path leads to are changed. -/
theorem eval_chmod {p : String} {d : Disk} {path : List String} {e : Entry} (h : d.find true p = .ok (path, e)) (mode : Nat) :
    eval (Access.chmod p mode) d = (.ok (), d.putEntry path (Access.withMode mode e)) := by
  have hlook : eval (Access.look fun d => d.find true p) d = (.ok (path, e), d) := by
    rw [Access.look, Step.eval_get_bind, h]
    rfl
  rw [Access.chmod, Step.eval_bind_of_ok hlook]
  rfl

end Disk

end Rehearsal.Files
