import Rehearsal.Proofs.Files.Access
import Rehearsal.Proofs.Files.Path

/-!
# Putting a file in a place

A path with a null character in it leads nowhere, so a file is never put there: either a directory in front is refused, or
the null character is met (`place_meets_null_iff`). No other path meets one.
-/

namespace Rehearsal.Files

open Step (eval Fails)

/-- Whether an error can come from work on a path: only a path with a null character in it meets one. -/
def Error.Fits (p : String) (e : Error) : Prop := e = .nullCharacter → '\x00' ∈ p.toList

theorem Error.fits_refused (p : String) (why : Refusal) (shown : String) (link : Option String) :
    Error.Fits p (.refused why shown link) :=
  fun h => (nomatch h)

theorem Error.Fits.of_mem {p q : String} {e : Error} (h : Error.Fits q e) (hmem : '\x00' ∈ q.toList → '\x00' ∈ p.toList) :
    Error.Fits p e :=
  fun he => hmem (h he)

theorem Disk.fits_of_spot {d : Disk} {p : String} {e : Error} (h : d.spot p none = .error e) : Error.Fits p e := by
  rw [spot, Option.any_none, Bool.or_false] at h
  split at h
  next hnull => exact fun _ => by simpa [String.contains_char_eq] using hnull
  split at h
  next => cases h
  next =>
    cases h
    exact Error.fits_refused p _ _ _

namespace Access

/-! ## Making directories -/

theorem fails_refuse {α : Type} (why : Refusal) (p shown : String) (d : Disk) :
    Fails (Error.Fits p) (refuse why shown : Access α) d :=
  Step.fails_throw (Error.fits_refused p why shown none) d

theorem fails_makeDirectory (p : String) (d : Disk) : Fails (Error.Fits p) (makeDirectory p) d := by
  refine Step.fails_bind (Step.fails_get_bind ?_) fun spot t _ => ?_
  · split
    next => exact Step.fails_pure _ d
    next e he => exact Step.fails_throw (Disk.fits_of_spot he) d
  · split
    · exact fails_refuse _ p _ t
    · refine Step.fails_get_bind ?_
      extract_lets making
      split
      · exact Step.fails_modify _ t
      · exact Step.fails_throw_bind (Error.fits_refused p _ _ _) _ t

theorem fails_ensureDirectory (p : String) (d : Disk) : Fails (Error.Fits p) (ensureDirectory p) d := by
  refine Step.fails_tryCatch fun e t h => Step.fails_get_bind ?_
  split
  · exact Step.fails_pure _ t
  · exact Step.fails_throw (fails_makeDirectory p d e (congrArg Prod.fst h)) t

/-- A null character that was met in front of the last name of a path is in the path. -/
theorem mem_of_mem_splitLastName {c : Char} {p head tail : String} (hsplit : splitLastName p = (head, tail))
    (h : c ∈ head.toList) : c ∈ p.toList := by
  rw [splitLastName] at hsplit
  split at hsplit
  next front name hlast =>
    have hfront : front = Path.parent p := (congrArg Prod.fst hlast).symm
    split at hsplit
    · have hhead : head = Path.parent front := (congrArg Prod.fst hsplit).symm
      rw [hhead] at h
      have hmem := Path.mem_of_mem_parent h
      rw [hfront] at hmem
      exact Path.mem_of_mem_parent hmem
    · have hhead : head = front := (congrArg Prod.fst hsplit).symm
      rw [hhead, hfront] at h
      exact Path.mem_of_mem_parent h

theorem fails_makeDirectoriesIn (p : String) (n : Nat) (d : Disk) : Fails (Error.Fits p) (makeDirectoriesIn p n) d := by
  induction n generalizing p d with
  | zero => exact fails_ensureDirectory p d
  | succ n ih =>
    rw [makeDirectoriesIn]
    split
    next head tail hsplit =>
      refine Step.fails_get_bind ?_
      extract_lets making
      split
      · refine Step.fails_bind (Step.fails_tryCatch fun e t h => ?_) fun _ t _ => ?_
        · split
          · exact Step.fails_pure _ t
          · have hfits := ih head d e (congrArg Prod.fst h)
            exact Step.fails_throw (hfits.of_mem (mem_of_mem_splitLastName hsplit)) t
        · split
          · exact Step.fails_pure _ t
          · exact fails_ensureDirectory p t
      · exact fails_ensureDirectory p d

/-- A directory that is there is kept. -/
theorem ensureDirectory_of_entry {p : String} {d : Disk} {path : List String} {e : Entry}
    (hspot : d.spot p none = .ok (.entry path e)) (hdir : d.isDirectory p) : eval (ensureDirectory p) d = (.ok (), d) := by
  have hmake : eval (makeDirectory p) d = (.error (.refused .exists p none), d) := by
    rw [makeDirectory, look, Step.eval_bind, Step.eval_get_bind, hspot]
    rfl
  rw [ensureDirectory, Step.eval_tryCatch, hmake]
  dsimp only
  rw [Step.eval_get_bind, hdir]
  rfl

/-- A directory that is there is kept with those above it. -/
theorem makeDirectories_of_entry {p : String} {d : Disk} {path : List String} {e : Entry}
    (hspot : d.spot p none = .ok (.entry path e)) (hdir : d.isDirectory p)
    (hhead : (splitLastName p).1.isEmpty || d.exists? (splitLastName p).1) :
    eval (makeDirectories p) d = (.ok (), d) := by
  have hensure := ensureDirectory_of_entry hspot hdir
  rw [makeDirectories]
  cases p.length with
  | zero => exact hensure
  | succ n =>
    rw [makeDirectoriesIn]
    rcases hsplit : splitLastName p with ⟨head, tail⟩
    rw [hsplit] at hhead
    rw [Step.eval_get_bind]
    have hcond : (!head.isEmpty && !tail.isEmpty && !d.exists? head) = false := by
      rcases Bool.or_eq_true_iff.mp hhead with h | h <;> simp [h]
    dsimp only
    rw [hcond]
    exact hensure

/-! ## Writing -/

theorem write_of_null {p : String} (h : '\x00' ∈ p.toList) (data : Bytes) (d : Disk) :
    eval (write p data) d = (.error .nullCharacter, d) := by
  have hnull : p.contains '\x00' = true := by rw [String.contains_char_eq, decide_eq_true h]
  rw [write, Step.eval_get_bind, hnull]
  rfl

theorem fails_write (p : String) (data : Bytes) (d : Disk) : Fails (Error.Fits p) (write p data) d := by
  refine Step.fails_get_bind ?_
  extract_lets writing slash empty
  have hwriting : Fails (Error.Fits p) (writing ()) d := by
    simp only [writing]
    split
    · exact fails_refuse _ p _ d
    · split
      · exact fails_refuse _ p _ d
      · split
        · exact Step.fails_throw_bind (Error.fits_refused p _ _ _) _ d
        · split
          · exact Step.fails_modify _ d
          · exact Step.fails_pure _ d
    · split
      · exact Step.fails_throw_bind (Error.fits_refused p _ _ _) _ d
      · exact Step.fails_modify _ d
  split
  next hnull =>
    refine Step.fails_throw_bind (fun _ => ?_) _ d
    simpa [String.contains_char_eq] using hnull
  simp only [empty]
  split
  · exact Step.fails_throw_bind (Error.fits_refused p _ _ _) _ d
  simp only [slash]
  split
  · split
    · exact Step.fails_throw_bind (Error.fits_refused p _ _ _) _ d
    · exact Step.fails_throw_bind (Error.fits_refused p _ _ _) _ d
  · exact hwriting

/-! ## Both -/

/-- Makes the directory that a path is in, and writes a file there. -/
def place (path : String) (data : Bytes) : Access Unit := do
  makeDirectories (Path.parent path)
  write (Path.clean path) data

theorem fails_place (path : String) (data : Bytes) (d : Disk) : Fails (Error.Fits path) (place path data) d := by
  refine Step.fails_bind (fun e h => ?_) fun _ t _ e h => ?_
  · exact (fails_makeDirectoriesIn _ _ d e h).of_mem Path.mem_of_mem_parent
  · exact (fails_write _ data t e h).of_mem (Path.mem_clean_iff (by decide) (by decide) path).mp

/-- Nothing is put in a place whose path has a null character in it. -/
theorem place_of_null {path : String} (h : '\x00' ∈ path.toList) (data : Bytes) (d : Disk) :
    ∃ e t, eval (place path data) d = (.error e, t) := by
  rcases hmake : eval (makeDirectories (Path.parent path)) d with ⟨e | u, t⟩
  · exact ⟨e, t, Step.eval_bind_of_error hmake⟩
  · have hclean := (Path.mem_clean_iff (by decide) (by decide) path).mpr h
    exact ⟨.nullCharacter, t, (Step.eval_bind_of_ok hmake).trans (write_of_null hclean data t)⟩

/-- **A null character is met exactly in a path that has one, if no directory in front of it is refused.** -/
theorem place_meets_null_iff (path : String) (data : Bytes) (d : Disk) :
    (eval (place path data) d).1 = .error .nullCharacter ↔
      '\x00' ∈ path.toList ∧ ∀ why shown link, (eval (place path data) d).1 ≠ .error (.refused why shown link) := by
  constructor
  · intro h
    refine ⟨fails_place path data d _ h rfl, fun why shown link hrefused => ?_⟩
    rw [h] at hrefused
    cases hrefused
  · rintro ⟨hnull, hnot⟩
    obtain ⟨e, t, h⟩ := place_of_null hnull data d
    cases e with
    | refused why shown link => exact absurd (congrArg Prod.fst h) (hnot why shown link)
    | nullCharacter => rw [h]

end Access

end Rehearsal.Files
