import Mathlib.Data.List.Perm.Subperm
import Rehearsal.Proofs.Http.Draft
import Rehearsal.Proofs.Table

/-!
# Fields of forms

A form that files are sent with is made of a table of the pairs that a body holds, and a table has one value for each name.
So of several fields with one name only the last is sent. `upload_fields` says for exactly which bodies that loses none:
those whose names are distinct. A query, which is read the same way, is no table and loses none of its pairs.
-/

namespace Rehearsal.Http

open Rehearsal

/-! ## Forms with files -/

namespace Multipart

theorem nodup_keys_fields (body : String) : (fields body).keys.Nodup :=
  Table.nodup_keys_foldl_insert _ _ _ List.nodup_nil

/-- A form has the last field of each name. -/
theorem mem_fields_iff {body name value : String} :
    (name, value) ∈ fields body ↔
      ((Query.pairsOf body).filter fun p => p.1 == name).getLast? = some (name, value) := by
  have hfound := Table.get?_foldl_insert (·.1) (·.2) (Query.grouped (Query.pairsOf body)) [] name
  have hlast : (Query.grouped (Query.pairsOf body)).reverse.find? (fun p => p.1 == name) =
      ((Query.pairsOf body).filter fun p => p.1 == name).getLast? := by
    rw [← List.head?_filter, List.filter_reverse, List.head?_reverse, Query.filter_grouped]
  rw [Table.mem_iff_get? (nodup_keys_fields body)]
  unfold fields Table.ofPairs
  rw [hfound, hlast, Table.get?_nil, Option.or_none]
  cases hpair : ((Query.pairsOf body).filter fun p => p.1 == name).getLast? with
  | none => simp
  | some p =>
    have hname : p.1 = name := eq_of_beq (List.mem_filter.mp (List.mem_of_getLast? hpair)).2
    rw [Option.map_some, Option.some.injEq, Option.some.injEq, Prod.ext_iff]
    simp [hname]

/-- **A form has all fields of a body exactly if their names are distinct.** -/
theorem subperm_fields_iff (body : String) :
    (Query.pairsOf body).Subperm (fields body) ↔ ((Query.pairsOf body).map (·.1)).Nodup := by
  constructor
  · rintro ⟨kept, hperm, hsub⟩
    have hkeys : (kept.map (·.1)).Nodup := (nodup_keys_fields body).sublist (hsub.map _)
    exact (hperm.map _).nodup_iff.mp hkeys
  · intro hnodup
    have hgrouped := Query.grouped_perm (Query.pairsOf body)
    have hkeys : (Table.keys (Query.grouped (Query.pairsOf body))).Nodup := (hgrouped.map _).nodup_iff.mpr hnodup
    rw [fields, Table.ofPairs_of_nodup hkeys]
    exact hgrouped.symm.subperm

end Multipart

open Exchange in
/-- **Of the fields of a body that is sent along with files, the last of each name is sent**: all of them exactly if their
names are distinct. A query has all the pairs of its texts. -/
theorem upload_fields {s : Surroundings} {t : Template} {d : Draft} (h : Draft.ofTemplate s t = .ok d) {body : String}
    (hbody : t.body = some body) (hfiles : t.files ≠ []) :
    let pairs := Query.pairsOf body
    let data := Multipart.fields body
    (∃ boundary, d.body = Multipart.render boundary
      (data.map (fun p => Multipart.Part.ofField p.1 p.2) ++ t.files.map Multipart.Part.ofUpload)) ∧
    data.keys.Nodup ∧
    (∀ name value, (name, value) ∈ data ↔ (pairs.filter fun p => p.1 == name).getLast? = some (name, value)) ∧
    (pairs.Subperm data ↔ (pairs.map (·.1)).Nodup) ∧
    ∃ found, List.Forall₂ Query.Holds t.query found ∧ d.fields = found.flatten := by
  intro pairs data
  obtain ⟨-, hfields, -, hpayload⟩ := ofTemplate_eq_ok h
  refine ⟨?_, Multipart.nodup_keys_fields body, fun _ _ => Multipart.mem_fields_iff, Multipart.subperm_fields_iff body,
    Query.holds_of_allFields hfields⟩
  have hsome : t.files.isEmpty = false := by simpa using hfiles
  unfold payload at hpayload
  rw [hsome, hbody] at hpayload
  exact ⟨_, congrArg (·.1) hpayload⟩

/-- The template of a form with one file. -/
def sampleForm (body : String) : Template :=
  { Template.fresh with
    url := "http://api.test/p", method := "POST", body := some body, files := [⟨"a.txt", "file", "data\n"⟩] }

open Exchange in
theorem upload_fields_distinct :
    ∃ d, Draft.ofTemplate ⟨"BOUNDARY", 0, none⟩ (sampleForm "a=1&b=2") = .ok d ∧
      (Query.pairsOf "a=1&b=2").Subperm (Multipart.fields "a=1&b=2") := by
  refine ⟨_, rfl, ?_⟩
  have hfields := upload_fields (s := ⟨"BOUNDARY", 0, none⟩) (t := sampleForm "a=1&b=2") rfl rfl (by simp [sampleForm])
  exact hfields.2.2.2.1.mpr (by decide +kernel)

open Exchange in
/-- **Of two fields with one name the first is not sent.** -/
theorem repeated_field_lost :
    Query.pairsOf "a=1&a=2" = [("a", "1"), ("a", "2")] ∧
      ∃ d, Draft.ofTemplate ⟨"BOUNDARY", 0, none⟩ (sampleForm "a=1&a=2") = .ok d ∧
        d.body = Multipart.render "BOUNDARY"
          [Multipart.Part.ofField "a" "2", Multipart.Part.ofUpload ⟨"a.txt", "file", "data\n"⟩] := by
  refine ⟨by decide +kernel, _, rfl, ?_⟩
  decide +kernel

end Rehearsal.Http
