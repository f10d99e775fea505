import MessageContract.Proofs.Schema.Compilation
import MessageContract.Proofs.Schema.Evaluation.Lookup
import MessageContract.Schema.Report

/-!
# How a violation is put on record

Every record of a compiled schema is that of a violation which the evaluation of the schema comes to
(`CompiledSchema.exists_finds`). The steps to the violation are a JSON Pointer in the record, and
the keyword is the last of them (`Violation.lastStep_pointerOf`).
-/

namespace MessageContract

/-! ## Compiled schemas -/

namespace CompiledSchema

open Evaluation

/-- The evaluation of a compiled schema at a payload comes to a failure by some steps. -/
def Finds (c : CompiledSchema) (x : Json) (steps : List Step) (failure : Failure) (v : Violation) :
    Prop :=
  Evaluation.Finds c.resources (c.resources.budget x) c.scope c.schema ⟨x, []⟩ steps failure v

/-- Every record is that of a violation which the evaluation comes to. -/
theorem exists_finds {c : CompiledSchema} {schema x : Json} {record : Record}
    (h : record ∈ c.records schema x) :
    ∃ steps failure v, c.Finds x steps failure v ∧ record = v.record schema := by
  obtain ⟨v, hv, rfl⟩ := List.mem_map.1 h
  obtain ⟨steps, failure, hfinds⟩ := Evaluation.exists_finds hv
  exact ⟨steps, failure, v, hfinds, rfl⟩

end CompiledSchema

/-! ## Pointers -/

namespace Violation

theorem toList_pointerOf (path : List String) : (pointerOf path).toList =
    (path.map String.toList).flatMap fun cs => '/' :: Pointer.escape cs := by
  rw [pointerOf, String.toList_join]
  simp [List.flatMap_map]

/-- A pointer leads where the names lead that it was put down from. -/
theorem pointer?_pointerOf (schema : Json) (path : List String) :
    schema.pointer? (pointerOf path) = schema.at? path := by
  have hsegments : Pointer.segments? (pointerOf path).toList = some (path.map String.toList) := by
    rw [toList_pointerOf]
    cases path with
    | nil => rfl
    | cons name path => exact Pointer.segments?_flatMap (by simp)
  rw [Json.pointer?, hsegments, Option.bind_some, Json.at?]

theorem lastStep_nil : lastStep (pointerOf []) = "" := rfl

/-- Behind the last slash stands the last name, escaped. -/
theorem lastStep_pointerOf (path : List String) (name : String) :
    lastStep (pointerOf (path ++ [name])) = String.ofList (Pointer.escape name.toList) := by
  have hslash : ∀ c ∈ (Pointer.escape name.toList).reverse, (c != '/') = true := by
    intro c hc
    rw [bne_iff_ne]
    rintro rfl
    exact Pointer.not_mem_escape _ (List.mem_reverse.1 hc)
  have htext : (pointerOf (path ++ [name])).toList.reverse =
      (Pointer.escape name.toList).reverse ++ '/' :: (pointerOf path).toList.reverse := by
    simp [toList_pointerOf]
  rw [lastStep, htext, List.takeWhile_append_of_pos hslash]
  simp

end Violation
end MessageContract
