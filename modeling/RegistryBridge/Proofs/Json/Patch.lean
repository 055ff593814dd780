import RegistryBridge.Json.Patch
import RegistryBridge.Proofs.Json.Fields
/-!
# Patches of what stands under a key

Edits whose paths all begin with one key leave the rest of an object alone: they are edits of what
stands under the key.

## Main definitions

* `Json.PatchOperation.under`: an edit moved under a key.

## Main results

* `Json.Patch.applied?_under`: edits under a key edit what stands there.
* `Json.Patch.exists_of_applied?_under`: edits under a key that apply find the key.
* `Json.Patch.applied?_append`: a patch is applied part by part.
-/

namespace RegistryBridge.Json

variable {document child value : Json} {key : String}

namespace PatchOperation

/-- The path of an edit. -/
def path : PatchOperation → List String
  | add path _ | replace path _ | remove path => path

/-- **An edit moved under a key.** -/
def under (key : String) : PatchOperation → PatchOperation
  | add path value => add (key :: path) value
  | replace path value => replace (key :: path) value
  | remove path => remove (key :: path)

theorem path_under (key : String) (operation : PatchOperation) :
    (operation.under key).path = key :: operation.path := by
  cases operation <;> rfl

end PatchOperation

/-- Edits under a key are edits of what stands there, never of the whole. -/
theorem path_ne_nil_of_under {patch : List PatchOperation} {operation : PatchOperation}
    (h : operation ∈ patch.map (PatchOperation.under key)) : operation.path ≠ [] := by
  obtain ⟨inner, -, rfl⟩ := List.mem_map.mp h
  rw [PatchOperation.path_under]
  exact List.cons_ne_nil _ _

theorem child?_eq_get? (h : document.isObject = true) :
    document.child? key = document.get? key := by
  cases document with
  | object => rfl
  | _ => cases h

theorem withChild_eq_set (h : document.isObject = true) :
    document.withChild key value = document.set key value := by
  cases document with
  | object => rfl
  | _ => cases h

theorem addChild?_eq_set (h : document.isObject = true) :
    addChild? key value document = some (document.set key value) := by
  cases document with
  | object => rfl
  | _ => cases h

theorem removeChild?_eq_remove (h : document.get? key = some child) :
    removeChild? key document = some (document.remove key) := by
  cases document with
  | object fields =>
    have there : (Json.object fields).child? key = some child := h
    simp [removeChild?, there]
  | _ => cases h

theorem editAt?_cons (edit : Json → Option Json) (path : List String)
    (h : document.get? key = some child) :
    editAt? edit (key :: path) document = (editAt? edit path child).map (document.set key) := by
  have object := isObject_of_get? h
  have step : editAt? edit (key :: path) document = (document.child? key).bind fun child =>
      (editAt? edit path child).bind fun edited => some (document.withChild key edited) := rfl
  rw [step, child?_eq_get? object, h, Option.bind_some]
  cases editAt? edit path child with
  | none => rfl
  | some edited => exact congrArg some (withChild_eq_set object)

theorem lastKey?_cons {path : List String} (hne : path ≠ []) (key : String) :
    lastKey? (key :: path) = (lastKey? path).map fun (front, last) => (key :: front, last) := by
  unfold lastKey?
  rw [List.getLast?_cons, List.getLast?_eq_some_getLast hne, List.dropLast_cons_of_ne_nil hne]
  rfl

theorem exists_lastKey? {path : List String} (hne : path ≠ []) :
    ∃ front last, lastKey? path = some (front, last) := by
  unfold lastKey?
  rw [List.getLast?_eq_some_getLast hne]
  exact ⟨_, _, rfl⟩

/-- **An edit under a key** edits what stands there. -/
theorem PatchOperation.applied?_under {operation : PatchOperation} (inside : operation.path ≠ [])
    (h : document.get? key = some child) :
    (operation.under key).applied? document =
      (operation.applied? child).map (document.set key) := by
  cases operation with
  | replace path value => exact editAt?_cons _ _ h
  | add path value =>
    have inside : path ≠ [] := inside
    obtain ⟨front, last, split⟩ := exists_lastKey? inside
    simp only [under, applied?, lastKey?_cons inside, split, Option.map_some]
    exact editAt?_cons _ _ h
  | remove path =>
    have inside : path ≠ [] := inside
    obtain ⟨front, last, split⟩ := exists_lastKey? inside
    simp only [under, applied?, lastKey?_cons inside, split, Option.map_some]
    exact editAt?_cons _ _ h

/-! ## What an edit needs -/

/-- A key that names no position is a key of an object. -/
theorem get?_of_child? (named : position? key = none) (h : document.child? key = some child) :
    document.get? key = some child := by
  cases document with
  | object fields => exact h
  | list items =>
    simp only [child?, named, Option.bind_none] at h
    cases h
  | _ => cases h

/-- What names no position, nor the end of a list, can only be added to an object. -/
theorem isObject_of_addChild? {after : Json} (named : position? key = none) (last : key ≠ "-")
    (h : addChild? key value document = some after) : document.isObject = true := by
  cases document with
  | object fields => rfl
  | list items =>
    simp only [addChild?, named, if_neg last] at h
    cases h
  | _ => cases h

theorem exists_child?_of_editAt? {edit : Json → Option Json} {path : List String} {after : Json}
    (h : editAt? edit (key :: path) document = some after) :
    ∃ child, document.child? key = some child := by
  obtain ⟨child, there, -⟩ := Option.bind_eq_some_iff.mp h
  exact ⟨child, there⟩

/-- **An edit under a key that applies** finds the key. -/
theorem PatchOperation.exists_get?_of_under {operation : PatchOperation} {after : Json}
    (named : position? key = none) (inside : operation.path ≠ [])
    (h : (operation.under key).applied? document = some after) :
    ∃ child, document.get? key = some child := by
  suffices ∃ child, document.child? key = some child from
    this.imp fun _ => get?_of_child? named
  cases operation with
  | replace path value => exact exists_child?_of_editAt? h
  | add path value =>
    have inside : path ≠ [] := inside
    obtain ⟨front, last, split⟩ := exists_lastKey? inside
    simp only [under, applied?, lastKey?_cons inside, split, Option.map_some] at h
    exact exists_child?_of_editAt? h
  | remove path =>
    have inside : path ≠ [] := inside
    obtain ⟨front, last, split⟩ := exists_lastKey? inside
    simp only [under, applied?, lastKey?_cons inside, split, Option.map_some] at h
    exact exists_child?_of_editAt? h

namespace Patch

theorem applied?_append (patch later : List PatchOperation) (document : Json) :
    applied? (patch ++ later) document = (applied? patch document).bind (applied? later) := by
  unfold applied?
  rw [List.foldlM_append]
  rfl

theorem applied?_cons (operation : PatchOperation) (patch : List PatchOperation)
    (document : Json) :
    applied? (operation :: patch) document =
      (operation.applied? document).bind (applied? patch) := by
  unfold applied?
  rw [List.foldlM_cons]
  rfl

/-- **Edits under a key** edit what stands there, one after the other. -/
theorem applied?_under {patch : List PatchOperation} (inside : ∀ operation ∈ patch,
    operation.path ≠ []) (h : document.get? key = some child) :
    applied? (patch.map (PatchOperation.under key)) document =
      (applied? patch child).map (document.set key) := by
  induction patch generalizing document child with
  | nil => exact congrArg some (set_of_get? h).symm
  | cons operation rest ih =>
    have object := isObject_of_get? h
    rw [List.map_cons, applied?_cons, applied?_cons,
      PatchOperation.applied?_under (inside operation (List.mem_cons_self ..)) h]
    cases operation.applied? child with
    | none => rfl
    | some edited =>
      have next := ih (fun other mem => inside other (List.mem_cons_of_mem _ mem))
        (get?_set_self object key edited)
      -- What an edit stores under the key, the next one stores over it.
      have overwrites : (document.set key edited).set key = document.set key :=
        funext fun value => set_set document key edited value
      rw [overwrites] at next
      exact next

/-- **Edits under a key that apply** find the key, and apply to what stands there. -/
theorem exists_of_applied?_under {patch : List PatchOperation} {after : Json}
    (some_edit : patch ≠ []) (named : position? key = none)
    (inside : ∀ operation ∈ patch, operation.path ≠ [])
    (h : applied? (patch.map (PatchOperation.under key)) document = some after) :
    ∃ child edited, document.get? key = some child ∧ applied? patch child = some edited ∧
      after = document.set key edited := by
  obtain ⟨child, there⟩ : ∃ child, document.get? key = some child := by
    cases patch with
    | nil => exact absurd rfl some_edit
    | cons operation rest =>
      rw [List.map_cons, applied?_cons] at h
      obtain ⟨_, first, -⟩ := Option.bind_eq_some_iff.mp h
      exact PatchOperation.exists_get?_of_under named (inside _ (List.mem_cons_self ..)) first
  rw [applied?_under inside there] at h
  obtain ⟨edited, applied, rfl⟩ := Option.map_eq_some_iff.mp h
  exact ⟨child, edited, there, applied, rfl⟩

end Patch

/-! ## Edits of an entry -/

namespace PatchOperation

theorem applied?_replace (h : document.get? key = some child) :
    (replace [key] value).applied? document = some (document.set key value) :=
  editAt?_cons _ [] h

theorem applied?_add (h : document.isObject = true) :
    (add [key] value).applied? document = some (document.set key value) :=
  addChild?_eq_set h

theorem applied?_remove (h : document.get? key = some child) :
    (remove [key]).applied? document = some (document.remove key) :=
  removeChild?_eq_remove h

end PatchOperation

end RegistryBridge.Json
