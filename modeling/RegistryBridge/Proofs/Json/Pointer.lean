import RegistryBridge.Admission.Review
import RegistryBridge.Proofs.Text.Pieces
/-!
# Patches as they are sent

A patch is sent as a list of operations, each with the text of its path. In such a text a slash or a
tilde of a key is escaped. Whoever reads the operations by the rules for these texts has the patch.

## Main definitions

* `Json.keys?`: reads the text of a path.
* `Json.Patch.ofJson?`: reads a list of operations.

## Main results

* `Json.keys?_pointer`: paths are read back from their texts.
* `Json.Patch.ofJson?_operations`: so are patches from what is sent.
-/

namespace RegistryBridge.Json

/-- A key with the escapes undone. A tilde that escapes nothing is an error. -/
def unescape? : List Char → Option (List Char)
  | [] => some []
  | '~' :: '0' :: rest => (unescape? rest).map ('~' :: ·)
  | '~' :: '1' :: rest => (unescape? rest).map ('/' :: ·)
  | '~' :: _ => none
  | c :: rest => (unescape? rest).map (c :: ·)

/-- **Reads the text of a path**: a slash in front of every key. -/
def keys? (s : String) : Option (List String) :=
  match Text.pieces '/' s.toList with
  | [] :: pieces => pieces.mapM fun piece => (unescape? piece).map String.ofList
  | _ => none

theorem unescape?_flatMap (cs : List Char) :
    unescape? (cs.flatMap fun c =>
      if c = '~' then ['~', '0'] else if c = '/' then ['~', '1'] else [c]) = some cs := by
  induction cs with
  | nil => rfl
  | cons c rest ih =>
    rw [List.flatMap_cons]
    by_cases tilde : c = '~'
    · subst tilde
      simp [unescape?, ih]
    · by_cases slash : c = '/'
      · subst slash
        simp [unescape?, ih]
      · simp [tilde, slash, unescape?, ih]

theorem unescape?_pointerKey (key : String) : unescape? (pointerKey key) = some key.toList :=
  unescape?_flatMap key.toList

/-- An escaped key has no slash. -/
theorem slash_not_mem_pointerKey (key : String) : '/' ∉ pointerKey key := by
  intro mem
  obtain ⟨c, -, mem⟩ := List.mem_flatMap.mp mem
  split at mem
  · simp at mem
  · split at mem
    · simp at mem
    · rename_i other
      exact other (List.mem_singleton.mp mem).symm

theorem mapM_unescape?_pointerKey (path : List String) :
    (path.map pointerKey).mapM (fun piece => (unescape? piece).map String.ofList) = some path := by
  induction path with
  | nil => rfl
  | cons key path ih =>
    rw [List.map_cons, List.mapM_cons, unescape?_pointerKey, ih]
    simp

/-- **A path is read back from its text**, whatever is in its keys. -/
theorem keys?_pointer (path : List String) : keys? (pointer path) = some path := by
  have pieces : Text.pieces '/' (pointer path).toList = [] :: path.map pointerKey := by
    rw [pointer, String.toList_ofList]
    exact Text.pieces_flatMap_cons (fun key _ => slash_not_mem_pointerKey key) List.not_mem_nil
  unfold keys?
  rw [pieces]
  exact mapM_unescape?_pointerKey path

/-- Reads an operation by its name. -/
def PatchOperation.ofJson? (document : Json) : Option PatchOperation :=
  match document.get? "op", document.get? "path", document.get? "value" with
  | some (.text "add"), some (.text path), some value => (keys? path).map (.add · value)
  | some (.text "replace"), some (.text path), some value => (keys? path).map (.replace · value)
  | some (.text "remove"), some (.text path), _ => (keys? path).map .remove
  | _, _, _ => none

/-- **Reads a list of operations.** -/
def Patch.ofJson? : Json → Option (List PatchOperation)
  | .list items => items.mapM PatchOperation.ofJson?
  | _ => none

theorem PatchOperation.ofJson?_toJson (operation : PatchOperation) :
    ofJson? operation.toJson = some operation := by
  cases operation with
  | add path value =>
    show (keys? (pointer path)).map (add · value) = _
    rw [keys?_pointer]
    rfl
  | replace path value =>
    show (keys? (pointer path)).map (replace · value) = _
    rw [keys?_pointer]
    rfl
  | remove path =>
    show (keys? (pointer path)).map remove = _
    rw [keys?_pointer]
    rfl

/-- **A patch is read back** from the operations that are sent. -/
theorem Patch.ofJson?_operations (patch : List PatchOperation) :
    Patch.ofJson? (AdmissionResponse.operations patch) = some patch := by
  show (patch.map PatchOperation.toJson).mapM PatchOperation.ofJson? = some patch
  induction patch with
  | nil => rfl
  | cons operation patch ih =>
    rw [List.map_cons, List.mapM_cons, PatchOperation.ofJson?_toJson, ih]
    rfl

end RegistryBridge.Json
