import RegistryBridge.Proofs.Json.Fields
import RegistryBridge.World.Cluster
/-!
# Patches that are merged into a document

Besides lists of edits there are patches that look like the document that they are merged into. Where
the patch has an object its entries are merged under their keys, and keys that it does not have are left
alone; null takes a key away, and anything else stands for what was there. These are the merge patches
of RFC 7386.

## Main definitions

* `Json.mergedInto`: a document with a patch merged into it.

## Main results

* `Json.mergedInto_under`: one entry below one key is set.
-/

namespace RegistryBridge.Json

mutual

/-- **A document with a patch merged into it.** What is no object counts as an empty one where the
patch has an object. -/
def mergedInto : Json → Json → Json
  | .object fields, document =>
    mergedFields fields (if document.isObject then document else .object [])
  | patch, _ => patch

/-- An object with the entries of a patch merged into it, one after the other. -/
def mergedFields : List (String × Json) → Json → Json
  | [], document => document
  | (key, patch) :: rest, document =>
    mergedFields rest
      (if patch = .null then document.remove key
      else document.set key (patch.mergedInto ((document.get? key).getD .null)))

end

/-- Below the keys of a patch the document keeps what the patch does not speak of. -/
example :
    mergedInto (.object [("a", .object [("b", .null), ("c", .text "new")])])
        (.object [("a", .object [("b", .text "old"), ("d", .text "old")]), ("e", .null)]) =
      .object [("a", .object [("d", .text "old"), ("c", .text "new")]), ("e", .null)] := by
  decide

variable {document patch value : Json}

/-- A patch that is no object stands for the whole document. -/
theorem mergedInto_of_not_object (plain : patch.isObject = false) (document : Json) :
    patch.mergedInto document = patch := by
  cases patch with
  | object => cases plain
  | _ => rfl

/-- What an entry of a patch is merged into, if it is an object itself. -/
theorem childOrEmpty_eq_ite (document : Json) (key : String) :
    document.childOrEmpty key =
      if ((document.get? key).getD .null).isObject then (document.get? key).getD .null
      else .object [] := by
  unfold childOrEmpty
  cases document.get? key with
  | none => rfl
  | some child => cases child <;> rfl

/-- A patch of one entry sets that entry. -/
theorem mergedInto_singleton (object : document.isObject = true) (key : String)
    (something : patch ≠ .null) :
    (Json.object [(key, patch)]).mergedInto document =
      document.set key (patch.mergedInto ((document.get? key).getD .null)) := by
  simp only [mergedInto, mergedFields, object, if_true, if_neg something]

/-- **One entry below one key** is set by a patch that has nothing else. -/
theorem mergedInto_under (object : document.isObject = true) (key inner : String)
    (plain : value.isObject = false) (something : value ≠ .null) :
    (Json.object [(key, .object [(inner, value)])]).mergedInto document =
      document.set key ((document.childOrEmpty key).set inner value) := by
  have entry : (Json.object [(inner, value)]).mergedInto ((document.get? key).getD .null) =
      (document.childOrEmpty key).set inner value := by
    rw [childOrEmpty_eq_ite]
    simp only [mergedInto, mergedFields, if_neg something, mergedInto_of_not_object plain]
  rw [mergedInto_singleton object key (by simp), entry]

end RegistryBridge.Json
