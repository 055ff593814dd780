import RegistryBridge.Destination
import RegistryBridge.Proofs.Text.Pieces
/-!
# The grammar of destinations

A destination is read back from its text exactly when none of its parts holds a separator that the
reading splits at. A name and a tag are only kept free of colons when they are read from an output:
the slashes in them are counted when the whole text is read.

## Main definitions

* `Destination.Plain`: a destination that can be read back.

## Main results

* `Destination.ofOutput_eq_ok_iff`, `Destination.parse_eq_ok_iff`
* `Destination.parse_text_iff`, `Destination.parse_text_of_slash`: what comes of the text of a
  destination that was read from an output.
-/

namespace RegistryBridge

namespace Destination

variable {ns nameTag value : String} {d : Destination}

theorem toList_nameTag (d : Destination) :
    d.nameTag.toList = d.name.toList ++ ':' :: d.tag.toList := by
  simp [nameTag]

theorem toList_text (d : Destination) :
    d.text.toList = d.ns.toList ++ '/' :: d.nameTag.toList := by
  simp [text]

theorem nameTag_ne_empty (d : Destination) : d.nameTag ≠ "" := by
  intro empty
  have none := d.toList_nameTag
  rw [empty] at none
  simp at none

theorem image_ne_empty (d : Destination) (host organization : String) :
    d.image host organization ≠ "" := by
  intro empty
  have none := congrArg String.toList empty
  simp [image] at none

/-- **A destination that can be read from an output**: nothing of it is empty, and there is one
colon. -/
structure Named (d : Destination) : Prop where
  ns : d.ns ≠ ""
  name : d.name ≠ ""
  tag : d.tag ≠ ""
  colon : ':' ∉ d.name.toList ∧ ':' ∉ d.tag.toList

/-- **A destination that can be read back**: there is no slash in it but the one behind the
namespace. -/
structure Plain (d : Destination) : Prop where
  ns : '/' ∉ d.ns.toList
  nameTag : '/' ∉ d.nameTag.toList

instance (d : Destination) : Decidable d.Plain :=
  decidable_of_iff ('/' ∉ d.ns.toList ∧ '/' ∉ d.nameTag.toList)
    ⟨fun h => ⟨h.1, h.2⟩, fun h => ⟨h.ns, h.nameTag⟩⟩

/-- **What is read from an output.** -/
theorem ofOutput_eq_ok_iff :
    ofOutput ns nameTag = .ok d ↔ d.ns = ns ∧ d.nameTag = nameTag ∧ d.Named := by
  constructor
  · intro h
    unfold ofOutput at h
    split at h
    · rename_i name tag split
      obtain ⟨whole, hname, htag⟩ := Text.splitAt_eq_pair_iff.mp split
      split at h
      · cases h
      · rename_i filled
        simp only [not_or] at filled
        obtain rfl := Except.ok.inj h
        refine ⟨rfl, ?_, filled.1, filled.2.1, filled.2.2, hname, htag⟩
        exact String.toList_injective (by rw [toList_nameTag, whole])
    · cases h
  · rintro ⟨rfl, rfl, named⟩
    have split : Text.splitAt ':' d.nameTag = [d.name, d.tag] :=
      Text.splitAt_eq_pair_iff.mpr ⟨d.toList_nameTag, named.colon.1, named.colon.2⟩
    simp [ofOutput, split, named.ns, named.name, named.tag]

/-- **What is read as a whole.** -/
theorem parse_eq_ok_iff : parse value = .ok d ↔ d.text = value ∧ d.Named ∧ d.Plain := by
  constructor
  · intro h
    unfold parse at h
    split at h
    · rename_i ns nameTag split
      obtain ⟨whole, hns, hnameTag⟩ := Text.splitAt_eq_pair_iff.mp split
      obtain ⟨rfl, rfl, named⟩ := ofOutput_eq_ok_iff.mp h
      refine ⟨?_, named, hns, hnameTag⟩
      exact String.toList_injective (by rw [toList_text, whole])
    · cases h
  · rintro ⟨rfl, named, plain⟩
    have split : Text.splitAt '/' d.text = [d.ns, d.nameTag] :=
      Text.splitAt_eq_pair_iff.mpr ⟨d.toList_text, plain.ns, plain.nameTag⟩
    simp only [parse, split]
    exact ofOutput_eq_ok_iff.mpr ⟨rfl, rfl, named⟩

/-- **The text of a destination that was read from an output** is read back exactly when there are no
further slashes. -/
theorem parse_text_iff (h : ofOutput ns nameTag = .ok d) : parse d.text = .ok d ↔ d.Plain := by
  have named := (ofOutput_eq_ok_iff.mp h).2.2
  rw [parse_eq_ok_iff]
  exact ⟨fun h => h.2.2, fun plain => ⟨rfl, named, plain⟩⟩

/-- With further slashes the text has too many components. -/
theorem parse_text_of_slash (h : ¬ d.Plain) :
    parse d.text = .error (.components d.text (d.text.toList.count '/' + 1)) := by
  unfold parse
  split
  · rename_i ns nameTag split
    have one : (Text.splitAt '/' d.text).length = 2 := by rw [split]; rfl
    rw [Text.length_splitAt, toList_text, List.count_append, List.count_cons_self] at one
    have hns : '/' ∉ d.ns.toList := List.count_eq_zero.mp (by omega)
    have hnameTag : '/' ∉ d.nameTag.toList := List.count_eq_zero.mp (by omega)
    exact absurd ⟨hns, hnameTag⟩ h
  · rw [Text.length_splitAt]

end Destination

end RegistryBridge
