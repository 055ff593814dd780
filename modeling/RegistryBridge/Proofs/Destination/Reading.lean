import Mathlib.Data.List.Basic
import RegistryBridge.Proofs.Destination.Grammar
/-!
# Which texts are destinations

A text is a destination in one way at most: the namespace ends at its only slash, the name at the
only colon behind that. Where it is none, the error counts the pieces of the split that went wrong,
first of the whole and then of what follows the slash.

## Main definitions

* `Destination.Regular`: a destination whose parts hold no separator and are not empty.

## Main results

* `Destination.parse_grammar`: what is read of a text, whatever the text.
-/

namespace RegistryBridge.Destination

variable {ns nameTag value : String} {d : Destination} {e : DestinationError}

/-- **A destination as a text can give it**: three parts of which none is empty, with no slash in
them, and no colon in the name and the tag. -/
structure Regular (d : Destination) : Prop where
  ns : d.ns ≠ "" ∧ '/' ∉ d.ns.toList
  name : d.name ≠ "" ∧ '/' ∉ d.name.toList ∧ ':' ∉ d.name.toList
  tag : d.tag ≠ "" ∧ '/' ∉ d.tag.toList ∧ ':' ∉ d.tag.toList

theorem regular_iff : d.Regular ↔ d.Named ∧ d.Plain := by
  constructor
  · intro regular
    refine ⟨⟨regular.ns.1, regular.name.1, regular.tag.1, regular.name.2.2, regular.tag.2.2⟩,
      regular.ns.2, ?_⟩
    -- The colon between the name and the tag is no slash.
    rw [toList_nameTag]
    simp [regular.name.2.1, regular.tag.2.1]
  · rintro ⟨named, plain⟩
    obtain ⟨name, tag⟩ : '/' ∉ d.name.toList ∧ '/' ∉ d.tag.toList := by
      have free := plain.nameTag
      rw [toList_nameTag] at free
      simpa using free
    exact ⟨⟨named.ns, plain.ns⟩, ⟨named.name, name, named.colon.1⟩,
      ⟨named.tag, tag, named.colon.2⟩⟩

theorem text_eq (d : Destination) : d.text = d.ns ++ "/" ++ d.name ++ ":" ++ d.tag := by
  simp only [text, nameTag, String.append_assoc]

/-- What is refused as a name and tag is refused with the number of its pieces, even where that is
right and a part is empty. -/
theorem eq_of_ofOutput_eq_error (h : ofOutput ns nameTag = .error e) :
    e = .nameTag nameTag (nameTag.toList.count ':' + 1) := by
  rw [← Text.length_splitAt]
  unfold ofOutput at h
  split at h
  · rename_i name tag split
    split at h
    · rw [split]
      exact (Except.error.inj h).symm
    · cases h
  · exact (Except.error.inj h).symm

/-- What is refused as a whole is refused for its slashes, or for what follows the only one. -/
theorem eq_of_parse_eq_error (h : parse value = .error e) :
    (value.toList.count '/' + 1 ≠ 2 → e = .components value (value.toList.count '/' + 1)) ∧
      (value.toList.count '/' + 1 = 2 → ∃ ns nameTag, value = ns ++ "/" ++ nameTag ∧
        e = .nameTag nameTag (nameTag.toList.count ':' + 1)) := by
  rw [← Text.length_splitAt]
  unfold parse at h
  split at h
  · rename_i ns nameTag split
    obtain ⟨whole, -, -⟩ := Text.splitAt_eq_pair_iff.mp split
    refine ⟨fun several => ?_, fun _ => ⟨ns, nameTag, ?_, eq_of_ofOutput_eq_error h⟩⟩
    · rw [split] at several
      exact absurd rfl several
    · apply String.toList_injective
      simp [whole]
  · rename_i other
    refine ⟨fun _ => (Except.error.inj h).symm, fun two => ?_⟩
    obtain ⟨ns, nameTag, split⟩ := List.length_eq_two.mp two
    exact absurd split (other ns nameTag)

/-- **What is read of a text.** A destination is read exactly where the text is put together from a
namespace, a name and a tag that are regular. There is one such destination at most, its text is the
text that was read, and any regular destination is read back from its text. Where none is read, the
error has the number of pieces between the slashes if that is not two, and otherwise what follows the
slash, with the number of its pieces between colons. -/
theorem parse_grammar (value : String) :
    (∀ d, parse value = .ok d ↔
        d.Regular ∧ value = d.ns ++ "/" ++ d.name ++ ":" ++ d.tag) ∧
      (∀ d d' : Destination, d.Regular → d'.Regular →
        value = d.ns ++ "/" ++ d.name ++ ":" ++ d.tag →
          value = d'.ns ++ "/" ++ d'.name ++ ":" ++ d'.tag → d = d') ∧
      (∀ d, parse value = .ok d → d.text = value) ∧
      (∀ d : Destination, d.Regular → parse d.text = .ok d) ∧
      ∀ e, parse value = .error e →
        (value.toList.count '/' + 1 ≠ 2 → e = .components value (value.toList.count '/' + 1)) ∧
          (value.toList.count '/' + 1 = 2 → ∃ ns nameTag, value = ns ++ "/" ++ nameTag ∧
            e = .nameTag nameTag (nameTag.toList.count ':' + 1)) := by
  have accepted : ∀ d, parse value = .ok d ↔
      d.Regular ∧ value = d.ns ++ "/" ++ d.name ++ ":" ++ d.tag := by
    intro d
    rw [parse_eq_ok_iff, ← regular_iff, text_eq, and_comm, eq_comm]
  refine ⟨accepted, ?_, ?_, ?_, fun _ => eq_of_parse_eq_error⟩
  · -- A text is read in one way, so it is put together in one way.
    intro d d' regular regular' written written'
    have read := (accepted d).mpr ⟨regular, written⟩
    have read' := (accepted d').mpr ⟨regular', written'⟩
    exact Except.ok.inj (read.symm.trans read')
  · intro d read
    exact (parse_eq_ok_iff.mp read).1
  · intro d regular
    exact parse_eq_ok_iff.mpr ⟨rfl, regular_iff.mp regular⟩

/-- A destination that is read back, and what is wrong with a text that has no namespace. -/
theorem cart_parsed :
    parse "shop/cart:latest" = .ok ⟨"shop", "cart", "latest"⟩ ∧
      ∀ e, parse "cart:latest" = .error e → e = .components "cart:latest" 1 := by
  have regular : Regular ⟨"shop", "cart", "latest"⟩ := ⟨by decide, by decide, by decide⟩
  constructor
  · exact ((parse_grammar "shop/cart:latest").1 _).mpr ⟨regular, by decide⟩
  · intro e refused
    exact ((parse_grammar "cart:latest").2.2.2.2 e refused).1 (by decide)

end RegistryBridge.Destination
