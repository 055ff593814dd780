import RegistryBridge.Url.Percent
/-!
# What percent-encoded text is made of

In encoded text stands what did not have to be encoded, and the percent signs and digits of what had
to be. So an encoded part of an address is clear of what would end the part.

## Main definitions

* `Percent.Clear`: a text in which nothing has to be encoded.
* `Percent.isGraphic`: the characters of ASCII that leave a mark on paper.

## Main results

* `Percent.mem_encode`, `Percent.clear_encode`: what stands in encoded text.
* `Percent.encode_of_clear`: a text that is clear is its own encoding.
-/

namespace RegistryBridge.Percent

variable {set other : Char → Bool} {c : Char} {cs : List Char}

/-- **A text in which nothing of a set stands**, so that nothing has to be encoded. -/
def Clear (set : Char → Bool) (s : String) : Prop :=
  ∀ c ∈ s.toList, set c = false

/-- The characters of ASCII but for controls and the blank. -/
def isGraphic (c : Char) : Bool :=
  0x20 < c.toNat && c.toNat < 0x7F

/-- The characters that encoded bytes are written with. -/
def signs : List Char := '%' :: "0123456789ABCDEF".toList

/-- What can be decided character by character. -/
theorem forall_mem_of_all {p : Char → Prop} [DecidablePred p]
    (h : (cs.all fun c => decide (p c)) = true) : ∀ c ∈ cs, p c :=
  fun c mem => of_decide_eq_true (List.all_eq_true.mp h c mem)

theorem mem_signs_of_mem_byte {b : UInt8} (h : c ∈ byte b) : c ∈ signs := by
  have digits : ∀ n < 16, digit n ∈ signs := by decide
  have small : b.toNat < 256 := b.toNat_lt
  simp only [byte, List.mem_cons, List.not_mem_nil, or_false] at h
  rcases h with rfl | rfl | rfl
  · decide
  · exact digits _ (by omega)
  · exact digits _ (by omega)

/-- **What stands in encoded text**: what did not have to be encoded, and signs of encoded bytes. -/
theorem mem_encode (h : c ∈ encode set cs) : (c ∈ cs ∧ set c = false) ∨ c ∈ signs := by
  obtain ⟨source, mem, written⟩ := List.mem_flatMap.mp h
  split at written
  · obtain ⟨b, -, inside⟩ := List.mem_flatMap.mp written
    exact .inr (mem_signs_of_mem_byte inside)
  · rename_i kept
    obtain rfl := List.mem_singleton.mp written
    exact .inl ⟨mem, by simpa using kept⟩

/-- **Encoded text is clear** of all that was encoded, and of what the signs of bytes are not in. -/
theorem clear_encode (covers : ∀ c, set c = false → other c = false)
    (free : ∀ c ∈ signs, other c = false) (cs : List Char) :
    Clear other (String.ofList (encode set cs)) := by
  intro c mem
  rw [String.toList_ofList] at mem
  exact (mem_encode mem).elim (fun h => covers c h.2) (free c)

/-- **What is clear is its own encoding.** -/
theorem encode_of_clear (h : ∀ c ∈ cs, set c = false) : encode set cs = cs := by
  induction cs with
  | nil => rfl
  | cons c rest ih =>
    have here : set c = false := h c (List.mem_cons_self ..)
    have later := ih fun c mem => h c (List.mem_cons_of_mem _ mem)
    rw [encode, List.flatMap_cons, ← encode, later, here]
    rfl

theorem clear_empty (set : Char → Bool) : Clear set "" := by
  simp [Clear]

/-! ## The sets of the parts -/

theorem fragment_eq_false_of_path (h : path c = false) : fragment c = false :=
  (Bool.or_eq_false_iff.mp h).1

theorem path_eq_false_of_userInfo (h : userInfo c = false) : path c = false :=
  (Bool.or_eq_false_iff.mp h).1

theorem path_eq_false_of_segment (h : segment c = false) : path c = false :=
  (Bool.or_eq_false_iff.mp h).1

theorem segment_eq_false_of_specialSegment (h : specialSegment c = false) : segment c = false :=
  (Bool.or_eq_false_iff.mp h).1

theorem query_eq_false_of_specialQuery (h : specialQuery c = false) : query c = false :=
  (Bool.or_eq_false_iff.mp h).1

/-- What is neither a control nor outside ASCII nor the blank is graphic. -/
theorem isGraphic_of_always (h : always c = false) (dark : c ≠ ' ') : isGraphic c = true := by
  have blank : c.toNat ≠ 0x20 := fun same =>
    dark (by rw [← Char.ofNat_toNat c, same])
  simp only [always, Bool.or_eq_false_iff, decide_eq_false_iff_not] at h
  simp only [isGraphic, Bool.and_eq_true, decide_eq_true_eq]
  omega

/-- Whatever part a character stands in, it is graphic. -/
theorem isGraphic_of_fragment (h : fragment c = false) : isGraphic c = true := by
  obtain ⟨plain, rest⟩ := Bool.or_eq_false_iff.mp h
  refine isGraphic_of_always plain ?_
  rintro rfl
  cases rest

theorem isGraphic_of_query (h : query c = false) : isGraphic c = true := by
  obtain ⟨plain, rest⟩ := Bool.or_eq_false_iff.mp h
  refine isGraphic_of_always plain ?_
  rintro rfl
  cases rest

end RegistryBridge.Percent
