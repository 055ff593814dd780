import RegistryBridge.Text.Base64
/-!
# Text as bytes, and bytes as letters

Bytes are the encoding of one text at most, and they are read as that text. In Base64 each letter
stands for six bits, and no letter looks like the padding. So the letters of bytes say how many bytes
there are and what they are.

## Main results

* `Text.fromUTF8?_eq_some_iff`: the text that bytes are read as.
* `Base64.decode?_encode`: bytes are read back from Base64.
-/

namespace RegistryBridge

namespace Text

variable {bytes : ByteArray} {s : String}

/-- **Bytes are read as the text whose encoding they are.** -/
theorem fromUTF8?_eq_some_iff : String.fromUTF8? bytes = some s ↔ bytes = s.toUTF8 := by
  unfold String.fromUTF8?
  split
  · rw [Option.some.injEq, ← String.toByteArray_inj]
    exact Iff.rfl
  · rename_i invalid
    refine iff_of_false nofun ?_
    rintro rfl
    exact invalid s.isValidUTF8

theorem fromUTF8?_toUTF8 (s : String) : String.fromUTF8? s.toUTF8 = some s :=
  fromUTF8?_eq_some_iff.mpr rfl

theorem fromUTF8?_eq_none_iff :
    String.fromUTF8? bytes = none ↔ ¬ ∃ s : String, bytes = s.toUTF8 := by
  simp [Option.eq_none_iff_forall_ne_some, fromUTF8?_eq_some_iff]

end Text

namespace Base64

theorem value?_letter : ∀ n < 64, value? (letter n) = some n := by
  decide

theorem letter_ne_pad : ∀ n < 64, letter n ≠ '=' := by
  decide

/-- **Bytes are read back from their letters**, three by three. -/
theorem bytes?_letters (bytes : List UInt8) : bytes? (letters bytes) = some bytes := by
  have byte : ∀ {a : UInt8} {n : Nat}, n = a.toNat → UInt8.ofNat n = a := by
    intro a n same
    rw [same, UInt8.ofNat_toNat]
  fun_induction letters bytes with
  | case1 => rfl
  | case2 a =>
    have := a.toNat_lt
    have front := value?_letter (a.toNat / 4) (by omega)
    have back := value?_letter (a.toNat % 4 * 16) (by omega)
    simp only [bytes?, front, back, bind, Option.bind]
    rw [if_pos (by omega), byte (a := a) (by omega)]
  | case3 a b =>
    have := a.toNat_lt
    have := b.toNat_lt
    have front := value?_letter (a.toNat / 4) (by omega)
    have middle := value?_letter (a.toNat % 4 * 16 + b.toNat / 16) (by omega)
    have back := value?_letter (b.toNat % 16 * 4) (by omega)
    have other := letter_ne_pad (b.toNat % 16 * 4) (by omega)
    rw [bytes?]
    · simp only [front, middle, back, bind, Option.bind]
      rw [if_pos (by omega), byte (a := a) (by omega), byte (a := b) (by omega)]
    -- The third letter is not padding, so this is not a single byte.
    · exact other
  | case4 a b c rest ih =>
    have := a.toNat_lt
    have := b.toNat_lt
    have := c.toNat_lt
    have first := value?_letter (a.toNat / 4) (by omega)
    have second := value?_letter (a.toNat % 4 * 16 + b.toNat / 16) (by omega)
    have third := value?_letter (b.toNat % 16 * 4 + c.toNat / 64) (by omega)
    have fourth := value?_letter (c.toNat % 64) (by omega)
    have other := letter_ne_pad (c.toNat % 64) (by omega)
    rw [bytes?]
    · simp only [first, second, third, fourth, ih, bind, Option.bind]
      rw [byte (a := a) (by omega), byte (a := b) (by omega), byte (a := c) (by omega)]
    -- The last letter is not padding, so this is not the end.
    · exact fun _ padding _ => other padding
    · exact fun padding _ => other padding

/-- **Bytes are read back from their text.** -/
theorem decode?_encode (bytes : ByteArray) : decode? (encode bytes) = some bytes := by
  rw [decode?, encode, String.toList_ofList, bytes?_letters]
  simp

end Base64

end RegistryBridge
