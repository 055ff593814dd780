import RegistryBridge.Proofs.Domain.Plain
import RegistryBridge.Proofs.Text.Pieces
import RegistryBridge.Proofs.Url.Percent
import RegistryBridge.Url.Host
/-!
# How hosts are spelled

A host that has been read is never empty, and its text has graphic characters only, none of which ends
a host. Colons stand in brackets.

## Main definitions

* `Host.Spelled`: a host as it comes out of a reading.

## Main results

* `Host.spelled_of_parse`, `Host.spelled_of_parseFree`: hosts that are read are spelled so.
* `Host.Spelled.text_ne_empty`, `Host.Spelled.inText`
-/

namespace RegistryBridge.Host

variable {host : Host} {cs : List Char} {c : Char} {n : Nat}

/-- What a name is spelled with. -/
def inName (c : Char) : Bool :=
  !isDelimiter c && !Percent.always c

/-- What any host is spelled with. -/
def inText (c : Char) : Bool :=
  inName c || ['[', ']', ':'].contains c

/-- **A host as it comes out of a reading**: a name is not empty and has no delimiter. -/
inductive Spelled : Host → Prop
  | name {s : String} (filled : s ≠ "") (plain : ∀ c ∈ s.toList, inName c = true) :
    Spelled (.name s)
  | ipv4 (value : Nat) : Spelled (.ipv4 value)
  | ipv6 (pieces : List Nat) : Spelled (.ipv6 pieces)

/-! ## Hosts that are read -/

theorem inName_ofNat (h : Domain.IsPlain n) : inName (Char.ofNat n) = true := by
  have all : ∀ n < 0x80, Domain.endsHost n = false → inName (Char.ofNat n) = true := by
    decide +kernel
  exact all n h.1 h.2

theorem inName_of_mem_signs : ∀ c ∈ Percent.signs, inName c = true :=
  Percent.forall_mem_of_all (by decide)

theorem spelled_of_bracketed (h : bracketed cs = .ok host) : host.Spelled := by
  unfold bracketed at h
  split at h
  · split at h
    · obtain rfl := Except.ok.inj h
      exact .ipv6 _
    · cases h
  · cases h

/-- **The host of a scheme of the web** is spelled as hosts are. -/
theorem spelled_of_parse (h : parse cs = .ok host) : host.Spelled := by
  -- Three readings give a host: brackets, a number and a name.
  unfold parse at h
  split at h
  · exact spelled_of_bracketed h
  · split at h
    · cases h
    · split at h
      · cases h
      · rename_i plain read
        dsimp only at h
        split at h
        · cases h
        · rename_i filled
          split at h
          · split at h
            · obtain rfl := Except.ok.inj h
              exact .ipv4 _
            · cases h
          · obtain rfl := Except.ok.inj h
            refine .name (fun empty => filled ?_) fun c mem => ?_
            · have none := congrArg String.toList empty
              simpa using none
            · rw [String.toList_ofList] at mem
              obtain ⟨n, inside, rfl⟩ := List.mem_map.mp mem
              exact inName_ofNat (Domain.isPlain_of_plain? read n inside)

theorem encode_ne_nil {set : Char → Bool} (h : cs ≠ []) : Percent.encode set cs ≠ [] := by
  obtain ⟨c, rest, rfl⟩ := List.exists_cons_of_ne_nil h
  rw [Percent.encode, List.flatMap_cons]
  split
  · obtain ⟨b, bytes, same⟩ := List.exists_cons_of_ne_nil (String.utf8EncodeChar_ne_nil (c := c))
    rw [same]
    simp [Percent.byte]
  · simp

/-- **The host of any other scheme** is spelled so as well, if there is one. -/
theorem spelled_of_parseFree (h : parseFree cs = .ok (some host)) : host.Spelled := by
  unfold parseFree at h
  split at h
  · cases read : bracketed cs with
    | error e => simp [read, Except.map] at h
    | ok bracketed =>
      rw [read] at h
      obtain rfl := Option.some.inj (Except.ok.inj h)
      exact spelled_of_bracketed read
  · split at h
    · cases h
    · rename_i free
      split at h
      · cases h
      · rename_i filled
        obtain rfl := Option.some.inj (Except.ok.inj h)
        refine .name (fun empty => ?_) fun c mem => ?_
        · have none := congrArg String.toList empty
          exact encode_ne_nil (by simpa using filled) (by simpa using none)
        · rw [String.toList_ofList] at mem
          rcases Percent.mem_encode mem with ⟨own, plain⟩ | sign
          · have undivided := List.any_eq_false.mp (Bool.not_eq_true _ ▸ free) c own
            simp [inName, plain, undivided]
          · exact inName_of_mem_signs c sign

/-! ## Their texts -/

theorem mem_toDigits {base : Nat} (low : 1 < base) (high : base ≤ 16) (h : c ∈ Nat.toDigits base n) :
    ∃ d < 16, c = Nat.digitChar d := by
  -- The induction is on the number without its last digit.
  induction n using Nat.strongRecOn with
  | _ n ih =>
    rw [Nat.toDigits_eq_if low] at h
    split at h
    · exact ⟨n, by omega, List.mem_singleton.mp h⟩
    · rcases List.mem_append.mp h with front | last
      · exact ih (n / base) (Nat.div_lt_self (by omega) low) front
      · have := Nat.mod_lt n (show 0 < base by omega)
        exact ⟨n % base, by omega, List.mem_singleton.mp last⟩

theorem inName_of_mem_toDigits {base : Nat} (low : 1 < base) (high : base ≤ 16)
    (h : c ∈ Nat.toDigits base n) : inName c = true := by
  have all : ∀ d < 16, inName (Nat.digitChar d) = true := by decide
  obtain ⟨d, small, rfl⟩ := mem_toDigits low high h
  exact all d small

/-- An address of version 4 is spelled as a name is. -/
theorem inName_ipv4 (h : c ∈ (Host.ipv4 n).text.toList) : inName c = true := by
  rcases Text.mem_join h with dot | ⟨part, mem, inside⟩
  · obtain rfl : c = '.' := by simpa using dot
    decide
  · obtain ⟨value, -, rfl⟩ := List.mem_map.mp mem
    rw [Nat.toString_eq_ofList_toDigits, String.toList_ofList] at inside
    exact inName_of_mem_toDigits (by decide) (by decide) inside

/-- Between its brackets an address of version 6 has colons and what names are spelled with. -/
theorem inName_groupsText {pieces : List Nat} (h : c ∈ (groupsText pieces).toList) :
    inName c = true ∨ c = ':' := by
  rcases Text.mem_join h with colon | ⟨part, mem, inside⟩
  · exact .inr (by simpa using colon)
  · obtain ⟨value, -, rfl⟩ := List.mem_map.mp mem
    rw [Text.hexText, String.toList_ofList] at inside
    exact .inl (inName_of_mem_toDigits (by decide) (by decide) inside)

theorem inName_ipv6Text {pieces : List Nat} (h : c ∈ (ipv6Text pieces).toList) :
    inName c = true ∨ c = ':' := by
  unfold ipv6Text at h
  dsimp only at h
  split at h
  · rw [String.toList_append, String.toList_append] at h
    rcases List.mem_append.mp h with front | back
    · rcases List.mem_append.mp front with front | colons
      · exact inName_groupsText front
      · exact .inr (by simpa using colons)
    · exact inName_groupsText back
  · exact inName_groupsText h

theorem toList_ipv6 (pieces : List Nat) :
    (Host.ipv6 pieces).text.toList = '[' :: (ipv6Text pieces).toList ++ [']'] := by
  simp [text]

/-- **A host that was read is never empty.** -/
theorem Spelled.text_ne_empty (h : host.Spelled) : host.text ≠ "" := by
  cases h with
  | name filled => exact filled
  | ipv4 value =>
    intro empty
    have none := congrArg String.toList empty
    simp [text, Text.join] at none
  | ipv6 pieces =>
    intro empty
    have none := congrArg String.toList empty
    simp [toList_ipv6] at none

/-- **What any host is spelled with.** -/
theorem Spelled.inText (h : host.Spelled) : ∀ c ∈ host.text.toList, inText c = true := by
  intro c mem
  cases h with
  | name _ plain => simp [Host.inText, plain c mem]
  | ipv4 value => simp [Host.inText, inName_ipv4 mem]
  | ipv6 pieces =>
    rw [toList_ipv6] at mem
    simp only [List.cons_append, List.mem_cons, List.mem_append, List.not_mem_nil, or_false] at mem
    rcases mem with rfl | inside | rfl
    · decide
    · rcases inName_ipv6Text inside with plain | rfl
      · simp [Host.inText, plain]
      · decide
    · decide

/-- What a host is spelled with is graphic. -/
theorem isGraphic_of_inText (h : Host.inText c = true) : Percent.isGraphic c = true := by
  rcases Bool.or_eq_true_iff.mp h with name | mark
  · simp only [inName, Bool.and_eq_true, Bool.not_eq_true'] at name
    refine Percent.isGraphic_of_always name.2 ?_
    rintro rfl
    cases name.1
  · simp only [List.contains_iff_mem, List.mem_cons, List.not_mem_nil, or_false] at mark
    rcases mark with rfl | rfl | rfl <;> decide

end RegistryBridge.Host
