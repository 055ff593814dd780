import RegistryBridge.Domain.Name
/-!
# What stands in the plain form of a domain name

Whatever script a domain name was written in, its plain form is plain: labels that were so already have
been looked through for what would end the host, and Punycode has letters, digits and hyphens only.

## Main definitions

* `Domain.IsPlain`: a character of ASCII that does not end a host.

## Main results

* `Domain.isPlain_encode`: what Punycode is written with.
* `Domain.isPlain_of_plain?`
-/

namespace RegistryBridge

namespace Punycode

/-- What a number is written with. -/
def IsSign (n : Nat) : Prop :=
  ∃ value < 36, n = digit value

theorem isSign_digits (n place bias : Nat) : ∀ c ∈ digits n place bias, IsSign c := by
  -- A digit is below its threshold, or stands for the threshold and a remainder.
  induction n, place using digits.induct bias with
  | case1 n place t small =>
    have := threshold_le place bias
    intro c mem
    rw [digits, dif_pos small, List.mem_singleton] at mem
    exact ⟨n, by omega, mem⟩
  | case2 n place t large ih =>
    have low := one_le_threshold place bias
    have high := threshold_le place bias
    have rest := Nat.mod_lt (n - threshold place bias) (show 0 < 36 - threshold place bias by omega)
    intro c mem
    rw [digits, dif_neg large, List.mem_cons] at mem
    rcases mem with rfl | mem
    · exact ⟨_, by omega, rfl⟩
    · exact ih c mem

/-- A scan goes on with digits where it has begun with them. -/
theorem isSign_scan (c plain : Nat) (label : List Nat) (s : Scan)
    (start : ∀ n ∈ s.written, IsSign n) : ∀ n ∈ (scan c plain label s).written, IsSign n := by
  unfold scan
  induction label generalizing s with
  | nil => exact start
  | cons d label ih =>
    rw [List.foldl_cons]
    refine ih _ ?_
    split
    · exact start
    · split
      · intro n mem
        rcases List.mem_append.mp mem with before | new
        · exact start n before
        · exact isSign_digits _ _ _ n new
      · exact start

theorem isSign_scans (plain : Nat) (label : List Nat) (others : List Nat) (before : Nat) (s : Scan)
    (start : ∀ n ∈ s.written, IsSign n) :
    ∀ n ∈ (scans plain label others before s).written, IsSign n := by
  induction others generalizing before s with
  | nil => exact start
  | cons c rest ih => exact ih _ _ (isSign_scan c plain label _ start)

/-- **What Punycode is written with**: plain characters of the label, a hyphen and digits. -/
theorem mem_encode {label : List Nat} {n : Nat} (h : n ∈ encode label) :
    (n ∈ label ∧ n < 0x80) ∨ n = 0x2D ∨ IsSign n := by
  rcases List.mem_append.mp h with front | written
  · have own : n ∈ label.filter (· < 0x80) ∨ n = 0x2D := by
      split at front
      · cases front
      · simpa using front
    exact own.imp (fun mem => by simpa using mem) .inl
  · exact .inr (.inr (isSign_scans _ _ _ _ _ (by simp) n written))

end Punycode

namespace Domain

/-- **A character of ASCII that does not end a host.** -/
def IsPlain (n : Nat) : Prop :=
  n < 0x80 ∧ endsHost n = false

instance (n : Nat) : Decidable (IsPlain n) :=
  inferInstanceAs (Decidable (_ ∧ _))

theorem isPlain_of_isSign {n : Nat} (h : Punycode.IsSign n) : IsPlain n := by
  have all : ∀ value < 36, IsPlain (Punycode.digit value) := by decide +kernel
  obtain ⟨value, small, rfl⟩ := h
  exact all value small

theorem isPlain_of_plainLabel? {label plain : List Nat} (read : plainLabel? label = some plain)
    (free : ∀ n ∈ label, endsHost n = false) : ∀ n ∈ plain, IsPlain n := by
  unfold plainLabel? at read
  split at read
  · rename_i ascii
    obtain rfl := Option.some.inj read
    exact fun n mem => ⟨by simpa using List.all_eq_true.mp ascii n mem, free n mem⟩
  · split at read
    · obtain rfl := Option.some.inj read
      intro n mem
      rcases List.mem_append.mp mem with marked | written
      · have marks : ∀ n ∈ mark, IsPlain n := by decide +kernel
        exact marks n marked
      · rcases Punycode.mem_encode written with ⟨own, ascii⟩ | rfl | sign
        · exact ⟨ascii, free n own⟩
        · decide +kernel
        · exact isPlain_of_isSign sign
    · cases read

theorem mem_joined {labels : List (List Nat)} {n : Nat} (h : n ∈ joined labels) :
    n = 0x2E ∨ ∃ label ∈ labels, n ∈ label := by
  induction labels using joined.induct with
  | case1 => cases h
  | case2 label => exact .inr ⟨label, by simp, h⟩
  | case3 label rest more ih =>
    rw [joined] at h
    · rcases List.mem_append.mp h with here | later
      · exact .inr ⟨label, by simp, here⟩
      · rcases List.mem_cons.mp later with dot | later
        · exact .inl dot
        · refine (ih later).imp_right ?_
          rintro ⟨label, mem, inside⟩
          exact ⟨label, List.mem_cons_of_mem _ mem, inside⟩
    · exact more

/-- What all of a list have been read to has been read from one of them. -/
theorem exists_of_mem_mapM {α β : Type} {read : α → Option β} {items : List α} {values : List β}
    (h : items.mapM read = some values) {value : β} (mem : value ∈ values) :
    ∃ item ∈ items, read item = some value := by
  induction items generalizing values with
  | nil =>
    obtain rfl := Option.some.inj h
    cases mem
  | cons item items ih =>
    rw [List.mapM_cons] at h
    obtain ⟨first, here, h⟩ := Option.bind_eq_some_iff.mp h
    obtain ⟨others, later, h⟩ := Option.bind_eq_some_iff.mp h
    obtain rfl := Option.some.inj h
    rcases List.mem_cons.mp mem with rfl | mem
    · exact ⟨item, List.mem_cons_self .., here⟩
    · obtain ⟨item, inside, same⟩ := ih later mem
      exact ⟨item, List.mem_cons_of_mem _ inside, same⟩

/-- **The plain form of a name is plain.** -/
theorem isPlain_of_plain? {name plain : List Nat} (h : plain? name = some plain) :
    ∀ n ∈ plain, IsPlain n := by
  obtain ⟨prepared, -, h⟩ := Option.bind_eq_some_iff.mp h
  obtain ⟨own, -, h⟩ := Option.bind_eq_some_iff.mp h
  split at h
  · cases h
  · rename_i free
    split at h
    · cases h
    · obtain ⟨labels, written, h⟩ := Option.bind_eq_some_iff.mp h
      obtain rfl := Option.some.inj h
      intro n mem
      rcases mem_joined mem with rfl | ⟨label, inside, mem⟩
      · decide +kernel
      · obtain ⟨source, there, read⟩ := exists_of_mem_mapM written inside
        refine isPlain_of_plainLabel? read (fun n mem => ?_) n mem
        have clean := List.any_eq_false.mp (Bool.not_eq_true _ ▸ free) source there
        simpa using List.any_eq_false.mp (Bool.not_eq_true _ ▸ clean) n mem

end Domain

end RegistryBridge
