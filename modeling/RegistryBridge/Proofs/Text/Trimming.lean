import Mathlib.Data.List.TakeWhile
import RegistryBridge.Text.WhiteSpace
/-!
# What is left of a text without the white space at its ends

A text divides into white space, a part that neither begins nor ends with any, and white space again.
The part in the middle is what trimming leaves: every other part of the text that neither begins nor
ends with white space lies within it.

## Main definitions

* `Text.Blank`: nothing but white space.
* `Text.Trimmed`: no white space at either end.
* `Text.Longest`: the longest part of a text that is trimmed.

## Main results

* `Text.trim_eq_of_append`: the text that is left, however it is padded.
* `Text.infix_trim`: the text that is left holds all others without white space at their ends.
* `Text.trim_eq_empty_iff`: when nothing is left.
* `Text.longest_trim`, `Text.trim_padded`
-/

namespace RegistryBridge.Text

variable {cs front back rest core part before behind : List Char} {s : String}

/-- **Nothing but white space.** -/
def Blank (cs : List Char) : Prop :=
  ∀ c ∈ cs, isWhiteSpace c = true

instance (cs : List Char) : Decidable (Blank cs) :=
  List.decidableBAll (fun c => isWhiteSpace c = true) cs

/-- No white space in front. -/
def Started (cs : List Char) : Prop :=
  ∀ c, cs.head? = some c → isWhiteSpace c = false

/-- **No white space at either end.** -/
def Trimmed (cs : List Char) : Prop :=
  Started cs ∧ Started cs.reverse

theorem Blank.append (h : Blank front) (h' : Blank back) : Blank (front ++ back) := fun c mem =>
  (List.mem_append.mp mem).elim (h c) (h' c)

theorem Blank.reverse (h : Blank cs) : Blank cs.reverse := fun c mem =>
  h c (List.mem_reverse.mp mem)

/-! ## One end -/

/-- White space in front makes no difference. -/
theorem trimFront_append (blank : Blank front) (rest : List Char) :
    trimFront (front ++ rest) = trimFront rest :=
  List.dropWhile_append_of_pos blank

theorem trimFront_of_started (h : Started cs) : trimFront cs = cs := by
  cases cs with
  | nil => rfl
  | cons c rest => exact List.dropWhile_cons_of_neg (by simp [h c rfl])

theorem started_trimFront (cs : List Char) : Started (trimFront cs) := by
  intro c first
  have none := List.head?_dropWhile_not isWhiteSpace cs
  rw [trimFront] at first
  rw [first] at none
  exact none

/-- What is trimmed in front is white space. -/
theorem exists_blank_trimFront (cs : List Char) :
    ∃ front, Blank front ∧ cs = front ++ trimFront cs :=
  ⟨cs.takeWhile isWhiteSpace, fun _ mem => List.mem_takeWhile_imp mem,
    List.takeWhile_append_dropWhile.symm⟩

/-- **A part with no white space in front** lies behind the white space in front of the text. -/
theorem exists_behind_blank (blank : Blank front) (started : Started part) (some : part ≠ [])
    (same : front ++ rest = before ++ (part ++ behind)) :
    ∃ more, rest = more ++ (part ++ behind) := by
  rcases List.append_eq_append_iff.mp same with ⟨more, -, tail⟩ | ⟨more, within, tail⟩
  · exact ⟨more, tail⟩
  · cases more with
    | nil => exact ⟨[], tail.symm⟩
    | cons c more =>
      -- The part would begin with white space of the front.
      obtain ⟨first, others, rfl⟩ := List.exists_cons_of_ne_nil some
      obtain rfl := (List.cons.inj tail).1
      have white : isWhiteSpace first = true := blank first (by simp [within])
      rw [started first rfl] at white
      cases white

/-! ## Both ends -/

/-- **A text divides** into white space, a part without any at its ends, and white space. -/
theorem exists_trimmed (cs : List Char) :
    ∃ front core back, cs = front ++ (core ++ back) ∧ Blank front ∧ Blank back ∧ Trimmed core := by
  obtain ⟨front, blank, divided⟩ := exists_blank_trimFront cs
  have started := started_trimFront cs
  generalize trimFront cs = rest at divided started
  obtain ⟨back, blank', behind⟩ := exists_blank_trimFront rest.reverse
  have ended := started_trimFront rest.reverse
  generalize trimFront rest.reverse = core at behind ended
  have whole : rest = core.reverse ++ back.reverse := by
    rw [← List.reverse_append, ← behind, List.reverse_reverse]
  refine ⟨front, core.reverse, back.reverse, by rw [divided, whole], blank, blank'.reverse, ?_, ?_⟩
  · intro c first
    refine started c ?_
    rw [whole, List.head?_append, first]
    rfl
  · rwa [List.reverse_reverse]

/-- **What is left of a text** is the part in the middle. -/
theorem trim_eq_of_append (blank : Blank front) (blank' : Blank back) (trimmed : Trimmed core)
    (divided : s.toList = front ++ (core ++ back)) : (trim s).toList = core := by
  rw [trim, String.toList_ofList, divided, trimFront_append blank]
  cases core with
  | nil =>
    have nothing : trimFront back = [] := by
      rw [← List.append_nil back, trimFront_append blank']
      rfl
    rw [List.nil_append, nothing]
    rfl
  | cons first others =>
    have started : Started (first :: others ++ back) := fun c here => trimmed.1 c here
    rw [trimFront_of_started started, trimBack, List.reverse_append,
      trimFront_append blank'.reverse, trimFront_of_started trimmed.2, List.reverse_reverse]

/-- What stands before and behind what is left. -/
theorem exists_blank_trim (s : String) :
    ∃ front back, s.toList = front ++ ((trim s).toList ++ back) ∧ Blank front ∧ Blank back := by
  obtain ⟨front, core, back, divided, blank, blank', trimmed⟩ := exists_trimmed s.toList
  have left := trim_eq_of_append blank blank' trimmed divided
  exact ⟨front, back, by rw [left, divided], blank, blank'⟩

theorem trimmed_trim (s : String) : Trimmed (trim s).toList := by
  obtain ⟨front, core, back, divided, blank, blank', trimmed⟩ := exists_trimmed s.toList
  rwa [trim_eq_of_append blank blank' trimmed divided]

/-- What is left is a part of the text. -/
theorem trim_infix (s : String) : (trim s).toList <:+: s.toList := by
  obtain ⟨front, back, divided, -, -⟩ := exists_blank_trim s
  exact ⟨front, back, by rw [divided, List.append_assoc]⟩

/-- **Any other part** of the text with no white space at its ends lies within what is left. -/
theorem infix_trim (h : part <:+: s.toList) (trimmed : Trimmed part) :
    part <:+: (trim s).toList := by
  obtain ⟨front, back, divided, blank, blank'⟩ := exists_blank_trim s
  obtain ⟨before, behind, whole⟩ := h
  by_cases nothing : part = []
  · rw [nothing]
    exact List.nil_infix
  have ends : part.reverse ≠ [] := by simpa using nothing
  rw [divided, List.append_assoc] at whole
  obtain ⟨more, tail⟩ := exists_behind_blank blank trimmed.1 nothing whole.symm
  -- Read from its end, the same of what follows the front.
  have turned : back.reverse ++ (trim s).toList.reverse =
      behind.reverse ++ (part.reverse ++ more.reverse) := by
    rw [← List.reverse_append, tail]
    simp
  obtain ⟨rest, core⟩ := exists_behind_blank blank'.reverse trimmed.2 ends turned
  refine ⟨more, rest.reverse, ?_⟩
  rw [← List.reverse_inj, core]
  simp

/-- **Nothing is left** of white space only. -/
theorem trim_eq_empty_iff : trim s = "" ↔ Blank s.toList := by
  constructor
  · intro nothing
    obtain ⟨front, back, divided, blank, blank'⟩ := exists_blank_trim s
    rw [divided, nothing]
    exact blank.append blank'
  · intro blank
    have nothing : Blank [] := nofun
    refine String.toList_injective (trim_eq_of_append blank nothing ⟨nofun, nofun⟩ ?_)
    simp

/-- **The longest part of a text without white space at its ends**: any other one is shorter. -/
structure Longest (s core : String) : Prop where
  part : core.toList <:+: s.toList
  trimmed : Trimmed core.toList
  longest : ∀ other : String, other.toList <:+: s.toList → Trimmed other.toList →
    other ≠ core → other.length < core.length

/-- **Trimming leaves the longest part.** -/
theorem longest_trim (s : String) : Longest s (trim s) where
  part := trim_infix s
  trimmed := trimmed_trim s
  longest other part trimmed apart := by
    have within := infix_trim part trimmed
    rw [← String.length_toList, ← String.length_toList]
    refine lt_of_le_of_ne within.length_le fun same => apart ?_
    exact String.toList_injective (within.eq_of_length same)

/-- **Padding makes no difference.** -/
theorem trim_padded {front back : String} (blank : Blank front.toList) (blank' : Blank back.toList)
    (s : String) : trim (front ++ s ++ back) = trim s := by
  obtain ⟨before, behind, divided, own, own'⟩ := exists_blank_trim s
  refine String.toList_injective ?_
  refine trim_eq_of_append (blank.append own) (own'.append blank') (trimmed_trim s) ?_
  simp [divided]

/-- What is left is left of itself. -/
theorem trim_trim (s : String) : trim (trim s) = trim s := by
  refine String.toList_injective ?_
  have nothing : Blank [] := nofun
  refine trim_eq_of_append nothing nothing (trimmed_trim s) ?_
  simp

end RegistryBridge.Text
