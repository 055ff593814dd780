import RegistryBridge.Text.Pieces
/-!
# Texts by their pieces

A text is split at every separator. The pieces have none left in them, and texts that were put
together with separators fall apart into what they were put together from.

## Main results

* `Text.pieces_eq_pair_iff`, `Text.splitAt_eq_pair_iff`: the texts of two pieces.
* `Text.pieces_flatMap_cons`: the pieces of a text that was put together.
* `Text.append_first_inj`, `Text.append_last_inj`: what stands on either side of the first separator
  and of the last one.
* `Text.length_splitAt`
* `Text.mem_join`: what stands in joined texts.
-/

namespace RegistryBridge.Text

variable {sep : Char} {cs front rest : List Char} {s : String}

/-- A run without the separator is split off. -/
theorem pieces_append_cons (h : sep ∉ front) (rest : List Char) :
    pieces sep (front ++ sep :: rest) = front :: pieces sep rest := by
  induction front with
  | nil => simp [pieces]
  | cons c front ih =>
    have hc : c ≠ sep := fun e => h (by simp [e])
    have hfront : sep ∉ front := fun e => h (by simp [e])
    rw [List.cons_append, pieces, if_neg hc, ih hfront]

/-- **Texts put together** with a separator in front of each fall apart again. -/
theorem pieces_flatMap_cons {α : Type} {f : α → List Char} {xs : List α}
    (free : ∀ x ∈ xs, sep ∉ f x) (h : sep ∉ front) :
    pieces sep (front ++ xs.flatMap fun x => sep :: f x) = front :: xs.map f := by
  induction xs generalizing front with
  | nil =>
    rw [List.flatMap_nil, List.append_nil, pieces_of_not_mem h]
    rfl
  | cons x xs ih =>
    have later := ih (fun y mem => free y (List.mem_cons_of_mem _ mem))
      (free x (List.mem_cons_self ..))
    rw [List.flatMap_cons, List.cons_append, pieces_append_cons h, later]
    rfl

theorem not_mem_of_mem_pieces {piece : List Char} (h : piece ∈ pieces sep cs) : sep ∉ piece := by
  induction cs generalizing piece with
  | nil =>
    obtain rfl : piece = [] := by simpa [pieces] using h
    simp
  | cons c rest ih =>
    unfold pieces at h
    split at h
    · rcases List.mem_cons.mp h with rfl | later
      · simp
      · exact ih later
    · rename_i hc
      split at h
      · rename_i empty
        exact absurd empty (pieces_ne_nil sep rest)
      · rename_i first others split
        rw [split] at ih
        rcases List.mem_cons.mp h with rfl | later
        · have := ih (List.mem_cons_self ..)
          simp [this, Ne.symm hc]
        · exact ih (List.mem_cons_of_mem _ later)

/-- What stands in a piece stands in the text. -/
theorem mem_of_mem_pieces {piece : List Char} {c : Char} (h : piece ∈ pieces sep cs)
    (mem : c ∈ piece) : c ∈ cs := by
  induction cs generalizing piece with
  | nil =>
    obtain rfl : piece = [] := by simpa [pieces] using h
    cases mem
  | cons d rest ih =>
    unfold pieces at h
    split at h
    · rcases List.mem_cons.mp h with rfl | later
      · cases mem
      · exact List.mem_cons_of_mem _ (ih later mem)
    · split at h
      · rename_i empty
        exact absurd empty (pieces_ne_nil sep rest)
      · rename_i first others split
        rw [split] at ih
        rcases List.mem_cons.mp h with rfl | later
        · rcases List.mem_cons.mp mem with rfl | mem
          · exact List.mem_cons_self ..
          · exact List.mem_cons_of_mem _ (ih (List.mem_cons_self ..) mem)
        · exact List.mem_cons_of_mem _ (ih (List.mem_cons_of_mem _ later) mem)

/-- The separator ends the first piece, if there is another one. -/
theorem eq_append_of_pieces {piece next : List Char} {others : List (List Char)}
    (h : pieces sep cs = piece :: next :: others) :
    ∃ rest, cs = piece ++ sep :: rest ∧ pieces sep rest = next :: others := by
  induction cs generalizing piece with
  | nil => simp [pieces] at h
  | cons c rest ih =>
    unfold pieces at h
    split at h
    · subst sep
      obtain ⟨rfl, tail⟩ := List.cons.inj h
      exact ⟨rest, rfl, tail⟩
    · split at h
      · cases h
      · rename_i first more split
        obtain ⟨rfl, rfl⟩ := List.cons.inj h
        obtain ⟨rest', rfl, h'⟩ := ih split
        exact ⟨rest', rfl, h'⟩

/-- **The texts of two pieces.** -/
theorem pieces_eq_pair_iff :
    pieces sep cs = [front, rest] ↔ cs = front ++ sep :: rest ∧ sep ∉ front ∧ sep ∉ rest := by
  constructor
  · intro h
    obtain ⟨rest', rfl, h'⟩ := eq_append_of_pieces h
    have hfront : sep ∉ front := not_mem_of_mem_pieces (h ▸ List.mem_cons_self ..)
    have hrest : sep ∉ rest := not_mem_of_mem_pieces (h' ▸ List.mem_cons_self ..)
    have one : (pieces sep rest').length = 1 := by rw [h']; rfl
    rw [length_pieces] at one
    have hrest' : sep ∉ rest' := List.count_eq_zero.mp (by omega)
    rw [pieces_of_not_mem hrest'] at h'
    obtain rfl := (List.cons.inj h').1
    exact ⟨rfl, hfront, hrest⟩
  · rintro ⟨rfl, hfront, hrest⟩
    rw [pieces_append_cons hfront, pieces_of_not_mem hrest]

theorem splitAt_eq_pair_iff {a b : String} :
    splitAt sep s = [a, b] ↔
      s.toList = a.toList ++ sep :: b.toList ∧ sep ∉ a.toList ∧ sep ∉ b.toList := by
  rw [← pieces_eq_pair_iff, splitAt]
  constructor
  · intro h
    obtain ⟨first, tail, split, rfl, htail⟩ := List.map_eq_cons_iff.mp h
    obtain ⟨second, last, rfl, rfl, hlast⟩ := List.map_eq_cons_iff.mp htail
    obtain rfl := List.map_eq_nil_iff.mp hlast
    simpa using split
  · intro h
    simp [h]

/-- **The first separator divides a text in one way**, however many there are behind it. -/
theorem append_first_inj {front' back back' : List Char} (h : sep ∉ front) (h' : sep ∉ front') :
    front ++ sep :: back = front' ++ sep :: back' ↔ front = front' ∧ back = back' := by
  refine ⟨fun same => ?_, fun ⟨fronts, backs⟩ => by rw [fronts, backs]⟩
  have heads : front :: pieces sep back = front' :: pieces sep back' := by
    rw [← pieces_append_cons h, ← pieces_append_cons h', same]
  obtain rfl := (List.cons.inj heads).1
  exact ⟨rfl, (List.cons.inj (List.append_cancel_left same)).2⟩

/-- **The last separator divides a text in one way**, however many there are in front of it. -/
theorem append_last_inj {front' back back' : List Char} (h : sep ∉ back) (h' : sep ∉ back') :
    front ++ sep :: back = front' ++ sep :: back' ↔ front = front' ∧ back = back' := by
  refine ⟨fun same => ?_, fun ⟨fronts, backs⟩ => by rw [fronts, backs]⟩
  rcases List.append_eq_append_iff.mp same with ⟨more, rfl, behind⟩ | ⟨more, rfl, behind⟩
  -- What one of the fronts has more would bring the separator into the other one's back.
  · cases more with
    | nil => exact ⟨by simp, (List.cons.inj behind).2⟩
    | cons c more =>
      have later := (List.cons.inj behind).2
      exact absurd (by simp [later]) h
  · cases more with
    | nil => exact ⟨by simp, (List.cons.inj behind).2.symm⟩
    | cons c more =>
      have later := (List.cons.inj behind).2
      exact absurd (by simp [later]) h'

theorem length_splitAt (sep : Char) (s : String) :
    (splitAt sep s).length = s.toList.count sep + 1 := by
  rw [splitAt, List.length_map, length_pieces]

/-- **What stands in joined texts** stands in one of them or in the separator. -/
theorem mem_join {sep : String} {parts : List String} {c : Char} (h : c ∈ (join sep parts).toList) :
    c ∈ sep.toList ∨ ∃ part ∈ parts, c ∈ part.toList := by
  induction parts using join.induct with
  | case1 => simp [join] at h
  | case2 part => exact .inr ⟨part, by simp, h⟩
  | case3 part rest more ih =>
    rw [join] at h
    · rw [String.toList_append, String.toList_append] at h
      rcases List.mem_append.mp h with front | later
      · rcases List.mem_append.mp front with here | between
        · exact .inr ⟨part, by simp, here⟩
        · exact .inl between
      · refine (ih later).imp_right ?_
        rintro ⟨part, mem, inside⟩
        exact ⟨part, List.mem_cons_of_mem _ mem, inside⟩
    · exact more

end RegistryBridge.Text
