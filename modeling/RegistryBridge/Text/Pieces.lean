/-!
# Pieces of a text between separators

## Main definitions

* `pieces`: the runs of characters between the occurrences of a separator, the empty ones included.
* `splitAt`: the same for strings.
* `occursIn`: whether a run of characters occurs in a text.
-/

namespace RegistryBridge.Text

/-- The runs of characters between the occurrences of `sep`; always one more than there are
separators. -/
def pieces (sep : Char) : List Char → List (List Char)
  | [] => [[]]
  | c :: rest =>
    if c = sep then [] :: pieces sep rest
    else
      match pieces sep rest with
      | [] => [[c]]
      | piece :: others => (c :: piece) :: others

/-- The texts between the occurrences of `sep`. -/
def splitAt (sep : Char) (s : String) : List String :=
  (pieces sep s.toList).map String.ofList

/-- Texts joined by a separator. -/
def join (sep : String) : List String → String
  | [] => ""
  | [s] => s
  | s :: rest => s ++ sep ++ join sep rest

/-- Whether a run of characters stands somewhere in a text. -/
def occursIn (part : List Char) : List Char → Bool
  | [] => part.isEmpty
  | c :: rest => part.isPrefixOf (c :: rest) || occursIn part rest

theorem pieces_ne_nil (sep : Char) (cs : List Char) : pieces sep cs ≠ [] := by
  cases cs with
  | nil => simp [pieces]
  | cons c rest =>
    unfold pieces
    split
    · simp
    · split <;> simp

/-- A text that holds no separator is one piece. -/
theorem pieces_of_not_mem {sep : Char} {cs : List Char} (h : sep ∉ cs) :
    pieces sep cs = [cs] := by
  induction cs with
  | nil => rfl
  | cons c rest ih =>
    have hc : c ≠ sep := fun e => h (by simp [e])
    have hrest : sep ∉ rest := fun e => h (by simp [e])
    simp [pieces, hc, ih hrest]

/-- There is one piece more than there are separators. -/
theorem length_pieces (sep : Char) (cs : List Char) :
    (pieces sep cs).length = cs.count sep + 1 := by
  induction cs with
  | nil => rfl
  | cons c rest ih =>
    unfold pieces
    by_cases h : c = sep
    · subst h; simp [ih]
    · rw [if_neg h, List.count_cons_of_ne h]
      split
      · next heq => simp [heq] at ih
      · next heq => simpa [heq] using ih

end RegistryBridge.Text
