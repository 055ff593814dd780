import RegistryBridge.Proofs.Json.Compact
/-!
# Documents are read back from their compact texts

The text of a document without numbers is read as that document, and the reading stops where the text
ends. The readers count down steps, of which the length of a text is enough, and levels of lists and
objects, of which there must be as many as the document has.

## Main definitions

* `Json.nesting`: how many lists and objects stand inside one another.

## Main results

* `Json.value?_chars`: a document is read back, whatever follows it.
* `Json.parse?_compact`
-/

namespace RegistryBridge.Json

mutual

/-- **How many lists and objects stand inside one another.** -/
def nesting : Json → Nat
  | .list items => nestingItems items + 1
  | .object fields => nestingFields fields + 1
  | _ => 0

/-- The deepest nesting of a list of documents. -/
def nestingItems : List Json → Nat
  | [] => 0
  | x :: xs => max (nesting x) (nestingItems xs)

/-- The deepest nesting of the values of entries. -/
def nestingFields : List (String × Json) → Nat
  | [] => 0
  | (_, x) :: rest => max (nesting x) (nestingFields rest)

end

variable {steps room : Nat}

theorem skipBlanks_cons {c : Char} (h : isBlank c = false) (rest : List Char) :
    skipBlanks (c :: rest) = c :: rest := by
  simp [skipBlanks, List.dropWhile, h]

/-- The text of a document does not begin with a blank. -/
theorem skipBlanks_chars {a : Json} (plain : a.Numberless) (rest : List Char) :
    skipBlanks (chars a ++ rest) = chars a ++ rest := by
  obtain ⟨tail, written⟩ := exists_chars_eq_cons plain
  have dark : isBlank (opening a) = false := by
    cases a with
    | number => exact plain.elim
    | bool value => cases value <;> rfl
    | null | text | list | object => rfl
  rw [written]
  exact skipBlanks_cons dark _

/-- Inside brackets a list begins with its first item, since that does not begin as a list ends. -/
theorem value?_list {a : Json} (plain : a.Numberless) (levels : room ≠ 0) (rest : List Char) :
    value? (steps + 1) room ('[' :: (chars a ++ rest)) =
      (items? steps (room - 1) (chars a ++ rest)).map fun (xs, left) => (.list xs, left) := by
  have bracket : skipBlanks ('[' :: (chars a ++ rest)) = '[' :: (chars a ++ rest) :=
    skipBlanks_cons (by decide) _
  simp only [value?, bracket, if_neg levels, skipBlanks_chars plain]
  split
  · rename_i left closed
    exact absurd closed (chars_append_ne plain rest left)
  · rfl

theorem value?_object (key : String) (levels : room ≠ 0) (rest : List Char) :
    value? (steps + 1) room ('{' :: (quote key ++ rest)) =
      (fields? steps (room - 1) (quote key ++ rest)).map fun (xs, left) => (.object xs, left) := by
  have brace : value? (steps + 1) room ('{' :: (quote key ++ rest)) =
      if room = 0 then none else
        (fields? steps (room - 1) (quote key ++ rest)).map fun (xs, left) => (.object xs, left) := rfl
  rw [brace, if_neg levels]

section Parts

variable {x : Json} {cs left more : List Char}

/-- The last item of a list is read, up to the closing bracket. -/
theorem items?_last (read : value? steps room cs = some (x, ']' :: left)) :
    items? (steps + 1) room cs = some ([x], left) := by
  have closed : skipBlanks (']' :: left) = ']' :: left := skipBlanks_cons (by decide) left
  simp [items?, read, closed]

/-- Another item follows behind a comma. -/
theorem items?_comma (read : value? steps room cs = some (x, ',' :: more)) :
    items? (steps + 1) room cs = (items? steps room more).map fun (xs, left) => (x :: xs, left) := by
  have comma : skipBlanks (',' :: more) = ',' :: more := skipBlanks_cons (by decide) more
  simp [items?, read, comma]

/-- Before each value of an object stands its key. -/
theorem skipBlanks_quote (key : String) (cs : List Char) :
    skipBlanks (quote key ++ ':' :: cs) = '"' :: (escaped key.toList ++ '"' :: ':' :: cs) := by
  have named : quote key ++ ':' :: cs = '"' :: (escaped key.toList ++ '"' :: ':' :: cs) := by
    simp [quote]
  rw [named, skipBlanks_cons (by decide)]

/-- The last entry of an object is read, up to the closing brace. -/
theorem fields?_last (key : String) (read : value? steps room cs = some (x, '}' :: left)) :
    fields? (steps + 1) room (quote key ++ ':' :: cs) = some ([(key, x)], left) := by
  have colon : skipBlanks (':' :: cs) = ':' :: cs := skipBlanks_cons (by decide) cs
  have closed : skipBlanks ('}' :: left) = '}' :: left := skipBlanks_cons (by decide) left
  simp [fields?, skipBlanks_quote, stringBody?_escaped, colon, read, closed]

/-- Another entry follows behind a comma. -/
theorem fields?_comma (key : String) (read : value? steps room cs = some (x, ',' :: more)) :
    fields? (steps + 1) room (quote key ++ ':' :: cs) =
      (fields? steps room more).map fun (xs, left) => ((key, x) :: xs, left) := by
  have colon : skipBlanks (':' :: cs) = ':' :: cs := skipBlanks_cons (by decide) cs
  have comma : skipBlanks (',' :: more) = ',' :: more := skipBlanks_cons (by decide) more
  simp [fields?, skipBlanks_quote, stringBody?_escaped, colon, read, comma]

end Parts

mutual

/-- **A document is read back from its text**, whatever follows. -/
theorem value?_chars : ∀ {a : Json}, a.Numberless → ∀ {steps room : Nat} (rest : List Char),
    (chars a).length < steps → nesting a ≤ room → value? steps room (chars a ++ rest) = some (a, rest)
  | a, plain, 0, _, _, enough, _ => absurd enough (Nat.not_lt_zero _)
  | .null, _, _ + 1, _, _, _, _ => rfl
  | .bool true, _, _ + 1, _, _, _, _ => rfl
  | .bool false, _, _ + 1, _, _, _, _ => rfl
  | .text s, _, steps + 1, room, rest, _, _ => by
    have written : chars (.text s) ++ rest = '"' :: (escaped s.toList ++ '"' :: rest) := by
      simp [chars, quote]
    have body : ∀ inside, value? (steps + 1) room ('"' :: inside) =
        (stringBody? inside).map fun (cs, left) => (.text (String.ofList cs), left) := fun _ => rfl
    rw [written, body, stringBody?_escaped]
    simp
  | .list [], _, steps + 1, room + 1, _, _, _ => rfl
  | .list (x :: xs), plain, steps + 1, room + 1, rest, enough, levels => by
    have written : chars (.list (x :: xs)) ++ rest = '[' :: (chars x ++ (charsItems xs ++ rest)) := by
      simp [chars]
    have short : (chars x).length + (charsItems xs).length < steps := by
      simp only [chars, List.length_cons, List.length_append] at enough
      omega
    have shallow : nestingItems (x :: xs) ≤ room := by
      simpa [nesting] using levels
    have inside := items?_chars plain rest short shallow
    rw [written, value?_list plain.1 (Nat.succ_ne_zero _)]
    simp [inside]
  | .object [], _, _ + 1, _ + 1, _, _, _ => rfl
  | .object ((k, x) :: xs), plain, steps + 1, room + 1, rest, enough, levels => by
    have written : chars (.object ((k, x) :: xs)) ++ rest =
        '{' :: (quote k ++ (':' :: (chars x ++ (charsFields xs ++ rest)))) := by
      simp [chars]
    have short : (chars x).length + (charsFields xs).length + 1 < steps := by
      simp only [chars, List.length_cons, List.length_append] at enough
      omega
    have shallow : nestingFields ((k, x) :: xs) ≤ room := by
      simpa [nesting] using levels
    have inside := fields?_chars plain rest short shallow
    rw [written, value?_object k (Nat.succ_ne_zero _)]
    simp [inside]

/-- The items of a list are read back, up to its closing bracket. -/
theorem items?_chars : ∀ {x : Json} {xs : List Json}, NumberlessItems (x :: xs) →
    ∀ {steps room : Nat} (rest : List Char), (chars x).length + (charsItems xs).length < steps →
      nestingItems (x :: xs) ≤ room →
      items? steps room (chars x ++ (charsItems xs ++ rest)) = some (x :: xs, rest)
  | _, _, _, 0, _, _, enough, _ => absurd enough (Nat.not_lt_zero _)
  | x, [], plain, steps + 1, room, rest, enough, levels => by
    have short : (chars x).length < steps := by
      simp only [charsItems, List.length_singleton] at enough
      omega
    rw [nestingItems, Nat.max_le] at levels
    exact items?_last (value?_chars plain.1 (charsItems [] ++ rest) short levels.1)
  | x, y :: ys, plain, steps + 1, room, rest, enough, levels => by
    simp only [charsItems, List.length_append, List.length_cons] at enough
    rw [nestingItems, Nat.max_le] at levels
    have short : (chars x).length < steps := by omega
    have shorter : (chars y).length + (charsItems ys).length < steps := by omega
    have first := value?_chars plain.1 (charsItems (y :: ys) ++ rest) short levels.1
    have later := items?_chars plain.2 rest shorter levels.2
    have comma : charsItems (y :: ys) ++ rest = ',' :: (chars y ++ (charsItems ys ++ rest)) := by
      simp [charsItems]
    rw [comma] at first ⊢
    rw [items?_comma first, later, Option.map_some]

/-- The entries of an object are read back, up to its closing brace. -/
theorem fields?_chars : ∀ {k : String} {x : Json} {xs : List (String × Json)},
    NumberlessFields ((k, x) :: xs) → ∀ {steps room : Nat} (rest : List Char),
      (chars x).length + (charsFields xs).length + 1 < steps →
      nestingFields ((k, x) :: xs) ≤ room →
      fields? steps room (quote k ++ (':' :: (chars x ++ (charsFields xs ++ rest)))) =
        some ((k, x) :: xs, rest)
  | _, _, _, _, 0, _, _, enough, _ => absurd enough (Nat.not_lt_zero _)
  | k, x, [], plain, steps + 1, room, rest, enough, levels => by
    rw [nestingFields, Nat.max_le] at levels
    have short : (chars x).length < steps := by omega
    exact fields?_last k (value?_chars plain.1 (charsFields [] ++ rest) short levels.1)
  | k, x, (l, y) :: later, plain, steps + 1, room, rest, enough, levels => by
    simp only [charsFields, List.length_append, List.length_cons] at enough
    rw [nestingFields, Nat.max_le] at levels
    have short : (chars x).length < steps := by omega
    have shorter : (chars y).length + (charsFields later).length + 1 < steps := by omega
    have first := value?_chars plain.1 (charsFields ((l, y) :: later) ++ rest) short levels.1
    have more := fields?_chars (k := l) plain.2 rest shorter levels.2
    have comma : charsFields ((l, y) :: later) ++ rest =
        ',' :: (quote l ++ (':' :: (chars y ++ (charsFields later ++ rest)))) := by
      simp [charsFields]
    rw [comma] at first ⊢
    rw [fields?_comma k first, more, Option.map_some]

end

/-- **A document is read back from its text**, unless it is nested too deeply. -/
theorem parse?_compact {a : Json} (plain : a.Numberless) (shallow : nesting a ≤ maxDepth) :
    parse? a.compact = some a := by
  have short : (chars a).length < 2 * (chars a).length + 2 := by omega
  have read := value?_chars plain [] short shallow
  rw [List.append_nil] at read
  rw [parse?, compact, String.toList_ofList, front?, read]
  rfl

end RegistryBridge.Json
