import Mathlib.Tactic.SplitIfs
import RegistryBridge.Json.Parser
import RegistryBridge.Json.Printer
/-!
# Compact texts stand for one document each

A string is read back from what is written for it, whatever follows its closing quotation mark. So the
text of a document without numbers says where it ends, and no two such documents share one.

## Main definitions

* `Json.Numberless`: a document without numbers.

## Main results

* `Json.stringBody?_escaped`: strings are read back.
* `Json.chars_append_inj`: where the text of a document ends.
* `Json.compact_injective`
-/

namespace RegistryBridge.Json

/-! ## Strings -/

theorem hexValue?_hexDigit : ∀ d < 16, hexValue? (hexDigit d) = some d := by
  decide

/-- **A character is read back from what is written for it.** -/
theorem stringBody?_escape (c : Char) (rest : List Char) :
    stringBody? (escape c ++ rest) = (stringBody? rest).map fun (cs, left) => (c :: cs, left) := by
  have named : ∀ {n : Nat}, c.toNat = n → c = Char.ofNat n :=
    fun h => h ▸ (Char.ofNat_toNat c).symm
  unfold escape
  split_ifs with quotation solidus backspace tab feed page carriage control
  case pos => rw [quotation]; rfl
  case pos => rw [solidus]; rfl
  case pos => rw [named backspace]; rfl
  case pos => rw [named tab]; rfl
  case pos => rw [named feed]; rfl
  case pos => rw [named page]; rfl
  case pos => rw [named carriage]; rfl
  case pos =>
    have unit : unit? '0' '0' (hexDigit (c.toNat / 16)) (hexDigit (c.toNat % 16)) =
        some (16 * (c.toNat / 16) + c.toNat % 16) := by
      have zero : hexValue? '0' = some 0 := by decide
      simp [unit?, zero, hexValue?_hexDigit _ (show c.toNat / 16 < 16 by omega),
        hexValue?_hexDigit _ (show c.toNat % 16 < 16 by omega)]
    rw [Nat.div_add_mod] at unit
    simp only [List.cons_append, List.nil_append, stringBody?, unit]
    rw [if_neg (by omega), if_neg (by omega), Char.ofNat_toNat]
  case neg =>
    simp only [List.cons_append, List.nil_append]
    rw [stringBody?, if_neg (by simp [solidus, control])]
    · exact quotation
    · simp [solidus]
    · simp [solidus]

/-- **A string is read back** from what is written for it, up to its closing quotation mark. -/
theorem stringBody?_escaped (cs rest : List Char) :
    stringBody? (escaped cs ++ '"' :: rest) = some (cs, rest) := by
  induction cs with
  | nil => rfl
  | cons c cs ih =>
    have split : escaped (c :: cs) ++ '"' :: rest = escape c ++ (escaped cs ++ '"' :: rest) := by
      simp [escaped]
    rw [split, stringBody?_escape, ih]
    rfl

theorem quote_append_inj {s s' : String} {rest rest' : List Char}
    (h : quote s ++ rest = quote s' ++ rest') : s = s' ∧ rest = rest' := by
  have bodies : escaped s.toList ++ '"' :: rest = escaped s'.toList ++ '"' :: rest' := by
    simpa [quote] using h
  have read := congrArg stringBody? bodies
  rw [stringBody?_escaped, stringBody?_escaped] at read
  obtain ⟨same, left⟩ := Prod.mk.inj (Option.some.inj read)
  exact ⟨String.toList_inj.mp same, left⟩

/-! ## Documents -/

mutual

/-- **A document without numbers.** Only a number does not say where it ends. -/
def Numberless : Json → Prop
  | .number _ => False
  | .list items => NumberlessItems items
  | .object fields => NumberlessFields fields
  | _ => True

/-- A list of documents without numbers. -/
def NumberlessItems : List Json → Prop
  | [] => True
  | x :: xs => Numberless x ∧ NumberlessItems xs

/-- Entries whose values are documents without numbers. -/
def NumberlessFields : List (String × Json) → Prop
  | [] => True
  | (_, x) :: rest => Numberless x ∧ NumberlessFields rest

end

/-- The character that the text of a document begins with, numbers apart. -/
def opening : Json → Char
  | .null => 'n'
  | .bool true => 't'
  | .bool false => 'f'
  | .number _ => '0'
  | .text _ => '"'
  | .list _ => '['
  | .object _ => '{'

theorem exists_chars_eq_cons {a : Json} (plain : a.Numberless) :
    ∃ tail, chars a = opening a :: tail := by
  cases a with
  | number => exact plain.elim
  | bool value => cases value <;> exact ⟨_, rfl⟩
  | list items => cases items <;> exact ⟨_, rfl⟩
  | object fields => cases fields <;> exact ⟨_, rfl⟩
  | null | text => exact ⟨_, rfl⟩

theorem opening_eq {a b : Json} (ha : a.Numberless) (hb : b.Numberless) {rest rest' : List Char}
    (h : chars a ++ rest = chars b ++ rest') : opening a = opening b := by
  obtain ⟨_, written⟩ := exists_chars_eq_cons ha
  obtain ⟨_, written'⟩ := exists_chars_eq_cons hb
  rw [written, written'] at h
  exact (List.cons.inj h).1

/-- The text of a document does not begin as a list ends. -/
theorem chars_append_ne {a : Json} (plain : a.Numberless) (rest tail : List Char) :
    chars a ++ rest ≠ ']' :: tail := by
  obtain ⟨more, written⟩ := exists_chars_eq_cons plain
  rw [written]
  intro h
  have closed : opening a = ']' := (List.cons.inj h).1
  cases a with
  | bool value => cases value <;> cases closed
  | _ => cases closed

mutual

/-- **Where the text of a document ends**: it is no other one's text with something behind it. -/
theorem chars_append_inj : ∀ {a b : Json}, a.Numberless → b.Numberless → ∀ {rest rest' : List Char},
    chars a ++ rest = chars b ++ rest' → a = b ∧ rest = rest'
  | .null, b, ha, hb, _, _, h => by
    have start := opening_eq ha hb h
    cases b with
    | null => exact ⟨rfl, by simpa [chars] using h⟩
    | bool value => cases value <;> cases start
    | _ => cases start
  | .bool a, b, ha, hb, _, _, h => by
    have start := opening_eq ha hb h
    cases b with
    | bool value =>
      cases a <;> cases value
      case true.true | false.false => exact ⟨rfl, by simpa [chars] using h⟩
      all_goals cases start
    | _ => cases a <;> cases start
  | .number _, _, ha, _, _, _, _ => ha.elim
  | .text s, b, ha, hb, _, _, h => by
    have start := opening_eq ha hb h
    cases b with
    | text s' =>
      obtain ⟨rfl, same⟩ := quote_append_inj h
      exact ⟨rfl, same⟩
    | bool value => cases value <;> cases start
    | _ => cases start
  | .list items, b, ha, hb, left, left', h => by
    have start := opening_eq ha hb h
    cases b with
    | list items' =>
      cases items with
      | nil => cases items' with
        | nil => exact ⟨rfl, by simpa [chars] using h⟩
        | cons y ys =>
          simp only [chars, List.cons_append, List.nil_append, List.cons.injEq, true_and,
            List.append_assoc] at h
          exact absurd h.symm (chars_append_ne hb.1 _ _)
      | cons x xs => cases items' with
        | nil =>
          simp only [chars, List.cons_append, List.nil_append, List.cons.injEq, true_and,
            List.append_assoc] at h
          exact absurd h (chars_append_ne ha.1 _ _)
        | cons y ys =>
          have onward : charsItems (x :: xs) ++ left = charsItems (y :: ys) ++ left' := by
            simpa [chars, charsItems] using h
          obtain ⟨items, same⟩ := charsItems_append_inj ha hb onward
          exact ⟨congrArg Json.list items, same⟩
    | bool value => cases value <;> cases start
    | _ => cases start
  | .object fields, b, ha, hb, left, left', h => by
    have start := opening_eq ha hb h
    cases b with
    | object fields' =>
      cases fields with
      | nil => cases fields' with
        | nil => exact ⟨rfl, by simpa [chars] using h⟩
        | cons entry' rest' => simp [chars, quote] at h
      | cons entry rest => cases fields' with
        | nil => simp [chars, quote] at h
        | cons entry' rest' =>
          have onward : charsFields (entry :: rest) ++ left = charsFields (entry' :: rest') ++ left' := by
            simpa [chars, charsFields] using h
          obtain ⟨fields, same⟩ := charsFields_append_inj ha hb onward
          exact ⟨congrArg Json.object fields, same⟩
    | bool value => cases value <;> cases start
    | _ => cases start

/-- Where the further items of a list end. -/
theorem charsItems_append_inj : ∀ {xs ys : List Json}, NumberlessItems xs → NumberlessItems ys →
    ∀ {rest rest' : List Char}, charsItems xs ++ rest = charsItems ys ++ rest' →
      xs = ys ∧ rest = rest'
  | [], [], _, _, _, _, h => ⟨rfl, by simpa [charsItems] using h⟩
  | x :: xs, y :: ys, ha, hb, _, _, h => by
    simp only [charsItems, List.cons_append, List.append_assoc, List.cons.injEq, true_and] at h
    obtain ⟨rfl, onward⟩ := chars_append_inj ha.1 hb.1 h
    obtain ⟨rfl, same⟩ := charsItems_append_inj ha.2 hb.2 onward
    exact ⟨rfl, same⟩
  | [], _ :: _, _, _, _, _, h => by simp [charsItems] at h
  | _ :: _, [], _, _, _, _, h => by simp [charsItems] at h

/-- Where the further entries of an object end. -/
theorem charsFields_append_inj : ∀ {xs ys : List (String × Json)}, NumberlessFields xs →
    NumberlessFields ys → ∀ {rest rest' : List Char},
      charsFields xs ++ rest = charsFields ys ++ rest' → xs = ys ∧ rest = rest'
  | [], [], _, _, _, _, h => ⟨rfl, by simpa [charsFields] using h⟩
  | (k, x) :: xs, (l, y) :: ys, ha, hb, _, _, h => by
    simp only [charsFields, List.cons_append, List.append_assoc, List.cons.injEq, true_and] at h
    obtain ⟨rfl, valued⟩ := quote_append_inj h
    obtain ⟨rfl, onward⟩ := chars_append_inj ha.1 hb.1 (List.cons.inj valued).2
    obtain ⟨rfl, same⟩ := charsFields_append_inj ha.2 hb.2 onward
    exact ⟨rfl, same⟩
  | [], _ :: _, _, _, _, _, h => by simp [charsFields] at h
  | _ :: _, [], _, _, _, _, h => by simp [charsFields] at h

end

/-- **No two documents without numbers share a text.** -/
theorem compact_injective {a b : Json} (ha : a.Numberless) (hb : b.Numberless)
    (h : a.compact = b.compact) : a = b := by
  have written : chars a ++ [] = chars b ++ [] := by
    simpa using String.ofList_injective h
  exact (chars_append_inj ha hb written).1

end RegistryBridge.Json
