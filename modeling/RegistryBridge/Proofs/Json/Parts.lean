import RegistryBridge.Proofs.Json.Record
/-!
# What a document holds for the fields of a record

A record is read from an object, where each field stands under its name, or from a list, where it
stands in its place. Either way the value of a field is read from what the document holds for it, or
is what stands for a field that is missing.

## Main definitions

* `Json.fieldOf?`: what a document holds for a field.
* `Json.Field.Gives`, `Json.Record.Gives`: values that may come of it.

## Main results

* `Json.Record.gives_of_read`: a value that has been read comes of what the document holds.
* `Json.Record.Gives.field`: it is taken apart field by field.
-/

namespace RegistryBridge.Json

/-- **What a document holds for a field**: by name in an object, by place in a list. -/
def fieldOf? (names : List String) : Json → String → Option Json
  | .list items, name => items[names.idxOf name]?
  | document, name => document.get? name

/-- A list of any documents is kept as it is. -/
theorem eq_list_of_anything {document : Json} {items : List Json}
    (h : Reader.list Reader.anything document = .ok items) : document = .list items := by
  have kept : ∀ xs : List Json, Reader.items Reader.anything xs = .ok xs := by
    intro xs
    induction xs with
    | nil => rfl
    | cons x xs ih => simp [Reader.items, Reader.anything, ih]
  cases document with
  | list xs => exact congrArg list (Except.ok.inj ((kept xs).symm.trans h))
  | _ => cases h

namespace Field

variable {α : Type} {field : Field α} {entry : Option Json} {part : α}

/-- **A value that may come of what a document holds for a field**: it is read from there, or stands
for the missing field. -/
def Gives (field : Field α) (entry : Option Json) (part : α) : Prop :=
  match entry with
  | some document => field.read document = .ok part
  | none => field.absent = some part ∨ field.short = some part

theorem gives_of_fromEntry (h : field.fromEntry entry = .ok part) : field.Gives entry part := by
  cases entry with
  | some document => exact h
  | none =>
    cases absent : field.absent with
    | none => simp [fromEntry, absent] at h
    | some value =>
      simp only [fromEntry, absent] at h
      exact .inl (absent.trans (congrArg some (Except.ok.inj h)))

theorem gives_withDefault {name : String} {read : Reader α} {default part : α}
    (h : (withDefault name read default).Gives entry part) :
    (entry = none ∧ part = default) ∨ ∃ document, entry = some document ∧ read document = .ok part := by
  cases entry with
  | none => exact .inl ⟨rfl, (Option.some.inj (h.elim id id)).symm⟩
  | some document => exact .inr ⟨document, rfl, h⟩

/-- Any document but null is kept as it is; null stands for nothing. -/
theorem eq_of_gives_anything {name : String} {part : Option Json}
    (h : (optional name Reader.anything).Gives entry part) : part = entry.filter (· ≠ .null) := by
  cases entry with
  | none => exact (Option.some.inj (h.elim id id)).symm
  | some document =>
    rcases nullable_eq_ok_iff.mp h with ⟨rfl, rfl⟩ | ⟨something, _, read, rfl⟩
    · rfl
    · cases read
      simp [Option.filter, something]

end Field

namespace Record

variable {α β : Type} {record : Record (β → α)} {next : Field β} {get : String → Option Json}
  {items rest : List Json} {value : α}

/-- **Fields are placed in order**: behind a record come the items behind those of its fields. -/
def Ordered {α : Type} (record : Record α) : Prop :=
  ∀ items value rest, record.place items = .ok (some (value, rest)) →
    rest = items.drop record.names.length

theorem ordered_of (value : α) : (Record.of value).Ordered := by
  rintro items value rest ⟨⟩
  rfl

/-- A field is read from the first item behind those of the fields in front. -/
theorem exists_of_place_field (placed : (record.field next).place items = .ok (some (value, rest))) :
    ∃ make part front, record.place items = .ok (some (make, front)) ∧
      next.Gives front.head? part ∧ rest = front.tail ∧ make part = value := by
  simp only [field, bind, Except.bind] at placed
  cases first : record.place items with
  | error e => simp [first] at placed
  | ok found =>
    rcases found with _ | ⟨make, front⟩
    · simp [first, pure, Except.pure] at placed
    · cases front with
      | nil =>
        cases short : next.short with
        | none => simp [first, short, pure, Except.pure] at placed
        | some part =>
          simp only [first, short, pure, Except.pure, Option.map_some, Except.ok.injEq,
            Option.some.injEq, Prod.mk.injEq] at placed
          exact ⟨make, part, [], rfl, .inr short, placed.2.symm, placed.1⟩
      | cons item front =>
        cases read : next.read item with
        | error e => simp [first, read] at placed
        | ok part =>
          simp only [first, read, pure, Except.pure, Except.ok.injEq, Option.some.injEq,
            Prod.mk.injEq] at placed
          exact ⟨make, part, item :: front, rfl, read, placed.2.symm, placed.1⟩

theorem Ordered.field (ordered : record.Ordered) (next : Field β) :
    (record.field next).Ordered := by
  intro items value rest placed
  obtain ⟨make, part, front, first, -, rfl, -⟩ := exists_of_place_field placed
  rw [ordered items make front first, List.tail_drop]
  simp [Record.field]

/-- **A value that may come of what a document holds**: it is built from the entries, or placed from
the items. -/
def Gives {α : Type} (record : Record α) (get : String → Option Json) (value : α) : Prop :=
  record.build get = .ok value ∨
    ∃ items rest, record.place items = .ok (some (value, rest)) ∧
      ∀ (k : Nat) (name : String), record.names[k]? = some name → get name = items[k]?

theorem eq_of_gives {value value' : α} (h : (Record.of value).Gives get value') :
    value = value' := by
  rcases h with built | ⟨items, rest, placed, -⟩
  · exact build_of_iff.mp built
  · cases placed
    rfl

/-- **A value is taken apart field by field.** -/
theorem Gives.field (h : (record.field next).Gives get value) (ordered : record.Ordered) :
    ∃ make part, record.Gives get make ∧ next.Gives (get next.name) part ∧ make part = value := by
  rcases h with built | ⟨items, rest, placed, agrees⟩
  · obtain ⟨make, part, front, last, rfl⟩ := build_field_iff.mp built
    exact ⟨make, part, .inl front, Field.gives_of_fromEntry last, rfl⟩
  · obtain ⟨make, part, front, first, last, -, rfl⟩ := exists_of_place_field placed
    have names : (record.field next).names = record.names ++ [next.name] := rfl
    rw [names] at agrees
    -- The fields in front keep their places, and the next one comes right behind them.
    refine ⟨make, part, .inr ⟨items, front, first, fun k name at_k => ?_⟩, ?_, rfl⟩
    · have inside : k < record.names.length := (List.getElem?_eq_some_iff.mp at_k).1
      exact agrees k name ((List.getElem?_append_left inside).trans at_k)
    · rw [agrees record.names.length next.name (by simp), ← List.head?_drop,
        ← ordered items make front first]
      exact last

/-- **A value that has been read comes of what the document holds.** -/
theorem gives_of_read {record : Record α} {name : String} {document : Json}
    (once : record.names.Nodup) (read : record.read name document = .ok value) :
    record.Gives (document.fieldOf? record.names) value := by
  cases document with
  | object fields =>
    simp only [Record.read, bind, Except.bind] at read
    cases visit : record.checkAll [] fields with
    | error e => simp [visit] at read
    | ok _ =>
      rw [visit] at read
      exact .inl read
  | list items =>
    simp only [Record.read, bind, Except.bind] at read
    cases placed : record.place items with
    | error e => simp [placed] at read
    | ok found =>
      -- A list that is read has no items behind those of the fields.
      rcases found with _ | ⟨value', _ | ⟨item, rest⟩⟩
      · simp [placed, throw, throwThe, MonadExceptOf.throw] at read
      · simp only [placed, pure, Except.pure, Except.ok.injEq] at read
        subst read
        refine .inr ⟨items, [], placed, fun k name at_k => ?_⟩
        obtain ⟨inside, rfl⟩ := List.getElem?_eq_some_iff.mp at_k
        show items[record.names.idxOf record.names[k]]? = items[k]?
        rw [once.idxOf_getElem]
      · simp [placed, throw, throwThe, MonadExceptOf.throw] at read
  | _ => simp [Record.read] at read

end Record

end RegistryBridge.Json
