import RegistryBridge.Proofs.Json.Patch
/-!
# What a patch leaves alone

A path of keys leads to a value within a document. Every edit of a patch is made at a path: what
stands neither on the way there nor behind it is afterwards what it was before. So it is for a whole
patch, and a document of which no object has a key twice stays one.

## Main definitions

* `Json.valueAt?`: the value at a path.
* `Json.Patch.written?`: what a patch writes at a path.
* `Json.Apart`: paths of which neither leads on from the other.
* `Json.SameBut`: documents that are the same apart from some places.
* `Json.OnceThroughout`: a document of which no object has a key twice.

## Main results

* `Json.Patch.sameBut_of_applied?`: a patch leaves alone what is apart from its paths.
* `Json.Patch.onceThroughout_of_applied?`: a patch brings in no key twice.
-/

namespace RegistryBridge.Json

/-- The value at a path of keys. -/
def valueAt? (document : Json) : List String → Option Json
  | [] => some document
  | key :: path => (document.get? key).bind fun value => value.valueAt? path

/-- What a value that stands at the front of a path holds at the whole path. -/
def valueBehind? (value : Json) : (front path : List String) → Option Json
  | [], path => value.valueAt? path
  | key :: front, other :: path => if key = other then valueBehind? value front path else none
  | _ :: _, [] => none

/-- What an edit writes at a path: there, or within a value that it writes in front of it. -/
def PatchOperation.written? (path : List String) : PatchOperation → Option Json
  | add front value | replace front value => value.valueBehind? front path
  | remove _ => none

/-- **What a patch writes at a path**, the last edit of it standing. -/
def Patch.written? (path : List String) (patch : List PatchOperation) : Option Json :=
  patch.reverse.findSome? (PatchOperation.written? path)

/-- **Paths apart**: neither leads on from the other. -/
def Apart (path other : List String) : Prop :=
  ¬ path <+: other ∧ ¬ other <+: path

/-- **Documents that are the same but for some places**: they hold the same at every path that is
apart from all of these. -/
def SameBut (places : List (List String)) (before after : Json) : Prop :=
  ∀ path, (∀ place ∈ places, Apart place path) → after.valueAt? path = before.valueAt? path

/-- **A document of which no object has a key twice**, however deep the object lies. -/
def OnceThroughout (document : Json) : Prop :=
  ∀ path value, document.valueAt? path = some value → value.KeysOnce

variable {document child value edited before after : Json} {key other : String}
  {place path : List String} {edit : Json → Option Json}

/-! ## Paths apart -/

theorem apart_cons_cons {front behind : List String} :
    Apart (key :: front) (other :: behind) ↔ (key = other → Apart front behind) := by
  unfold Apart
  rw [List.cons_prefix_cons, List.cons_prefix_cons]
  by_cases same : key = other
  · simp [same]
  · simp [same, Ne.symm same]

/-- What is apart from the front of a path is apart from the path. -/
theorem Apart.of_leads {front : List String} (h : Apart front path) (leads : front <+: place) :
    Apart place path :=
  ⟨fun below => h.1 (leads.trans below),
    fun ahead => (List.prefix_or_prefix_of_prefix leads ahead).elim h.1 h.2⟩

/-- A key is apart from the paths that begin with another one. -/
theorem ne_of_apart_singleton (h : Apart [key] (other :: path)) : other ≠ key := by
  rintro rfl
  exact h.1 (List.cons_prefix_cons.mpr ⟨rfl, List.nil_prefix⟩)

/-! ## The value at a path -/

theorem valueAt?_cons (h : document.get? key = some child) (path : List String) :
    document.valueAt? (key :: path) = child.valueAt? path := by
  rw [valueAt?, h, Option.bind_some]

@[simp] theorem valueAt?_singleton (document : Json) (key : String) :
    document.valueAt? [key] = document.get? key := by
  rw [valueAt?]
  cases document.get? key <;> rfl

/-- A path is followed part by part. -/
theorem valueAt?_append (document : Json) (front path : List String) :
    document.valueAt? (front ++ path) = (document.valueAt? front).bind (·.valueAt? path) := by
  induction front generalizing document with
  | nil => rfl
  | cons key front ih =>
    rw [List.cons_append, valueAt?, valueAt?, Option.bind_assoc]
    exact congrArg _ (funext fun child => ih child)

theorem get?_of_not_object (h : document.isObject = false) (key : String) :
    document.get? key = none := by
  cases document with
  | object => cases h
  | _ => rfl

theorem isObject_withChild (document : Json) (key : String) (value : Json) :
    (document.withChild key value).isObject = document.isObject := by
  unfold withChild
  split
  · rfl
  · split <;> rfl
  · rfl

/-- What is added is an entry of an object. A path only leads on in an object: of what is put into a
list it sees nothing. -/
theorem of_addChild? (h : addChild? key value before = some after) :
    (before.isObject = false ∧ after.isObject = false) ∨ before.set key value = after := by
  unfold addChild? at h
  split at h
  · exact .inr (Option.some.inj h)
  · -- A list stays a list, wherever the value is put.
    refine .inl ⟨rfl, ?_⟩
    split at h
    · obtain rfl := Option.some.inj h
      rfl
    · split at h
      · split at h
        · obtain rfl := Option.some.inj h
          rfl
        · cases h
      · cases h
  · cases h

/-- What is removed is an entry of an object, or an item of a list. -/
theorem of_removeChild? (h : removeChild? key before = some after) :
    (before.isObject = false ∧ after.isObject = false) ∨ before.remove key = after := by
  obtain ⟨child, -, h⟩ := Option.bind_eq_some_iff.mp h
  split at h
  · obtain ⟨i, -, rfl⟩ := Option.map_eq_some_iff.mp h
    exact .inl ⟨rfl, rfl⟩
  · exact .inr (Option.some.inj h)

/-- What is edited further down stands under a key of an object, or in a list. -/
theorem of_editAt?_cons {front : List String} (h : editAt? edit (key :: front) before = some after) :
    (before.isObject = false ∧ after.isObject = false) ∨
      ∃ child edited, before.get? key = some child ∧ editAt? edit front child = some edited ∧
        before.set key edited = after := by
  obtain ⟨child, there, h⟩ := Option.bind_eq_some_iff.mp h
  obtain ⟨edited, inner, h⟩ := Option.bind_eq_some_iff.mp h
  obtain rfl := Option.some.inj h
  cases object : before.isObject with
  | false => exact .inl ⟨rfl, (isObject_withChild ..).trans object⟩
  | true =>
    rw [child?_eq_get? object] at there
    exact .inr ⟨child, edited, there, inner, (withChild_eq_set object).symm⟩

/-! ## What an edit leaves alone -/

namespace SameBut

variable {places later : List (List String)} {middle : Json}

theorem refl (document : Json) : SameBut places document document :=
  fun _ _ => rfl

theorem trans (first : SameBut places before middle) (second : SameBut later middle after) :
    SameBut (places ++ later) before after := fun path apart =>
  (second path fun place mem => apart place (List.mem_append_right _ mem)).trans
    (first path fun place mem => apart place (List.mem_append_left _ mem))

/-- Places may be given by what leads to them. -/
theorem widen (h : SameBut places before after)
    (lead : ∀ place ∈ places, ∃ front ∈ later, front <+: place) : SameBut later before after :=
  fun path apart => h path fun place mem => by
    obtain ⟨front, front_mem, leads⟩ := lead place mem
    exact (apart front front_mem).of_leads leads

/-- **A place taken apart**: where an object is the same but for some of its keys, the places are
these. -/
theorem refine {front : List String} (keys : List String) (some_key : keys ≠ [])
    (h : SameBut (front :: places) before after)
    (within : ∀ key, key ∉ keys →
      after.valueAt? (front ++ [key]) = before.valueAt? (front ++ [key])) :
    SameBut (keys.map (fun key => front ++ [key]) ++ places) before after := by
  intro path apart
  have outside : ∀ key ∈ keys, Apart (front ++ [key]) path := fun key mem =>
    apart _ (List.mem_append_left _ (List.mem_map.mpr ⟨key, mem, rfl⟩))
  obtain ⟨first, first_mem⟩ := List.exists_mem_of_ne_nil keys some_key
  -- A path on the way to the front is on the way to each of the keys.
  have ahead : ¬ path <+: front := fun leads =>
    (outside first first_mem).2 (leads.trans (List.prefix_append front [first]))
  by_cases behind : front <+: path
  · -- The path goes on behind the front, by a key that is none of these.
    obtain ⟨rest, rfl⟩ := behind
    cases rest with
    | nil => exact absurd (by simp) ahead
    | cons key rest =>
      have new : key ∉ keys := fun mem =>
        (outside key mem).1 ⟨rest, by simp⟩
      have split : front ++ key :: rest = (front ++ [key]) ++ rest := by simp
      rw [split, valueAt?_append after, valueAt?_append before, within key new]
  · refine h path fun place mem => ?_
    rcases List.mem_cons.mp mem with rfl | mem
    · exact ⟨behind, ahead⟩
    · exact apart place (List.mem_append_right _ mem)

/-- No path is apart from one to the whole, and none to the whole from any. -/
theorem of_cons
    (h : ∀ key path, Apart place (key :: path) →
      after.valueAt? (key :: path) = before.valueAt? (key :: path)) :
    SameBut [place] before after := by
  intro path apart
  have apart := apart place (List.mem_singleton_self _)
  cases path with
  | nil => exact absurd List.nil_prefix apart.2
  | cons key path => exact h key path apart

/-- Every path leads on from the one to the whole. -/
theorem whole (before after : Json) : SameBut [[]] before after :=
  of_cons fun _ _ apart => absurd List.nil_prefix apart.1

theorem of_not_object (first : before.isObject = false) (last : after.isObject = false) :
    SameBut [place] before after :=
  of_cons fun key path _ => by
    rw [valueAt?, valueAt?, get?_of_not_object first, get?_of_not_object last]

/-- One entry of an object is set. -/
theorem set (document : Json) (key : String) (value : Json) :
    SameBut [[key]] document (document.set key value) :=
  of_cons fun other path apart => by
    rw [valueAt?, valueAt?, get?_set_of_ne _ _ (ne_of_apart_singleton apart)]

/-- One entry of an object is removed. -/
theorem remove (document : Json) (key : String) :
    SameBut [[key]] document (document.remove key) :=
  of_cons fun other path apart => by
    rw [valueAt?, valueAt?, get?_remove, if_neg (ne_of_apart_singleton apart)]

/-- What stands under a key is edited. -/
theorem set_of_get? (there : document.get? key = some child) (h : SameBut [place] child edited) :
    SameBut [key :: place] document (document.set key edited) := by
  refine of_cons fun other path apart => ?_
  by_cases same : key = other
  · subst same
    have inner := h path (by simpa using apart_cons_cons.mp apart rfl)
    rw [valueAt?_cons (get?_set_self (isObject_of_get? there) ..), valueAt?_cons there, inner]
  · rw [valueAt?, valueAt?, get?_set_of_ne _ _ (Ne.symm same)]

/-- An edit further down leaves alone what it leaves alone where it is made. -/
theorem of_editAt?
    (keeps : ∀ {before after}, edit before = some after → SameBut [place] before after)
    (front : List String) (h : editAt? edit front before = some after) :
    SameBut [front ++ place] before after := by
  -- On the way down every key leads on to the edit; the other keys are not touched.
  induction front generalizing before after with
  | nil => exact keeps h
  | cons key front ih =>
    rcases of_editAt?_cons h with ⟨first, last⟩ | ⟨child, edited, there, inner, rfl⟩
    · exact of_not_object first last
    · exact set_of_get? there (ih inner)

theorem of_addChild? (h : addChild? key value before = some after) :
    SameBut [[key]] before after := by
  rcases Json.of_addChild? h with ⟨first, last⟩ | rfl
  · exact of_not_object first last
  · exact set before key value

theorem of_removeChild? (h : removeChild? key before = some after) :
    SameBut [[key]] before after := by
  rcases Json.of_removeChild? h with ⟨first, last⟩ | rfl
  · exact of_not_object first last
  · exact remove before key

end SameBut

/-- A path is its front and its last key. -/
theorem eq_append_of_lastKey? {front : List String} (h : lastKey? path = some (front, key)) :
    path = front ++ [key] := by
  obtain ⟨last, there, same⟩ := Option.map_eq_some_iff.mp h
  obtain ⟨rfl, rfl⟩ := Prod.mk.inj same
  obtain ⟨front, rfl⟩ := List.getLast?_eq_some_iff.mp there
  simp

/-- **An edit leaves alone what is apart from its path.** -/
theorem PatchOperation.sameBut_of_applied? {operation : PatchOperation}
    (h : operation.applied? before = some after) : SameBut [operation.path] before after := by
  cases operation with
  | add path value =>
    cases split : lastKey? path with
    | none =>
      obtain rfl : path = [] := by simpa [lastKey?] using split
      exact .whole before after
    | some parts =>
      obtain ⟨front, key⟩ := parts
      simp only [applied?, split] at h
      rw [PatchOperation.path, eq_append_of_lastKey? split]
      exact .of_editAt? .of_addChild? front h
  | replace path value =>
    simpa [PatchOperation.path] using SameBut.of_editAt? (fun _ => .whole _ _) path h
  | remove path =>
    obtain ⟨⟨front, key⟩, split, h⟩ := Option.bind_eq_some_iff.mp h
    rw [PatchOperation.path, eq_append_of_lastKey? split]
    exact .of_editAt? .of_removeChild? front h

/-- **A patch leaves alone what is apart from its paths.** -/
theorem Patch.sameBut_of_applied? {patch : List PatchOperation}
    (h : Patch.applied? patch before = some after) :
    SameBut (patch.map PatchOperation.path) before after := by
  -- What an edit brings in may be edited again, but only at paths that are counted too.
  induction patch generalizing before with
  | nil =>
    obtain rfl := Option.some.inj h
    exact .refl before
  | cons operation rest ih =>
    rw [applied?_cons] at h
    obtain ⟨middle, first, later⟩ := Option.bind_eq_some_iff.mp h
    exact (PatchOperation.sameBut_of_applied? first).trans (ih later)

/-! ## Keys once throughout -/

/-- The value that an edit brings in. -/
def PatchOperation.value? : PatchOperation → Option Json
  | add _ value | replace _ value => some value
  | remove _ => none

theorem onceThroughout_iff :
    document.OnceThroughout ↔
      document.KeysOnce ∧ ∀ key child, document.get? key = some child → child.OnceThroughout := by
  constructor
  · intro once
    -- A path within a child is one of the document, behind the key.
    refine ⟨once [] document rfl, fun key child there path value below => ?_⟩
    exact once (key :: path) value (by rwa [valueAt?_cons there])
  · rintro ⟨once, within⟩ path value below
    cases path with
    | nil =>
      obtain rfl := Option.some.inj below
      exact once
    | cons key path =>
      obtain ⟨child, there, below⟩ := Option.bind_eq_some_iff.mp below
      exact within key child there path value below

namespace OnceThroughout

theorem of_not_object (h : document.isObject = false) : document.OnceThroughout := by
  refine onceThroughout_iff.mpr ⟨?_, fun key child there => ?_⟩
  · cases document with
    | object => cases h
    | _ => trivial
  · rw [get?_of_not_object h] at there
    cases there

/-- A normal document has no key twice. -/
theorem of_normal (h : document.normal = document) : document.OnceThroughout := by
  intro path value below
  induction path generalizing document with
  | nil =>
    obtain rfl := Option.some.inj below
    exact keysOnce_of_normal h
  | cons key path ih =>
    obtain ⟨child, there, below⟩ := Option.bind_eq_some_iff.mp below
    exact ih (normal_get? h there) below

theorem get? (once : document.OnceThroughout) (there : document.get? key = some child) :
    child.OnceThroughout :=
  (onceThroughout_iff.mp once).2 key child there

theorem set (once : document.OnceThroughout) (key : String) (value_once : value.OnceThroughout) :
    (document.set key value).OnceThroughout := by
  obtain ⟨here, within⟩ := onceThroughout_iff.mp once
  cases object : document.isObject with
  | false => exact of_not_object ((isObject_set ..).trans object)
  | true =>
    refine onceThroughout_iff.mpr ⟨here.set key value, fun other child there => ?_⟩
    rw [get?_set object] at there
    split at there
    · exact Option.some.inj there ▸ value_once
    · exact within other child there

theorem remove (once : document.OnceThroughout) (key : String) :
    (document.remove key).OnceThroughout := by
  obtain ⟨here, within⟩ := onceThroughout_iff.mp once
  refine onceThroughout_iff.mpr ⟨here.remove key, fun other child there => ?_⟩
  rw [get?_remove] at there
  split at there
  · cases there
  · exact within other child there

theorem of_editAt?
    (keeps : ∀ {before after}, edit before = some after → before.OnceThroughout →
      after.OnceThroughout)
    (front : List String) (once : before.OnceThroughout)
    (h : editAt? edit front before = some after) : after.OnceThroughout := by
  induction front generalizing before after with
  | nil => exact keeps h once
  | cons key front ih =>
    rcases of_editAt?_cons h with ⟨-, last⟩ | ⟨child, edited, there, inner, rfl⟩
    · exact of_not_object last
    · exact once.set key (ih (once.get? there) inner)

theorem of_addChild? (value_once : value.OnceThroughout)
    (h : addChild? key value before = some after) (once : before.OnceThroughout) :
    after.OnceThroughout := by
  rcases Json.of_addChild? h with ⟨-, last⟩ | rfl
  · exact of_not_object last
  · exact once.set key value_once

theorem of_removeChild? (h : removeChild? key before = some after)
    (once : before.OnceThroughout) : after.OnceThroughout := by
  rcases Json.of_removeChild? h with ⟨-, last⟩ | rfl
  · exact of_not_object last
  · exact once.remove key

end OnceThroughout

/-- **An edit brings in no key twice**, if there is none in the value that it brings in. -/
theorem PatchOperation.onceThroughout_of_applied? {operation : PatchOperation}
    (brought : ∀ value ∈ operation.value?, value.OnceThroughout)
    (once : before.OnceThroughout) (h : operation.applied? before = some after) :
    after.OnceThroughout := by
  cases operation with
  | add path value =>
    have value_once := brought value rfl
    unfold applied? at h
    cases split : lastKey? path with
    | none =>
      simp only [split] at h
      exact Option.some.inj h ▸ value_once
    | some parts =>
      obtain ⟨front, key⟩ := parts
      simp only [split] at h
      exact .of_editAt? (.of_addChild? value_once) front once h
  | replace path value =>
    have keeps : ∀ {before after : Json}, some value = some after → before.OnceThroughout →
        after.OnceThroughout := fun same _ => Option.some.inj same ▸ brought value rfl
    exact .of_editAt? keeps path once h
  | remove path =>
    obtain ⟨⟨front, key⟩, -, h⟩ := Option.bind_eq_some_iff.mp h
    exact .of_editAt? .of_removeChild? front once h

/-- **A patch brings in no key twice**, if there is none in the values that it brings in. -/
theorem Patch.onceThroughout_of_applied? {patch : List PatchOperation}
    (brought : ∀ operation ∈ patch, ∀ value ∈ operation.value?, value.OnceThroughout)
    (once : before.OnceThroughout) (h : Patch.applied? patch before = some after) :
    after.OnceThroughout := by
  induction patch generalizing before with
  | nil =>
    obtain rfl := Option.some.inj h
    exact once
  | cons operation rest ih =>
    rw [applied?_cons] at h
    obtain ⟨middle, first, later⟩ := Option.bind_eq_some_iff.mp h
    have middle_once := PatchOperation.onceThroughout_of_applied?
      (brought operation (List.mem_cons_self ..)) once first
    exact ih (fun other mem => brought other (List.mem_cons_of_mem _ mem)) middle_once later

end RegistryBridge.Json
