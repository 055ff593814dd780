import Mathlib.Data.List.Induction
import RegistryBridge.Cluster.Metadata
/-!
# Edits of a list of finalizers

A list of finalizers belongs to many: who puts a finalizer of its own on the list, or takes it off,
leaves those of others where they are and as many as they are. What was done last with a finalizer
decides whether it is on the list.

## Main definitions

* `FinalizerEdit`: a finalizer is held or released.
* `FinalizerEdit.spares`: whether several edits are all of other finalizers.
* `FinalizerEdit.last?`: the last of several edits of a finalizer.

## Main results

* `Finalizers.hold_hold`, `Finalizers.release_hold`: an edit undoes what was done with the finalizer
  before.
* `FinalizerEdit.filter_spares_foldl_applied`: several edits leave the finalizers of others alone.
* `FinalizerEdit.mem_foldl_applied_iff`: what was done last counts.
-/

namespace RegistryBridge

namespace Finalizers

variable {finalizers : List String} {finalizer other : String}

theorem hold_of_mem (h : finalizer ∈ finalizers) : hold finalizers finalizer = finalizers := by
  simp [hold, h]

theorem hold_of_not_mem (h : finalizer ∉ finalizers) :
    hold finalizers finalizer = finalizers ++ [finalizer] := by
  simp [hold, h]

theorem mem_hold_iff : other ∈ hold finalizers finalizer ↔ other = finalizer ∨ other ∈ finalizers := by
  by_cases h : finalizer ∈ finalizers
  · rw [hold_of_mem h]
    constructor
    · exact .inr
    · rintro (rfl | mem)
      · exact h
      · exact mem
  · rw [hold_of_not_mem h]
    simp [or_comm]

theorem mem_release_iff :
    other ∈ release finalizers finalizer ↔ other ≠ finalizer ∧ other ∈ finalizers := by
  simp [release, and_comm]

/-- **Holding a finalizer twice** is holding it once. -/
theorem hold_hold : hold (hold finalizers finalizer) finalizer = hold finalizers finalizer :=
  hold_of_mem (mem_hold_iff.mpr (.inl rfl))

/-- **A finalizer that is released once it is held** leaves no more than one that is released. -/
theorem release_hold : release (hold finalizers finalizer) finalizer = release finalizers finalizer := by
  by_cases h : finalizer ∈ finalizers
  · rw [hold_of_mem h]
  · rw [hold_of_not_mem h]
    simp [release]

variable {foreign : String → Bool}

/-- Who holds a finalizer leaves those of others alone: their order, and how many there are. -/
theorem filter_hold (own : foreign finalizer = false) :
    (hold finalizers finalizer).filter foreign = finalizers.filter foreign := by
  by_cases h : finalizer ∈ finalizers
  · rw [hold_of_mem h]
  · rw [hold_of_not_mem h]
    simp [own]

/-- And so does who releases one. -/
theorem filter_release (own : foreign finalizer = false) :
    (release finalizers finalizer).filter foreign = finalizers.filter foreign := by
  unfold release
  rw [List.filter_filter]
  refine List.filter_congr fun other _ => ?_
  by_cases same : other = finalizer
  · simp [same, own]
  · simp [same]

end Finalizers

/-- **An edit of a list of finalizers**: one of them is held, or released. -/
inductive FinalizerEdit where
  | hold (finalizer : String)
  | release (finalizer : String)
  deriving DecidableEq, Repr

namespace FinalizerEdit

variable {finalizers : List String} {finalizer : String} {edits : List FinalizerEdit}

/-- The finalizer that an edit is about. -/
def subject : FinalizerEdit → String
  | hold finalizer | release finalizer => finalizer

/-- The list behind an edit. -/
def applied (finalizers : List String) : FinalizerEdit → List String
  | hold finalizer => Finalizers.hold finalizers finalizer
  | release finalizer => Finalizers.release finalizers finalizer

/-- **The last edit of a finalizer**, if there is one. -/
def last? (edits : List FinalizerEdit) (finalizer : String) : Option FinalizerEdit :=
  edits.reverse.find? (·.subject = finalizer)

/-- **Whether edits spare a finalizer**: all of them are of others. -/
def spares (edits : List FinalizerEdit) (finalizer : String) : Bool :=
  edits.all (·.subject ≠ finalizer)

theorem mem_applied_iff (edit : FinalizerEdit) :
    finalizer ∈ applied finalizers edit ↔
      edit = .hold finalizer ∨ edit.subject ≠ finalizer ∧ finalizer ∈ finalizers := by
  cases edit with
  | hold own =>
    rw [applied, Finalizers.mem_hold_iff, hold.injEq, subject]
    by_cases same : own = finalizer
    · simp [same]
    · simp [same, Ne.symm same]
  | release own =>
    rw [applied, Finalizers.mem_release_iff, subject]
    simp [eq_comm]

theorem filter_applied {foreign : String → Bool} (edit : FinalizerEdit)
    (own : foreign edit.subject = false) :
    (applied finalizers edit).filter foreign = finalizers.filter foreign := by
  cases edit with
  | hold => exact Finalizers.filter_hold own
  | release => exact Finalizers.filter_release own

theorem last?_snoc (edits : List FinalizerEdit) (edit : FinalizerEdit) (finalizer : String) :
    last? (edits ++ [edit]) finalizer =
      if edit.subject = finalizer then some edit else last? edits finalizer := by
  simp only [last?, List.reverse_append, List.reverse_singleton, List.singleton_append,
    List.find?_cons]
  by_cases own : edit.subject = finalizer
  · simp [own]
  · simp [own]

theorem filter_foldl_applied {foreign : String → Bool}
    (own : ∀ edit ∈ edits, foreign edit.subject = false) :
    (edits.foldl applied finalizers).filter foreign = finalizers.filter foreign := by
  induction edits generalizing finalizers with
  | nil => rfl
  | cons edit rest ih =>
    rw [List.foldl_cons, ih fun later mem => own later (List.mem_cons_of_mem _ mem)]
    exact filter_applied edit (own edit (List.mem_cons_self ..))

/-- **The finalizers that several edits spare** stand in the order in which they stood, and are as
many. -/
theorem filter_spares_foldl_applied :
    (edits.foldl applied finalizers).filter (spares edits) = finalizers.filter (spares edits) := by
  refine filter_foldl_applied fun edit mem => ?_
  simpa [spares] using ⟨edit, mem, rfl⟩

/-- **What was done last counts**: a finalizer is on the list if it was held last, or was there when
nothing was done with it. -/
theorem mem_foldl_applied_iff :
    finalizer ∈ edits.foldl applied finalizers ↔
      last? edits finalizer = some (.hold finalizer) ∨
        last? edits finalizer = none ∧ finalizer ∈ finalizers := by
  -- The last edit is about the finalizer, or it leaves it to those before.
  induction edits using List.reverseRecOn with
  | nil => simp [last?]
  | append_singleton edits edit ih =>
    rw [List.foldl_append, List.foldl_cons, List.foldl_nil, mem_applied_iff, ih, last?_snoc]
    by_cases own : edit.subject = finalizer
    · simp [own]
    · have other : edit ≠ .hold finalizer := by
        rintro rfl
        exact own rfl
      simp [own, other]

end FinalizerEdit

end RegistryBridge
