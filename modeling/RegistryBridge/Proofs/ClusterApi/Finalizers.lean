import RegistryBridge.Proofs.Cluster.Finalizers
import RegistryBridge.Proofs.ClusterApi.Served
import RegistryBridge.Settings
/-!
# Edits of the finalizers of a namespace that is served

To hold a finalizer, or to release it, is to look a namespace up and to patch the whole list of its
finalizers. While nobody else writes, the list that is patched is the one that was looked up, so that
such an edit does to what is kept what it does to a list.

## Main definitions

* `FinalizerEdit.attempt`, `ClusterApi.inSuccession`: one edit, and several one after the other.
* `ClusterApi.Leaves`: what an attempt leaves, whatever is answered.

## Main results

* `ClusterApi.always_hold`, `ClusterApi.always_release`: what is asked for one edit.
* `ClusterApi.inSuccession_leaves`: what several edits leave.
* `ClusterApi.finalizers_lawful`
-/

namespace RegistryBridge

/-- The call that makes an edit. -/
def FinalizerEdit.attempt (name : String) : FinalizerEdit → ClusterApi.Attempt Unit
  | hold finalizer => ClusterApi.holdFinalizer name finalizer
  | release finalizer => ClusterApi.releaseFinalizer name finalizer

namespace ClusterApi

/-- **Edits that are made one after the other**, as long as they succeed. -/
def inSuccession (name : String) : List FinalizerEdit → Attempt Unit
  | [] => .done (.ok ())
  | edit :: rest => (edit.attempt name).bind fun result =>
    match result with
    | .ok _ => inSuccession name rest
    | .error e => .done (.error e)

/-- A request that looks a namespace up, or patches its finalizers. -/
def OfFinalizers (name : String) (request : Request) : Prop :=
  request = lookup name ∨ ∃ finalizers, request = amendment name (finalizersPatch finalizers)

variable {name finalizer : String} {stored : StoredNamespace name}
  {asked : Request → Option (StoredNamespace name) → Prop}
  {ends : Except OperationError Unit → Option (StoredNamespace name) → Prop}

/-! ## One edit -/

/-- **A finalizer is held**: nothing is patched if it is there already. -/
theorem always_hold (named : name ≠ "") (ask : asked (lookup name) (some stored))
    (held : finalizer ∈ stored.finalizers → ends (.ok ()) (some stored))
    (patch : finalizer ∉ stored.finalizers →
      asked (amendment name (finalizersPatch (stored.finalizers ++ [finalizer]))) (some stored))
    (patched : finalizer ∉ stored.finalizers → ∀ next : StoredNamespace name,
      next.finalizers = stored.finalizers ++ [finalizer] → ends (.ok ()) (some next)) :
    (holdFinalizer name finalizer).Always (serving name) asked ends (some stored) := by
  refine (Program.always_bind _ _ _).mpr (always_get named ask ?_ nofun)
  rintro s ⟨⟩
  -- What has been looked up is still what is kept when the patch is sent.
  by_cases there : finalizer ∈ stored.finalizers
  · have finalized := (stored.finalizedBy_eq_true_iff finalizer).mpr there
    simp only [finalized, if_true]
    exact held there
  · have unfinalized : ¬ stored.value.metadata.finalizedBy finalizer = true :=
      fun h => there ((stored.finalizedBy_eq_true_iff finalizer).mp h)
    have list : Finalizers.hold stored.value.metadata.finalizerList finalizer =
        stored.finalizers ++ [finalizer] := Finalizers.hold_of_not_mem there
    simp only [if_neg unfinalized, list]
    exact always_amend named _ (patch there) (patched there)

/-- **A finalizer is released**: the list is patched whether it was there or not. -/
theorem always_release (named : name ≠ "") (ask : asked (lookup name) (some stored))
    (patch : asked (amendment name
      (finalizersPatch (Finalizers.release stored.finalizers finalizer))) (some stored))
    (patched : ∀ next : StoredNamespace name,
      next.finalizers = Finalizers.release stored.finalizers finalizer →
        ends (.ok ()) (some next)) :
    (releaseFinalizer name finalizer).Always (serving name) asked ends (some stored) := by
  refine (Program.always_bind _ _ _).mpr (always_find named ask ?_)
  exact always_amend named _ patch patched

/-- Where there is no namespace, there is nothing to release. -/
theorem always_release_none (named : name ≠ "") (ask : asked (lookup name) none)
    (gone : ends (.ok ()) none) :
    (releaseFinalizer name finalizer).Always (serving name) asked ends none := by
  refine (Program.always_bind _ _ _).mpr (always_find named ask ?_)
  exact gone

/-! ## What is left -/

/-- **What an attempt leaves**, whatever the cluster answers: it succeeds, it asks for nothing but the
namespace and its finalizers, and what is kept then is such a namespace. -/
def Leaves (attempt : Attempt Unit) (stored : StoredNamespace name)
    (left : StoredNamespace name → Prop) : Prop :=
  attempt.Always (serving name) (fun (request : Request) _ => OfFinalizers name request)
    (fun result after => result = .ok () ∧ ∃ next, after = some next ∧ left next) (some stored)

variable {attempt : Attempt Unit} {left left' : StoredNamespace name → Prop}

theorem Leaves.mono (h : Leaves attempt stored left) (wider : ∀ next, left next → left' next) :
    Leaves attempt stored left' := by
  refine Program.Always.mono h (fun _ _ => id) ?_
  rintro result after ⟨succeeded, next, rfl, there⟩
  exact ⟨succeeded, next, rfl, wider next there⟩

/-- There is some namespace that is left. -/
theorem Leaves.exists_left (h : Leaves attempt stored left) : ∃ next, left next := by
  obtain ⟨result, after, run⟩ := Program.exists_ends (serving name) attempt (some stored)
  obtain ⟨-, next, -, there⟩ := Program.Always.of_ends h run
  exact ⟨next, there⟩

/-- No attempt leaves two lists. -/
theorem Leaves.finalizers_eq {first second : List String}
    (h : Leaves attempt stored (·.finalizers = first))
    (h' : Leaves attempt stored (·.finalizers = second)) : first = second := by
  have both : Leaves attempt stored fun next => next.finalizers = first ∧ next.finalizers = second := by
    refine Program.Always.mono (Program.Always.and h h') (fun _ _ asked => asked.1) ?_
    rintro result after ⟨⟨succeeded, next, rfl, one⟩, -, _, ⟨⟩, other⟩
    exact ⟨succeeded, next, rfl, one, other⟩
  obtain ⟨next, one, other⟩ := both.exists_left
  exact one.symm.trans other

theorem Leaves.iff {first second : List String}
    (h : Leaves attempt stored (·.finalizers = first)) :
    Leaves attempt stored (·.finalizers = second) ↔ first = second := by
  constructor
  · exact h.finalizers_eq
  · rintro rfl
    exact h

/-- **One edit** leaves the list behind it. -/
theorem attempt_leaves (named : name ≠ "") (stored : StoredNamespace name) (edit : FinalizerEdit) :
    Leaves (edit.attempt name) stored
      (·.finalizers = FinalizerEdit.applied stored.finalizers edit) := by
  cases edit with
  | hold finalizer =>
    refine always_hold named (.inl rfl) (fun there => ?_) (fun _ => .inr ⟨_, rfl⟩) ?_
    · exact ⟨rfl, stored, rfl, (Finalizers.hold_of_mem there).symm⟩
    · intro absent next same
      exact ⟨rfl, next, rfl, same.trans (Finalizers.hold_of_not_mem absent).symm⟩
  | release finalizer =>
    exact always_release named (.inl rfl) (.inr ⟨_, rfl⟩) fun next same => ⟨rfl, next, rfl, same⟩

/-- **Several edits**, one after the other, leave the list behind them all. -/
theorem inSuccession_leaves (named : name ≠ "") (stored : StoredNamespace name)
    (edits : List FinalizerEdit) :
    Leaves (inSuccession name edits) stored
      (·.finalizers = edits.foldl FinalizerEdit.applied stored.finalizers) := by
  induction edits generalizing stored with
  | nil => exact ⟨rfl, stored, rfl, rfl⟩
  | cons edit rest ih =>
    refine (Program.always_bind _ _ _).mpr ?_
    refine Program.Always.mono (attempt_leaves named stored edit) (fun _ _ => id) ?_
    rintro result after ⟨rfl, next, rfl, same⟩
    -- The rest starts from what the first edit has left.
    rw [List.foldl_cons, ← same]
    exact ih next

/-- **Edits of finalizers through the cluster's interface.** A finalizer that a namespace has is held by
looking it up, and what is kept stays as it is; any other is put at the end of the list. A finalizer is
released wherever and however often it is on the list, and where there is no namespace it is released
without a patch. Holding a finalizer twice leaves what holding it once leaves, and releasing one that
has just been held what releasing it leaves. After any edits, each finalizer is there if it was held
last, or was there at first and has not been edited; those that have not been edited stand in the order
in which they stood, each as often as before. -/
theorem finalizers_lawful (named : name ≠ "") (finalizer : String) :
    (∀ stored : StoredNamespace name,
      (finalizer ∈ stored.finalizers →
        (holdFinalizer name finalizer).Always (serving name)
          (fun (request : Request) _ => request = lookup name)
          (fun result after => result = .ok () ∧ after = some stored) (some stored)) ∧
      (finalizer ∉ stored.finalizers →
        Leaves (holdFinalizer name finalizer) stored
          (·.finalizers = stored.finalizers ++ [finalizer])) ∧
      Leaves (releaseFinalizer name finalizer) stored
        (·.finalizers = stored.finalizers.filter (· ≠ finalizer)) ∧
      (∀ list,
        Leaves (inSuccession name [.hold finalizer, .hold finalizer]) stored (·.finalizers = list) ↔
          Leaves (holdFinalizer name finalizer) stored (·.finalizers = list)) ∧
      (∀ list,
        Leaves (inSuccession name [.hold finalizer, .release finalizer]) stored
            (·.finalizers = list) ↔
          Leaves (releaseFinalizer name finalizer) stored (·.finalizers = list)) ∧
      ∀ edits, Leaves (inSuccession name edits) stored fun next =>
        next.finalizers.filter (FinalizerEdit.spares edits) =
            stored.finalizers.filter (FinalizerEdit.spares edits) ∧
          ∀ one, next.value.metadata.finalizedBy one = true ↔
            FinalizerEdit.last? edits one = some (.hold one) ∨
              FinalizerEdit.last? edits one = none ∧ one ∈ stored.finalizers) ∧
    (releaseFinalizer name finalizer).Always (serving name)
      (fun (request : Request) _ => request = lookup name)
      (fun result after => result = .ok () ∧ after = none) none := by
  refine ⟨fun stored => ?_, always_release_none named rfl ⟨rfl, rfl⟩⟩
  have holding : Leaves (holdFinalizer name finalizer) stored
      (·.finalizers = Finalizers.hold stored.finalizers finalizer) :=
    attempt_leaves named stored (.hold finalizer)
  have releasing : Leaves (releaseFinalizer name finalizer) stored
      (·.finalizers = Finalizers.release stored.finalizers finalizer) :=
    attempt_leaves named stored (.release finalizer)
  refine ⟨fun there => ?_, fun absent => ?_, releasing, fun list => ?_, fun list => ?_,
    fun edits => ?_⟩
  · exact always_hold named rfl (fun _ => ⟨rfl, rfl⟩) (absurd there) (absurd there)
  · rwa [Finalizers.hold_of_not_mem absent] at holding
  · have twice := inSuccession_leaves named stored [.hold finalizer, .hold finalizer]
    rw [twice.iff, holding.iff]
    simp only [List.foldl_cons, List.foldl_nil, FinalizerEdit.applied, Finalizers.hold_hold]
  · have undone := inSuccession_leaves named stored [.hold finalizer, .release finalizer]
    rw [undone.iff, releasing.iff]
    simp only [List.foldl_cons, List.foldl_nil, FinalizerEdit.applied, Finalizers.release_hold]
  · refine (inSuccession_leaves named stored edits).mono fun next same => ⟨?_, fun one => ?_⟩
    · rw [same]
      exact FinalizerEdit.filter_spares_foldl_applied
    · rw [next.finalizedBy_eq_true_iff, same]
      exact FinalizerEdit.mem_foldl_applied_iff

/-- A namespace that another controller has marked twice, and one more once. -/
def payments : StoredNamespace "payments" :=
  .bare "payments" ["kubernetes", "example.com/mirror", "kubernetes"]

/-- What is not the bridge's stays as it was, the second mark too; and the other controller takes both
of its marks off. -/
theorem finalizers_lawful_payments :
    "payments" ≠ "" ∧ Marks.finalizer ∉ payments.finalizers ∧
      Leaves (holdFinalizer "payments" Marks.finalizer) payments
        (·.finalizers = ["kubernetes", "example.com/mirror", "kubernetes", Marks.finalizer]) ∧
      "kubernetes" ∈ payments.finalizers ∧
      (holdFinalizer "payments" "kubernetes").Always (serving "payments")
        (fun (request : Request) _ => request = lookup "payments")
        (fun result after => result = .ok () ∧ after = some payments) (some payments) ∧
      Leaves (releaseFinalizer "payments" "kubernetes") payments
        (·.finalizers = ["example.com/mirror"]) := by
  have named : "payments" ≠ "" := by decide
  have absent : Marks.finalizer ∉ payments.finalizers := by decide
  have there : "kubernetes" ∈ payments.finalizers := by decide
  obtain ⟨-, held, -⟩ := (finalizers_lawful named Marks.finalizer).1 payments
  obtain ⟨kept, -, released, -⟩ := (finalizers_lawful named "kubernetes").1 payments
  exact ⟨named, absent, held absent, there, kept there, released⟩

end ClusterApi

end RegistryBridge
