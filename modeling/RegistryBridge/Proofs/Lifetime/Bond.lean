import RegistryBridge.Proofs.Cluster.Finalizers
import RegistryBridge.Proofs.World.Conduct
import RegistryBridge.Settings
/-!
# A namespace, its organization and the finalizer between them

The organization of a namespace is in the registry, the namespace in the cluster, and nothing but the
finalizer ties the one to the other. Whoever else edits the cluster leaves the bridge's finalizer
alone, and makes no organization.

## Main definitions

* `Bond`: a namespace and what its organization is called by.
* `Bond.Held`, `Bond.Absent`: the finalizer is there; the organization is not.
* `Bond.Kept`: the invariant: no organization without the finalizer.
* `Bond.Edit`: what others may do.

## Main results

* `Bond.Fixed.keep`, `Bond.Held.keep`, `Bond.Absent.keep`: what a question may take away.
-/

namespace RegistryBridge

/-- A question that lets a finalizer go. -/
def Question.releases : Question → Bool
  | cluster (.releaseFinalizer ..) => true
  | _ => false

/-- A question that makes an organization. -/
def Question.founds : Question → Bool
  | registry (.createOrganization _) => true
  | _ => false

/-- **A namespace and what its organization is called by**: the name of the cluster in the
integration. The registry is the one with this name. -/
structure Bond where
  ns : String
  clusterId : String
  hostname : String

namespace Bond

variable (b : Bond)

/-- The organization of the namespace. -/
def organization : String :=
  organizationName b.clusterId b.ns

/-- The namespace is there and carries the finalizer. -/
def Held (w : World) : Prop :=
  ∃ n, w.cluster.namespaces.get? b.ns = some n ∧ n.metadata.finalizedBy Marks.finalizer = true

/-- The organization is not there. -/
def Absent (w : World) : Prop :=
  w.registry.organizations.contains b.organization = false

/-- What never changes: the namespace is stored under its name, and every integration names the
cluster and the registry as ever. -/
structure Fixed (w : World) : Prop where
  named : ∀ n, w.cluster.namespaces.get? b.ns = some n → n.metadata.displayName = b.ns
  bound : ∀ i ∈ w.cluster.integrations, i.spec.clusterId = b.clusterId ∧ i.spec.hostname = b.hostname

/-- **No organization without the finalizer.** -/
structure Kept (w : World) : Prop where
  fixed : b.Fixed w
  guarded : b.Absent w ∨ b.Held w

/-- **What others may do**: anything but to take the finalizer away, to make the organization, or to
name the cluster or the registry otherwise. -/
structure Edit (w after : World) : Prop where
  fixed : b.Fixed after
  held : b.Held w → b.Held after
  absent : b.Absent w → b.Absent after

variable {b} {w after : World} {question : Question} {reply : question.Answer}

/-- What others do keeps the invariant. -/
theorem Edit.kept (h : b.Edit w after) (kept : b.Kept w) : b.Kept after :=
  ⟨h.fixed, kept.guarded.imp h.absent h.held⟩

/-! ## Edits of the namespace and of the integrations -/

/-- A namespace that stays under its name and keeps the finalizer is edited, in whatever else: its
annotations, or the time at which its deletion was asked for. -/
theorem edit_namespace {n : Namespace} (fixed : b.Fixed w) (named : n.metadata.displayName = b.ns)
    (held : b.Held w → n.metadata.finalizedBy Marks.finalizer = true) :
    b.Edit w { w with cluster := { w.cluster with
      namespaces := w.cluster.namespaces.insert b.ns n } } where
  fixed :=
    { fixed with
      named := by
        intro other stored
        rw [Table.get?_insert_self] at stored
        exact Option.some.inj stored ▸ named }
  held h := ⟨n, Table.get?_insert_self _ _ _, held h⟩
  absent := id

/-- The integrations are edited, in whatever but the cluster's name and the registry's. -/
theorem edit_integrations (integrations : List Integration) (fixed : b.Fixed w)
    (bound : ∀ i ∈ integrations, i.spec.clusterId = b.clusterId ∧ i.spec.hostname = b.hostname) :
    b.Edit w { w with cluster := { w.cluster with integrations } } where
  fixed := { fixed with bound }
  held := id
  absent := id

/-! ## What a question may take away -/

/-- A namespace is stored under its name whatever is done with its finalizers. -/
theorem named_insert {table : Table Namespace} {n : Namespace} {name : String}
    {finalizers : List String}
    (named : ∀ n, table.get? b.ns = some n → n.metadata.displayName = b.ns)
    (stored : table.get? name = some n) (other : Namespace)
    (h : (table.insert name (ClusterStore.refinalized n finalizers)).get? b.ns = some other) :
    other.metadata.displayName = b.ns := by
  rw [Table.get?_insert] at h
  split at h
  · subst name
    obtain rfl := Option.some.inj h
    exact named n stored
  · exact named other h

/-- **What is fixed, no question changes.** -/
theorem Fixed.keep (allowed : (World.disturbed b.Edit).allows question w reply after)
    (h : b.Fixed w) : b.Fixed after := by
  refine World.keep_of_disturbed allowed (fun _ _ edit _ => edit.fixed) ?_ h
  -- Only the calls on finalizers write namespaces, and none writes integrations.
  intro w reply after honest h
  cases question with
  | registry call =>
    obtain ⟨_, registry, -, -, rfl⟩ := honest
    exact ⟨h.named, h.bound⟩
  | connect =>
    obtain ⟨-, rfl⟩ := honest
    exact h
  | publish =>
    obtain rfl := honest
    exact h
  | cluster call =>
    obtain ⟨-, rfl⟩ := honest
    cases call with
    | holdFinalizer name finalizer =>
      simp only [ClusterStore.answer, ClusterStore.held]
      split
      · exact ⟨fun _ => named_insert h.named ‹_› _, h.bound⟩
      · exact h
    | releaseFinalizer name finalizer =>
      simp only [ClusterStore.answer, ClusterStore.released]
      split
      · exact ⟨fun _ => named_insert h.named ‹_› _, h.bound⟩
      · exact h
    | noteBuild ns name key value =>
      simp only [ClusterStore.answer, ClusterStore.noted]
      split
      · exact ⟨h.named, h.bound⟩
      · exact h
    | _ => exact ⟨h.named, h.bound⟩

theorem finalizedBy_hold {n : Namespace} (finalizer : String)
    (held : n.metadata.finalizedBy Marks.finalizer = true) :
    (ClusterStore.refinalized n
      (Finalizers.hold n.metadata.finalizerList finalizer)).metadata.finalizedBy Marks.finalizer =
        true := by
  have mem : Marks.finalizer ∈ n.metadata.finalizerList := by
    simpa [Metadata.finalizedBy] using held
  have still : Marks.finalizer ∈ Finalizers.hold n.metadata.finalizerList finalizer :=
    Finalizers.mem_hold_iff.mpr (.inr mem)
  simpa [Metadata.finalizedBy, Metadata.finalizerList, ClusterStore.refinalized] using still

/-- **A finalizer that is held stays**, unless the question is to let one go. -/
theorem Held.keep (gentle : question.releases = false)
    (allowed : (World.disturbed b.Edit).allows question w reply after) (h : b.Held w) :
    b.Held after := by
  refine World.keep_of_disturbed allowed (fun _ _ edit => edit.held) ?_ h
  rintro w reply after honest ⟨n, stored, held⟩
  cases question with
  | registry call =>
    obtain ⟨_, registry, -, -, rfl⟩ := honest
    exact ⟨n, stored, held⟩
  | connect =>
    obtain ⟨-, rfl⟩ := honest
    exact ⟨n, stored, held⟩
  | publish =>
    obtain rfl := honest
    exact ⟨n, stored, held⟩
  | cluster call =>
    obtain ⟨-, rfl⟩ := honest
    cases call with
    | releaseFinalizer => cases gentle
    | holdFinalizer name finalizer =>
      simp only [ClusterStore.answer, ClusterStore.held]
      split
      · rename_i other there
        unfold Held
        simp only [Table.get?_insert]
        split
        · subst name
          obtain rfl := Option.some.inj (stored.symm.trans there)
          exact ⟨_, rfl, finalizedBy_hold finalizer held⟩
        · exact ⟨n, stored, held⟩
      · exact ⟨n, stored, held⟩
    | noteBuild ns name key value =>
      simp only [ClusterStore.answer, ClusterStore.noted]
      split
      · exact ⟨n, stored, held⟩
      · exact ⟨n, stored, held⟩
    | _ => exact ⟨n, stored, held⟩

/-- **An organization that is absent stays so**, unless the question is to make one. -/
theorem Absent.keep (gentle : question.founds = false)
    (allowed : (World.disturbed b.Edit).allows question w reply after) (h : b.Absent w) :
    b.Absent after := by
  refine World.keep_of_disturbed allowed (fun _ _ edit => edit.absent) ?_ h
  intro w reply after honest h
  cases question with
  | cluster call =>
    obtain ⟨-, rfl⟩ := honest
    exact h
  | connect =>
    obtain ⟨-, rfl⟩ := honest
    exact h
  | publish =>
    obtain rfl := honest
    exact h
  | registry call =>
    obtain ⟨response, registry, honest, -, rfl⟩ := honest
    cases call with
    | createOrganization => cases gentle
    | deleteOrganization o =>
      simp only [RegistryStore.Honest] at honest
      split at honest
      · obtain ⟨-, rfl⟩ := honest
        unfold Absent Table.contains at *
        rw [Table.get?_erase]
        split
        · rfl
        · exact h
      · obtain ⟨-, rfl⟩ := honest
        exact h
    | createRobot | createPrototype =>
      obtain ⟨_, _, _, rfl⟩ := honest
      exact h
    | createRepository =>
      obtain ⟨-, rfl⟩ := honest
      exact h
    | _ =>
      obtain ⟨-, rfl⟩ := honest
      exact h

/-- The invariant is kept by every question that neither lets a finalizer go nor makes an
organization. -/
theorem Kept.keep (stays : question.releases = false) (gentle : question.founds = false)
    (allowed : (World.disturbed b.Edit).allows question w reply after) (h : b.Kept w) :
    b.Kept after :=
  ⟨h.fixed.keep allowed, h.guarded.imp (Absent.keep gentle allowed) (Held.keep stays allowed)⟩

end Bond

end RegistryBridge
