import Mathlib.Tactic.SplitIfs
import RegistryBridge.Proofs.Lifetime.Bond
import RegistryBridge.Proofs.Provisioning.Convergence
import RegistryBridge.Proofs.Provisioning.Loses
/-!
# No organization is left behind

A namespace is passed over again and again, while others edit it and the policy, and while any call
may fail, and service accounts may take turns in any way. The bridge makes an organization only under a finalizer that it holds, and lets the
finalizer go only when the organization is gone, whatever the policy says by then.

## Main definitions

* `Bond.Safe`: a finalizer is let go only when the organization is absent.
* `Bond.Lifetime`: the worlds that any run of passes and edits leads to.

## Main results

* `Bond.passBy_always`: a pass keeps the invariant, and is safe.
* `Bond.no_organization_left_behind`
-/

namespace RegistryBridge

/-- A namespace that is provisioned carries the finalizer. -/
theorem NamespacePhase.finalizedBy_of_managed {n : Namespace} {allowed : Bool}
    (h : of n allowed = .managed) : n.metadata.finalizedBy Marks.finalizer = true := by
  unfold of at h
  dsimp only at h
  split_ifs at h with _ _ _ held
  exact held

namespace Bond

open Step

variable {b : Bond} {w : World} {n : Namespace} {object : ObjectReference}

/-- **A finalizer is let go only when the organization is absent.** -/
def Safe (b : Bond) (question : Question) (w : World) : Prop :=
  question.releases = true → b.Absent w

/-- What holds during a pass over a namespace as it was at the start: the invariant, and the
finalizer is still there if it was there then. -/
def During (b : Bond) (n : Namespace) (w : World) : Prop :=
  b.Kept w ∧ (n.metadata.finalizedBy Marks.finalizer = true → b.Held w)

/-- A question that neither lets a finalizer go nor makes an organization. -/
def Harmless (question : Question) : Prop :=
  question.releases = false ∧ question.founds = false

theorem Safe.of_stays {question : Question} (stays : question.releases = false) :
    b.Safe question w := by
  intro releases
  rw [stays] at releases
  cases releases

/-! ## Steps -/

theorem During.keep {question : Question} {reply : question.Answer} {after : World}
    (harmless : Harmless question)
    (allowed : (World.disturbed b.Edit).allows question w reply after) (h : b.During n w) :
    b.During n after :=
  ⟨h.1.keep harmless.1 harmless.2 allowed, fun held => (h.2 held).keep harmless.1 allowed⟩

/-- A step without harmful questions keeps what holds during the pass. -/
theorem During.step {α : Type} {step : Step α} (only : step.Only Harmless) (h : b.During n w) :
    step.Always (World.disturbed b.Edit) b.Safe (fun _ after => b.During n after)
      (fun _ after => b.During n after) w :=
  (only.always (fun _ _ _ _ harmless allowed => During.keep harmless allowed) h).mono
    (fun _ _ harmless => .of_stays harmless.1) (fun _ _ => id) fun _ _ => id

theorem harmless_of_opening {question : Question} (h : Pass.Opening question) :
    Harmless question := by
  cases h <;> exact ⟨rfl, rfl⟩

/-- The integration that a pass goes by names the cluster as ever. -/
theorem During.integration (h : b.During n w) :
    (Pass.integration object).Always (World.disturbed b.Edit) b.Safe
      (fun i after => b.During n after ∧ i.spec.clusterId = b.clusterId)
      (fun _ after => b.During n after) w := by
  unfold Pass.integration
  rw [always_bind, always_cluster]
  refine ⟨.of_stays rfl, fun reply after allowed => ?_⟩
  have during : b.During n after := During.keep ⟨rfl, rfl⟩ allowed h
  obtain ⟨middle, -, ⟨rfl, rfl⟩ | ⟨-, ⟨e, rfl⟩, -⟩⟩ := allowed
  · cases chosen : Integration.required object middle.cluster.integrations with
    | error failure =>
      simp only [ClusterStore.answer, chosen]
      exact during
    | ok i =>
      have mem : i ∈ middle.cluster.integrations := by
        simp [Integration.eq_of_required chosen]
      simp only [ClusterStore.answer, chosen]
      exact ⟨during, (during.1.fixed.bound i mem).1⟩
  · exact during

/-- The organization is deleted, or the pass is lost. -/
theorem During.deletion {failure : RegistryError → Failure} {lacking : Nat → Failure}
    {note : String} (h : b.During n w) :
    (do
      let gone ← Step.registry (.deleteOrganization b.organization) failure
      if gone.status ≠ 204 then Step.fail (lacking gone.status)
      Step.tell .organizationDeleted object note : Step Unit).Always
      (World.disturbed b.Edit) b.Safe (fun _ after => b.During n after ∧ b.Absent after)
      (fun _ after => b.During n after) w := by
  rw [always_bind, always_registry]
  refine ⟨.of_stays rfl, fun reply after allowed => ?_⟩
  have during : b.During n after := During.keep ⟨rfl, rfl⟩ allowed h
  have lost : ∀ status, (Step.fail (lacking status) >>= fun (_ : Unit) =>
      Step.tell .organizationDeleted object note).Always (World.disturbed b.Edit) b.Safe
        (fun _ after => b.During n after ∧ b.Absent after) (fun _ after => b.During n after)
        after := fun _ => during
  -- Of the answers only the honest status of success lets the step end with a value.
  obtain ⟨middle, -, ⟨response, registry, honest, rfl, rfl⟩ | ⟨-, fails, -⟩⟩ := allowed
  · simp only [RegistryStore.Honest] at honest
    split at honest
    · obtain ⟨status, rfl⟩ := honest
      have absent : b.Absent { middle with registry := { middle.registry with
          organizations := middle.registry.organizations.erase b.organization } } := by
        simp [Absent, Table.contains, Table.get?_erase]
      dsimp only
      rw [if_neg (by simpa using status), always_tell]
      exact ⟨.of_stays rfl, fun _ last allowed =>
        ⟨during.keep ⟨rfl, rfl⟩ allowed, absent.keep rfl allowed⟩⟩
    · obtain ⟨status, rfl⟩ := honest
      dsimp only
      rw [if_pos (by simp [status])]
      exact lost _
  · rcases fails with ⟨e, rfl⟩ | ⟨response, rfl, status⟩
    · exact during
    · dsimp only
      rw [if_pos (by simpa [RegistryCall.telling] using status)]
      exact lost _

/-- **The organization is gone at the end**, or the pass is lost. -/
theorem During.dropOrganization (h : b.During n w) :
    (NamespacePass.dropOrganization object b.organization).Always (World.disturbed b.Edit) b.Safe
      (fun _ after => b.During n after ∧ b.Absent after) (fun _ after => b.During n after) w := by
  unfold NamespacePass.dropOrganization
  rw [always_bind, always_registry]
  refine ⟨.of_stays rfl, fun reply after allowed => ?_⟩
  have during : b.During n after := During.keep ⟨rfl, rfl⟩ allowed h
  obtain ⟨middle, -, ⟨response, registry, honest, rfl, rfl⟩ | ⟨-, fails, -⟩⟩ := allowed
  · simp only [RegistryStore.Honest] at honest
    obtain ⟨status, rfl⟩ := honest
    dsimp only
    split at status
    · rw [if_neg (by simp [status]), if_pos status]
      exact during.deletion
    · rename_i missing
      rw [if_pos status]
      exact ⟨during, Bool.eq_false_iff.mpr missing⟩
  · rcases fails with ⟨e, rfl⟩ | ⟨response, rfl, status⟩
    · exact during
    · obtain ⟨noHit, noMiss⟩ := RegistryCall.notMem_telling_getOrganization.mp status
      dsimp only
      rw [if_neg noMiss, if_neg noHit]
      exact during

/-! ## Phases -/

section Phases

variable {spec : IntegrationSpec} {name : String}

theorem During.takeIn (h : b.During n w) :
    (NamespacePass.takeIn object spec name).Always (World.disturbed b.Edit) b.Safe
      (fun _ after => b.During n after) (fun _ after => b.During n after) w := by
  refine h.step (.bind (.cluster ⟨rfl, rfl⟩) fun _ => ?_)
  exact .bind (.tell ⟨rfl, rfl⟩) fun _ => .pure _

/-- **A namespace is let go** only when its organization is gone. -/
theorem During.release (h : b.During n w) (own : spec.organization name = b.organization) :
    (NamespacePass.release object spec name).Always (World.disturbed b.Edit) b.Safe
      (fun _ after => b.Kept after) (fun _ after => b.Kept after) w := by
  unfold NamespacePass.release
  rw [own, always_bind]
  refine (h.step (Pass.connect_only.mono fun _ => harmless_of_opening)).mono (fun _ _ => id) ?_
    fun _ _ during => during.1
  intro _ w₁ h₁
  rw [always_bind]
  refine h₁.dropOrganization.mono (fun _ _ => id) ?_ fun _ _ during => during.1
  rintro _ w₂ ⟨during, absent⟩
  rw [always_bind, always_cluster]
  refine ⟨fun _ => absent, fun reply after allowed => ?_⟩
  -- The finalizer may be gone now: the invariant rests on the absent organization alone.
  have kept : b.Kept after := ⟨during.1.fixed.keep allowed, .inl (absent.keep rfl allowed)⟩
  cases reply with
  | ok _ => exact kept
  | error e => exact kept

/-- **A namespace is provisioned** under its finalizer, which nothing in provisioning lets go. -/
theorem During.provisionBy (h : b.During n w) (turns : Turns)
    (held : n.metadata.finalizedBy Marks.finalizer = true) :
    (NamespacePass.provisionBy turns object spec name).Always (World.disturbed b.Edit) b.Safe
      (fun _ after => b.Kept after) (fun _ after => b.Kept after) w := by
  unfold NamespacePass.provisionBy
  rw [always_bind]
  refine (h.step (Pass.connect_only.mono fun _ => harmless_of_opening)).mono (fun _ _ => id) ?_
    fun _ _ during => during.1
  intro _ w₁ h₁
  cases Registry.host spec.hostname with
  | error e => exact h₁.1
  | ok host =>
    dsimp only
    rw [always_bind]
    -- Provisioning may make the organization, so the invariant rests on the finalizer alone.
    have stays : ∀ {p : Provisioning} {question}, p.Asks question → question.releases = false := by
      intro p question asks
      cases asks <;> rfl
    have kept : ∀ w, b.Fixed w ∧ b.Held w → b.Kept w := fun w h => ⟨h.1, .inr h.2⟩
    refine ((Provisioning.stepsBy_only turns).always ?_ ⟨h₁.1.fixed, h₁.2 held⟩).mono
      (fun _ _ asks => .of_stays (stays asks)) (fun _ => kept) (fun _ => kept)
    intro question w reply after asks allowed h
    exact ⟨h.1.keep allowed, h.2.keep (stays asks) allowed⟩

end Phases

/-! ## Passes -/

/-- **A pass keeps the invariant**, and lets the finalizer go only when the organization is
absent. -/
theorem passBy_always (turns : Turns) (kept : b.Kept w)
    (stored : w.cluster.namespaces.get? b.ns = some n) :
    (NamespacePass.passBy turns n).Always (World.disturbed b.Edit) b.Safe
      (fun _ after => b.Kept after) w := by
  have h : b.During n w := ⟨kept, fun held => ⟨n, stored, held⟩⟩
  have named : n.metadata.displayName = b.ns := kept.fixed.named n stored
  have run : (NamespacePass.stepBy turns n).Always (World.disturbed b.Edit) b.Safe
      (fun _ after => b.Kept after) (fun _ after => b.Kept after) w := by
    unfold NamespacePass.stepBy
    rw [always_bind]
    refine h.integration.mono (fun _ _ => id) ?_ fun _ _ during => during.1
    rintro i w₁ ⟨h₁, bound⟩
    have own : i.spec.organization n.metadata.displayName = b.organization := by
      rw [named, IntegrationSpec.organization, bound, organization]
    unfold NamespacePass.inPhaseBy
    cases phase : NamespacePhase.of n (i.spec.allows n.metadata.displayName) with
    | unmanaged | initializing | gone => exact (always_pure Action.awaitChange).mpr h₁.1
    | pending => exact h₁.takeIn.mono (fun _ _ => id) (fun _ _ h => h.1) fun _ _ h => h.1
    | terminating => exact h₁.release own
    | managed => exact h₁.provisionBy turns (NamespacePhase.finalizedBy_of_managed phase)
  refine Pass.always_reporting (run.mono (fun _ _ => id) (fun _ _ => id) ?_)
  exact fun failure after kept => ⟨.of_stays rfl, fun _ _ => kept.keep rfl rfl⟩

/-! ## Runs -/

/-- **The worlds that a run leads to**, from one without the organization: others edit the world, or
a pass goes over the namespace as it is stored, its service accounts taking turns in some way, and
ends in any way in which it may. -/
inductive Lifetime (b : Bond) : World → Prop
  | start {w : World} (fixed : b.Fixed w) (absent : b.Absent w) : Lifetime b w
  | edit {w after : World} (before : Lifetime b w) (edited : b.Edit w after) : Lifetime b after
  | pass {w after : World} {n : Namespace} {result : Except Failure Action} (turns : Turns)
    (before : Lifetime b w) (stored : w.cluster.namespaces.get? b.ns = some n)
    (run : (NamespacePass.passBy turns n).Ends (World.disturbed b.Edit) w result after) :
    Lifetime b after

/-- The invariant holds as long as the namespace lives. -/
theorem Lifetime.kept (h : b.Lifetime w) : b.Kept w := by
  induction h with
  | start fixed absent => exact ⟨fixed, .inl absent⟩
  | edit _ edited ih => exact edited.kept ih
  | pass turns _ stored run ih => exact (passBy_always turns ih stored).of_ends run

/-- **No organization is left behind.** After any run of passes and edits, where any call may have
failed before or after it took effect and service accounts may have taken turns in any way, an
organization that is there has its namespace under the finalizer. Whatever a further pass is answered,
it lets the finalizer go only while the organization is absent. -/
theorem no_organization_left_behind (h : b.Lifetime w) :
    (w.registry.organizations.contains b.organization = true → b.Held w) ∧
      ∀ (turns : Turns) n, w.cluster.namespaces.get? b.ns = some n →
        (NamespacePass.passBy turns n).Always (World.disturbed b.Edit) b.Safe
          (fun _ after =>
            after.registry.organizations.contains b.organization = true → b.Held after) w := by
  have guarded : ∀ {w}, b.Kept w →
      w.registry.organizations.contains b.organization = true → b.Held w := by
    intro w kept there
    rcases kept.guarded with absent | held
    · exact absurd there (Bool.eq_false_iff.mp absent)
    · exact held
  exact ⟨guarded h.kept, fun turns n stored =>
    (passBy_always turns h.kept stored).mono (fun _ _ => id) fun _ _ => guarded⟩

/-! ## A namespace that is rejected once it is bridged -/

section Rejected

open NamespacePass (acme begun shop)

/-- The namespace that is bridged, to the registry of one integration. -/
def shopBond : Bond :=
  ⟨"shop", "acme", "[::1]"⟩

/-- A namespace that the bridge has not yet seen. -/
def entered : World :=
  { begun with
    cluster := { begun.cluster with
      namespaces := [("shop", { metadata := { name := some "shop" } })] } }

/-- The namespace is taken in. -/
def takenIn : World :=
  (World.run (NamespacePass.pass { metadata := { name := some "shop" } }) entered).2

/-- The namespace is provisioned. -/
def provisioned : World :=
  (World.run (NamespacePass.pass shop) takenIn).2

/-- The namespace is now listed as one to be left alone, and its deletion has been asked for. -/
def rejected : World :=
  { provisioned with
    cluster := { provisioned.cluster with
      integrations := [{ acme with spec := { acme.spec with denied := ["shop"] } }]
      namespaces := provisioned.cluster.namespaces.insert "shop"
        { shop with metadata := { shop.metadata with deletionTimestamp := some default } } } }

/-- A pass that nobody disturbs, in which service accounts come one after another. -/
theorem Lifetime.run (h : b.Lifetime w) (stored : w.cluster.namespaces.get? b.ns = some n) :
    b.Lifetime (World.run (NamespacePass.pass n) w).2 := by
  have alone : (NamespacePass.passBy .inOrder n).Ends (World.disturbed b.Edit) w
      (World.run (NamespacePass.pass n) w).1 (World.run (NamespacePass.pass n) w).2 := by
    rw [NamespacePass.passBy_inOrder]
    exact World.ends_run b.Edit (NamespacePass.pass n) w
  exact .pass .inOrder h stored alone

theorem lifetime_provisioned : shopBond.Lifetime provisioned := by
  have start : shopBond.Lifetime entered := by
    refine .start ⟨?_, ?_⟩ (show _ = false by decide +kernel)
    · rintro n stored
      obtain rfl := Option.some.inj stored
      rfl
    · simp [entered, begun, acme, shopBond]
  have taken : shopBond.Lifetime takenIn := start.run rfl
  have stored : takenIn.cluster.namespaces.get? shopBond.ns = some shop := by decide +kernel
  exact taken.run stored

theorem lifetime_rejected : shopBond.Lifetime rejected := by
  have denied := lifetime_provisioned.edit
    (edit_integrations [{ acme with spec := { acme.spec with denied := ["shop"] } }]
      lifetime_provisioned.kept.fixed (by simp [acme, shopBond]))
  exact denied.edit (edit_namespace denied.kept.fixed rfl fun _ => by decide)

/-- The organization is there, and the namespace waits for the bridge. -/
theorem rejected_held :
    shopBond.Lifetime rejected ∧
      rejected.registry.organizations.contains shopBond.organization = true ∧
      shopBond.Held rejected := by
  have there : rejected.registry.organizations.contains shopBond.organization = true := by
    decide +kernel
  exact ⟨lifetime_rejected, there, (no_organization_left_behind lifetime_rejected).1 there⟩

end Rejected

end Bond

end RegistryBridge
