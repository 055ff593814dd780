import RegistryBridge.Proofs.Lifetime.Warrant
import RegistryBridge.Proofs.Provisioning.Loses
import RegistryBridge.Proofs.World.Cell
/-!
# What a pass over a namespace reaches

Once a pass knows which integration counts, it calls the registry about one organization only, writes
nothing in the cluster but the namespace and what lies inside it, and tells of nothing but the
namespace. So it is whatever it is told, and whichever part of its life the namespace is in.

In terms of cells, there are those that belong to the namespace, and a few that all namespaces share;
these are only read.

## Main definitions

* `World.Cell.Inside`: the cells of a cluster that are a namespace or lie inside it.
* `NamespacePass.Asks`: the questions of a pass once it knows the integration.
* `NamespacePass.Confined`: a question that is about one namespace.
* `NamespacePass.Belongs`, `NamespacePass.Shared`: the cells of a namespace, and those of all of them.

## Main results

* `NamespacePass.passBy_opens`: how a pass begins.
* `NamespacePass.inPhaseBy_asks`: what it asks then.
* `NamespacePass.stepBy_loses`: how it may be lost.
* `NamespacePass.Asks.confined`, `NamespacePass.Asks.cell`
-/

namespace RegistryBridge

/-- The cells of a cluster that are a namespace or lie inside it. -/
def World.Cell.Inside (ns : String) : World.Cell → Prop
  | .namespaceNamed name => name = ns
  | .secret key | .serviceAccount key => ∃ name, key = qualified ns name
  | _ => False

namespace NamespacePass

variable {n : Namespace} {i : Integration}

/-! ## What a pass asks, once it knows the integration -/

/-- **The questions of a pass over a namespace** once it knows which integration counts. -/
inductive Asks (n : Namespace) (i : Integration) : Question → Prop
  | credentials {entry : SecretKey} (named : i.spec.credentials = some entry) :
    Asks n i (.cluster (.getSecret entry.ns entry.name))
  | connect (token : String) : Asks n i (.connect i.spec.hostname token i.spec.insecure)
  | provision {host : String} {question : Question}
    (asks : (provisioning n i host).Asks question) : Asks n i question
  | organization {call : RegistryCall}
    (own : call.organization = i.spec.organization n.metadata.displayName) :
    Asks n i (.registry call)
  | holdFinalizer : Asks n i (.cluster (.holdFinalizer n.metadata.displayName Marks.finalizer))
  | releaseFinalizer :
    Asks n i (.cluster (.releaseFinalizer n.metadata.displayName Marks.finalizer))
  | tell {event : Event} (own : event.object = Resource.reference n) : Asks n i (.publish event)

theorem connect_asks : (Pass.connect (Resource.reference n) i.spec).Only (Asks n i) := by
  unfold Pass.connect
  cases named : i.spec.credentials with
  | none => exact .fail _
  | some entry =>
    refine .bind (.cluster (.credentials named)) fun found => ?_
    cases found with
    | none => exact .fail _
    | some secret =>
      dsimp only
      cases Credentials.token secret entry with
      | error e => exact .fail _
      | ok token => exact ⟨.connect token, fun _ => trivial⟩

theorem takeIn_asks :
    (takeIn (Resource.reference n) i.spec n.metadata.displayName).Only (Asks n i) :=
  .bind (.cluster .holdFinalizer) fun _ => .bind (.tell (.tell rfl)) fun _ => .pure _

theorem dropOrganization_asks :
    (dropOrganization (Resource.reference n) (i.spec.organization n.metadata.displayName)).Only
      (Asks n i) := by
  refine .bind (.registry (.organization rfl)) fun found => .ite (.pure _) (.ite ?_ (.fail _))
  refine .bind (.registry (.organization rfl)) fun gone => ?_
  exact .ite (.bind (.fail _) fun _ => .tell (.tell rfl)) (.tell (.tell rfl))

theorem release_asks :
    (release (Resource.reference n) i.spec n.metadata.displayName).Only (Asks n i) :=
  .bind connect_asks fun _ => .bind dropOrganization_asks fun _ =>
    .bind (.cluster .releaseFinalizer) fun _ => .pure _

theorem provisionBy_asks (turns : Turns) :
    (provisionBy turns (Resource.reference n) i.spec n.metadata.displayName).Only (Asks n i) := by
  refine .bind connect_asks fun _ => ?_
  cases Registry.host i.spec.hostname with
  | error e => exact .fail _
  | ok host =>
    have provisions := Provisioning.stepsBy_only (p := provisioning n i host) turns
    exact .bind (provisions.mono fun _ => .provision) fun _ => .pure _

/-- **Once it knows the integration, a pass asks nothing else**, whatever it is told. -/
theorem inPhaseBy_asks (turns : Turns) (phase : NamespacePhase) :
    (inPhaseBy turns (Resource.reference n) i.spec n.metadata.displayName phase).Only (Asks n i) := by
  cases phase with
  | managed => exact provisionBy_asks turns
  | pending => exact takeIn_asks
  | terminating => exact release_asks
  | unmanaged | initializing | gone => exact .pure _

/-! ## How a pass may be lost -/

section Loses

variable {object : ObjectReference} {spec : IntegrationSpec} {name : String}

theorem takeIn_loses : (takeIn object spec name).Loses (Failure.Ordinary object) :=
  .bind (.cluster fun _ => ⟨rfl, rfl⟩) fun _ => .bind (.tell _ _ _) fun _ => .pure _

theorem dropOrganization_loses (organization : String) :
    (dropOrganization object organization).Loses (Failure.Ordinary object) := by
  refine .bind (.registry fun _ => ⟨rfl, rfl⟩) fun found => .ite (.pure _) ?_
  refine .ite (.bind (.registry fun _ => ⟨rfl, rfl⟩) fun gone => ?_) (.fail ⟨rfl, rfl⟩)
  exact .ite (.bind (.fail ⟨rfl, rfl⟩) fun _ => .tell _ _ _) (.tell _ _ _)

theorem release_loses : (release object spec name).Loses (Failure.Ordinary object) :=
  .bind Pass.connect_loses fun _ => .bind (dropOrganization_loses _) fun _ =>
    .bind (.cluster fun _ => ⟨rfl, rfl⟩) fun _ => .pure _

theorem provisionBy_loses (turns : Turns) :
    (provisionBy turns object spec name).Loses (Failure.Ordinary object) := by
  refine .bind Pass.connect_loses fun _ => ?_
  cases Registry.host spec.hostname with
  | error e => exact .fail ⟨rfl, rfl⟩
  | ok host =>
    have provisions := Provisioning.stepsBy_loses (p := { object, ns := name, host, spec }) turns
    exact .bind provisions fun _ => .pure _

/-- Once it knows the integration, a pass is lost only with a failure of its namespace. -/
theorem inPhaseBy_loses (turns : Turns) (phase : NamespacePhase) :
    (inPhaseBy turns object spec name phase).Loses (Failure.Ordinary object) := by
  cases phase with
  | managed =>
    show (provisionBy turns object spec name).Loses _
    exact provisionBy_loses turns
  | pending => exact takeIn_loses
  | terminating => exact release_loses
  | unmanaged | initializing | gone => exact .pure _

/-- **A failed pass regards its namespace**, and is tried again, whatever it is told. -/
theorem stepBy_loses (turns : Turns) (n : Namespace) :
    (stepBy turns n).Loses (Failure.Ordinary (Resource.reference n)) :=
  .bind Pass.integration_loses fun _ => inPhaseBy_loses turns _

end Loses

/-- **How a pass begins**: it asks which integrations there are, and goes on with the only one. -/
theorem passBy_opens (turns : Turns) (n : Namespace) :
    ∃ next, passBy turns n = .ask (.cluster .listIntegrations) next ∧ ∀ i : Integration,
      next (.ok [i] : Except OperationError (List Integration)) =
        Pass.reporting (inPhaseBy turns (Resource.reference n) i.spec n.metadata.displayName
          (phase n i)) :=
  ⟨_, rfl, fun _ => rfl⟩

/-! ## What a pass is about -/

/-- **A question that is about one namespace**: the registry is called about its organization, the
cluster is written only there, and what is told regards the namespace. -/
def Confined (n : Namespace) (i : Integration) : Question → Prop
  | .cluster call => call.isWrite = true →
    ∃ cell, call.cell? = some cell ∧ cell.Inside n.metadata.displayName
  | .registry call => call.organization = i.spec.organization n.metadata.displayName
  | .connect hostname _ _ => hostname = i.spec.hostname
  | .publish event => event.object = Resource.reference n

theorem Asks.confined {question : Question} (h : Asks n i question) : Confined n i question := by
  cases h with
  | credentials => rintro ⟨⟩
  | connect => rfl
  | organization own | tell own => exact own
  | holdFinalizer | releaseFinalizer => exact fun _ => ⟨_, rfl, rfl⟩
  | @provision host question asks =>
    cases asks with
    | registry own => exact own
    | getSecret | getServiceAccount | listImageStreams => rintro ⟨⟩
    -- The key of a pull secret is read off its own metadata, which name the namespace.
    | applySecret => exact fun _ => ⟨_, rfl, _, Provisioning.key_wanted ..⟩
    | linkServiceAccount => exact fun _ => ⟨_, rfl, _, rfl⟩
    | created => rfl

/-! ## The cells of a namespace -/

/-- **The cells that belong to a namespace**, in the cluster and in the registry. -/
def Belongs (n : Namespace) (i : Integration) : World.Cell → Prop
  | .namespaceNamed name => name = n.metadata.displayName
  | .secret key => ∃ role ∈ roles,
    key = qualified n.metadata.displayName (i.spec.pullSecretName role.1)
  | .serviceAccount key => ∃ name, key = qualified n.metadata.displayName name
  | .organization o | .prototypes o => o = i.spec.organization n.metadata.displayName
  | .robot key => ∃ short, key = robotName (i.spec.organization n.metadata.displayName) short
  | .repository key => ∃ name, key = qualified (i.spec.organization n.metadata.displayName) name
  | .integrations | .imageStreams | .build _ => False

/-- **The cells that all namespaces share.** -/
def Shared (i : Integration) : World.Cell → Prop
  | .integrations | .imageStreams => True
  | .secret key => ∃ entry, i.spec.credentials = some entry ∧ key = qualified entry.ns entry.name
  | _ => False

/-- A call about an organization concerns a cell of its namespace. -/
theorem Belongs.of_registry {call : RegistryCall} {cell : World.Cell}
    (own : call.organization = i.spec.organization n.metadata.displayName)
    (here : call.cell? = some cell) : Belongs n i cell := by
  cases call <;> cases own <;> cases here
  case getOrganization | createOrganization | deleteOrganization | getPrototypes |
      createPrototype => exact rfl
  case getRobot | createRobot | getRepository | createRepository => exact ⟨_, rfl⟩

/-- **A pass concerns cells of its namespace**, and those that all namespaces share only to read
them. -/
theorem Asks.cell {question : Question} {cell : World.Cell} (h : Asks n i question)
    (here : question.cell? = some cell) :
    Belongs n i cell ∨ Shared i cell ∧ question.isQuiet = true := by
  cases h with
  | credentials named =>
    cases here
    exact .inr ⟨⟨_, named, rfl⟩, rfl⟩
  | connect | tell => cases here
  | organization own => exact .inl (.of_registry own here)
  | holdFinalizer | releaseFinalizer =>
    cases here
    exact .inl rfl
  | @provision host question asks =>
    cases asks with
    | registry own => exact .inl (.of_registry own here)
    | getSecret mem =>
      cases here
      exact .inl ⟨_, mem, rfl⟩
    | applySecret mem =>
      cases here
      exact .inl ⟨_, mem, Provisioning.key_wanted ..⟩
    | getServiceAccount | linkServiceAccount =>
      cases here
      exact .inl ⟨_, rfl⟩
    | listImageStreams =>
      cases here
      exact .inr ⟨trivial, rfl⟩
    | created => cases here

end NamespacePass

end RegistryBridge
