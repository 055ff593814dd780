import RegistryBridge.Proofs.Pass.Only
import RegistryBridge.Proofs.Provisioning.Settled
/-!
# What provisioning asks at all

Whatever it is told, provisioning a namespace calls the registry only about the namespace's own
organization, and deletes nothing there. In the cluster it reads and writes the pull secrets and the
service accounts of the platform in that namespace, and reads its image streams.

## Main definitions

* `Provisioning.Asks`: the questions of provisioning.

## Main results

* `Provisioning.organizationStep_only`, `Provisioning.roleStep_only`, `Provisioning.repositories_only`:
  provisioning has no others.
-/

namespace RegistryBridge.Provisioning

variable {p : Provisioning}

/-- **The questions of provisioning.** -/
inductive Asks (p : Provisioning) : Question → Prop
  | registry {call : RegistryCall} (own : call.organization = p.organization)
    (gentle : call ≠ .deleteOrganization p.organization) : Asks p (.registry call)
  | getSecret {role : String × Registry.Role} (mem : role ∈ roles) :
    Asks p (.cluster (.getSecret p.ns (p.spec.pullSecretName role.1)))
  | applySecret {role : String × Registry.Role} (mem : role ∈ roles) (user token : String) :
    Asks p (.cluster (.applySecret (p.wanted role.1 user token)))
  | getServiceAccount {role : String × Registry.Role} (mem : role ∈ roles) :
    Asks p (.cluster (.getServiceAccount p.ns role.1))
  | linkServiceAccount {role : String × Registry.Role} (mem : role ∈ roles) (links : SecretLinks) :
    Asks p (.cluster (.linkServiceAccount p.ns role.1 links))
  | listImageStreams : Asks p (.cluster (.listImageStreams p.ns))
  | created (note : String) : Asks p (.publish (Transition.organizationCreated.event p.object note))

/-- A call of the registry that is about the organization and deletes nothing. -/
theorem registry_only {call : RegistryCall} {failure : RegistryError → Failure}
    (own : call.organization = p.organization)
    (gentle : call ≠ .deleteOrganization p.organization) :
    (Step.registry call failure).Only p.Asks :=
  .registry (.registry own gentle)

theorem organizationStep_only : p.organizationStep.Only p.Asks := by
  refine .bind (registry_only rfl nofun) fun found => .ite (.pure _) (.ite ?_ (.fail _))
  refine .bind (registry_only rfl nofun) fun made => ?_
  exact .ite (.bind (.fail _) fun _ => .tell (.created _)) (.tell (.created _))

section Role

variable {role : String × Registry.Role}

theorem robotStep_only (account : String) : (p.robotStep account).Only p.Asks := by
  refine .bind (registry_only rfl nofun) fun found => .ite (.of _) (.ite ?_ (.fail _))
  exact .bind (registry_only rfl nofun) fun made => .ite (.of _) (.fail _)

theorem prototypeStep_only (robot : String) (role : Registry.Role) :
    (p.prototypeStep robot role).Only p.Asks := by
  refine .bind (registry_only rfl nofun) fun found => .ite (.fail _) (.ite (.pure _) ?_)
  exact .bind (registry_only rfl nofun) fun made => .ite (.fail _) (.pure _)

theorem pullSecretStep_only (mem : role ∈ roles) (robot : Registry.Robot) :
    (p.pullSecretStep role.1 robot).Only p.Asks := by
  refine .bind (.cluster (.getSecret mem)) fun found => ?_
  exact .ite (.pure _) (.cluster (.applySecret mem _ _))

theorem linkStep_only (mem : role ∈ roles) : (p.linkStep role.1).Only p.Asks := by
  refine .bind (.cluster (.getServiceAccount mem)) fun found => ?_
  cases found with
  | none => exact .fail _
  | some existing =>
    dsimp only
    cases ServiceAccount.linksWith existing (p.spec.pullSecretName role.1) with
    | none => exact .pure _
    | some links => exact .cluster (.linkServiceAccount mem links)

theorem roleStep_only (mem : role ∈ roles) : (p.roleStep role.1 role.2).Only p.Asks := by
  refine .bind (robotStep_only role.1) fun robot => ?_
  refine .bind (prototypeStep_only robot.name role.2) fun _ => ?_
  exact .bind (pullSecretStep_only mem robot) fun _ => linkStep_only mem

end Role

theorem repositoryStep_only (name : String) : (p.repositoryStep name).Only p.Asks := by
  refine .bind (registry_only rfl nofun) fun found => .ite (.pure _) (.ite ?_ (.fail _))
  exact .bind (registry_only rfl nofun) fun made => .ite (.fail _) (.pure _)

theorem repositories_only : p.repositories.Only p.Asks := by
  refine .bind (.cluster .listImageStreams) fun streams => .all fun step mem => ?_
  obtain ⟨stream, -, rfl⟩ := List.mem_map.mp mem
  exact repositoryStep_only _

end RegistryBridge.Provisioning
