import RegistryBridge.Proofs.Pass.Announced
import RegistryBridge.Proofs.Provisioning.Turns
/-!
# What provisioning tells

Provisioning tells of one change only, that the organization has been made. What it does for service
accounts and for repositories is done silently, in whatever way service accounts take turns.

## Main results

* `Provisioning.roleStep_silent`, `Provisioning.repositories_silent`
* `Provisioning.stepsBy_announces`
-/

namespace RegistryBridge.Provisioning

variable {p : Provisioning}

/-- **The organization is told of** when the registry has answered that it was made. -/
theorem organizationStep_announces : p.organizationStep.Announces p.object := by
  refine .bind (.of_silent (.registry rfl)) fun found => .ite (.pure _) (.ite ?_ (.fail _))
  intro t announced
  rw [Step.always_bind, Step.always_registry_script]
  refine ⟨trivial, fun made => ?_, fun e => announced.silent rfl rfl⟩
  by_cases status : made.status = 201
  · have completes : (Exchange.registry (.createOrganization p.organization) (.ok made)).completes =
        some .organizationCreated := if_pos status
    rw [if_neg (by simpa using status), Step.always_tell_script]
    exact ⟨trivial, announced.told completes nofun _⟩
  · rw [if_pos status]
    exact announced.silent rfl (if_neg status)

/-! ## What is done silently -/

theorem robotStep_silent (account : String) :
    (p.robotStep account).Only fun question => question.isSilent = true := by
  refine .bind (.registry rfl) fun found => .ite (.of _) (.ite ?_ (.fail _))
  exact .bind (.registry rfl) fun made => .ite (.of _) (.fail _)

theorem prototypeStep_silent (robot : String) (role : Registry.Role) :
    (p.prototypeStep robot role).Only fun question => question.isSilent = true := by
  refine .bind (.registry rfl) fun found => .ite (.fail _) (.ite (.pure _) ?_)
  exact .bind (.registry rfl) fun made => .ite (.fail _) (.pure _)

theorem pullSecretStep_silent (account : String) (robot : Registry.Robot) :
    (p.pullSecretStep account robot).Only fun question => question.isSilent = true :=
  .bind (.cluster rfl) fun _ => .ite (.pure _) (.cluster rfl)

theorem linkStep_silent (account : String) :
    (p.linkStep account).Only fun question => question.isSilent = true := by
  refine .bind (.cluster rfl) fun found => ?_
  cases found with
  | none => exact .fail _
  | some existing =>
    dsimp only
    cases ServiceAccount.linksWith existing (p.spec.pullSecretName account) with
    | none => exact .pure _
    | some links => exact .cluster rfl

/-- **What is done for a service account** is done silently. -/
theorem roleStep_silent (account : String) (role : Registry.Role) :
    (p.roleStep account role).Only fun question => question.isSilent = true := by
  refine .bind (robotStep_silent account) fun robot => ?_
  refine .bind (prototypeStep_silent robot.name role) fun _ => ?_
  exact .bind (pullSecretStep_silent account robot) fun _ => linkStep_silent account

theorem repositoryStep_silent (name : String) :
    (p.repositoryStep name).Only fun question => question.isSilent = true := by
  refine .bind (.registry rfl) fun found => .ite (.pure _) (.ite ?_ (.fail _))
  exact .bind (.registry rfl) fun made => .ite (.fail _) (.pure _)

/-- **What is done for repositories** is done silently. -/
theorem repositories_silent : p.repositories.Only fun question => question.isSilent = true := by
  refine .bind (.cluster rfl) fun streams => .all fun step mem => ?_
  obtain ⟨stream, -, rfl⟩ := List.mem_map.mp mem
  exact repositoryStep_silent _

/-! ## All of it -/

/-- **Provisioning tells of what it completes**, in whatever way service accounts take turns. -/
theorem stepsBy_announces (turns : Turns) : (stepsBy turns p).Announces p.object := by
  refine .bind organizationStep_announces fun _ => .bind (.of_silent ?_) fun _ => ?_
  · exact fanOut_only (turns.weaves p) fun role _ => roleStep_silent role.1 role.2
  · exact .of_silent repositories_silent

end RegistryBridge.Provisioning
