import RegistryBridge.Proofs.Provisioning.Settled
import RegistryBridge.Proofs.Provisioning.Turns
import RegistryBridge.Proofs.World.Cell
/-!
# Nothing is done to a namespace that has all it needs

Every step of provisioning first looks whether there is anything to be done. In a settled namespace
each of these looks finds what the step before it has once left: nothing is written, and no event is
published. Since nothing changes, it does not matter in what way service accounts take turns.

## Main results

* `Provisioning.RoleSettled.quiet`: a service account that has all it needs is only asked about.
* `Provisioning.Settled.quiet`: provisioning a settled namespace is quiet.
-/

namespace RegistryBridge

namespace Provisioning

variable {faults : Prop} {p : Provisioning} {account : String} {w : World}

theorem organizationStep_quiet
    (there : w.registry.organizations.contains p.organization = true) :
    p.organizationStep.Quiet faults (fun _ => True) w := by
  refine .bind (.lookup rfl) ?_
  rintro response (⟨status, -⟩ | ⟨hf, status⟩)
  · rw [if_pos there] at status
    rw [if_pos status]
    exact .pure trivial
  · obtain ⟨noHit, noMiss⟩ := RegistryCall.notMem_telling_getOrganization.mp status
    rw [if_neg noHit, if_neg noMiss]
    exact .fail hf

theorem robotStep_quiet {robot : Registry.Robot} (there : p.HasRobot account robot w) :
    (p.robotStep account).Quiet faults (fun found => found = p.named account robot) w := by
  refine .bind (.lookup rfl) ?_
  rintro response (⟨status, -⟩ | ⟨hf, status⟩)
  · rw [show w.registry.robots.get? (robotName p.organization account) = _ from there] at status
    obtain rfl := status
    rw [if_pos rfl]
    exact ⟨rfl, rfl⟩
  · obtain ⟨noHit, noMiss⟩ := RegistryCall.notMem_telling_getRobot.mp status
    rw [if_neg noHit, if_neg noMiss]
    exact .fail hf

theorem prototypeStep_quiet {robot : String} {role : Registry.Role}
    (there : p.HasGrant robot role w) :
    (p.prototypeStep robot role).Quiet faults (fun _ => True) w := by
  refine .bind (.lookup rfl) ?_
  rintro response (⟨rfl, -⟩ | ⟨hf, status⟩)
  · exact Step.Always.ite (fun h => absurd rfl h) fun _ =>
      Step.Always.ite (fun _ => ⟨trivial, rfl⟩) fun lacking => absurd (congrArg some there) lacking
  · rw [if_pos (by simpa [RegistryCall.telling] using status)]
    exact .fail hf

theorem pullSecretStep_quiet {robot : Registry.Robot} (there : p.HasSecret account robot w) :
    (p.pullSecretStep account robot).Quiet faults (fun _ => True) w := by
  obtain ⟨secret, stored, agrees⟩ := there
  refine .bind (.cluster rfl) fun found hfound => ?_
  obtain rfl : found = some secret := hfound.trans stored
  exact Step.Always.ite (fun _ => ⟨trivial, rfl⟩) fun differs => absurd (congrArg some agrees) differs

theorem linkStep_quiet (there : p.HasLinks account w) :
    (p.linkStep account).Quiet faults (fun _ => True) w := by
  obtain ⟨a, stored, linked⟩ := there
  refine .bind (.cluster rfl) fun found hfound => ?_
  obtain rfl : found = some a := hfound.trans stored
  simp only [ServiceAccount.linksWith_eq_none_iff.mpr linked]
  exact .pure trivial

theorem RoleSettled.quiet {role : String × Registry.Role} (h : p.RoleSettled role w) :
    (p.roleStep role.1 role.2).Quiet faults (fun _ => True) w := by
  obtain ⟨robot, stored, grant, secret, links⟩ := h
  refine .bind (robotStep_quiet stored) ?_
  rintro _ rfl
  refine .bind (prototypeStep_quiet grant) fun _ _ => ?_
  exact .bind (pullSecretStep_quiet secret) fun _ _ => linkStep_quiet links

/-- **Service accounts that have all they need** are only asked about, in whatever way they take
turns. -/
theorem fanOut_quiet {woven : Program Bridge ({ role // role ∈ roles } → Except Failure Unit)}
    (weaves : Program.Weaves p.roleProgram woven)
    (settled : ∀ role ∈ roles, p.RoleSettled role w) :
    (fanOut woven).Quiet faults (fun _ => True) w := by
  have alone : ∀ role : { role // role ∈ roles }, (p.roleProgram role).Always (World.conduct faults)
      (fun question _ => question.isQuiet = true)
      (fun result after => (∀ value, result = .ok value → True ∧ after = w) ∧
        ∀ failure, result = .error failure → after = w ∧ faults) w :=
    fun role => Step.Always.result (settled role.val role.property).quiet
  have run := weaves.always_still
    (fun _ _ _ _ quiet allowed => World.eq_of_quiet allowed quiet) alone
  refine (fanOut_always run).mono (fun _ _ => id) ?_ ?_
  · intro _ after ended
    exact ended ⟨("builder", .write), by decide⟩
  · rintro _ after ⟨role, lost⟩
    exact lost

theorem repositoryStep_quiet {name : String} (there : p.RepositorySettled name w) :
    (p.repositoryStep name).Quiet faults (fun _ => True) w := by
  refine .bind (.lookup rfl) ?_
  rintro response (⟨status, -⟩ | ⟨hf, status⟩)
  · rw [if_pos (show w.registry.repositories.contains _ = true from there)] at status
    rw [if_pos status]
    exact .pure trivial
  · obtain ⟨noHit, noMiss⟩ := RegistryCall.notMem_telling_getRepository.mp status
    rw [if_neg noHit, if_neg noMiss]
    exact .fail hf

/-- **Provisioning a settled namespace is quiet**, in whatever way service accounts take turns. -/
theorem Settled.quiet (h : p.Settled w) (turns : Turns) :
    (stepsBy turns p).Quiet faults (fun _ => True) w := by
  refine .bind (organizationStep_quiet h.organization) fun _ _ => ?_
  refine .bind (fanOut_quiet (turns.weaves p) h.roles) fun _ _ => ?_
  refine .bind (.cluster rfl) fun found hfound => ?_
  obtain rfl : found = p.streams w := hfound
  refine .all fun step mem => ?_
  obtain ⟨stream, hstream, rfl⟩ := List.mem_map.mp mem
  exact repositoryStep_quiet (h.repositories stream hstream)

end Provisioning

end RegistryBridge
