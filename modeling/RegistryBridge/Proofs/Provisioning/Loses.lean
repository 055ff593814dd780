import RegistryBridge.Proofs.Pass.Loses
import RegistryBridge.Proofs.Provisioning.Asks
import RegistryBridge.Proofs.Provisioning.Turns
/-!
# How provisioning may be lost

Every failure of provisioning regards the object that the pass is over, and the pass is tried again
after it. So it is in whatever way service accounts take turns.

## Main results

* `Provisioning.roleStep_loses`: how the steps for one service account may be lost.
* `Provisioning.stepsBy_loses`, `Provisioning.stepsBy_only`: how provisioning may be lost, and what it
  asks.
-/

namespace RegistryBridge.Provisioning

variable {p : Provisioning}

theorem organizationStep_loses : p.organizationStep.Loses (Failure.Ordinary p.object) := by
  refine .bind (.registry fun _ => ⟨rfl, rfl⟩) fun found => .ite (.pure _) ?_
  refine .ite (.bind (.registry fun _ => ⟨rfl, rfl⟩) fun made => ?_) (.fail ⟨rfl, rfl⟩)
  exact .ite (.bind (.fail ⟨rfl, rfl⟩) fun _ => .tell _ _ _) (.tell _ _ _)

theorem robotOf_loses (account : String) (body : Option Registry.Robot) :
    (Step.of (p.robotOf account body)).Loses (Failure.Ordinary p.object) := by
  cases body with
  | none => exact .fail ⟨rfl, rfl⟩
  | some robot => rintro _ ⟨⟩

theorem robotStep_loses (account : String) :
    (p.robotStep account).Loses (Failure.Ordinary p.object) := by
  refine .bind (.registry fun _ => ⟨rfl, rfl⟩) fun found => .ite (robotOf_loses _ _) ?_
  refine .ite (.bind (.registry fun _ => ⟨rfl, rfl⟩) fun made => ?_) (.fail ⟨rfl, rfl⟩)
  exact .ite (robotOf_loses _ _) (.fail ⟨rfl, rfl⟩)

theorem prototypeStep_loses (robot : String) (role : Registry.Role) :
    (p.prototypeStep robot role).Loses (Failure.Ordinary p.object) := by
  refine .bind (.registry fun _ => ⟨rfl, rfl⟩) fun found => .ite (.fail ⟨rfl, rfl⟩) ?_
  refine .ite (.pure _) (.bind (.registry fun _ => ⟨rfl, rfl⟩) fun made => ?_)
  exact .ite (.fail ⟨rfl, rfl⟩) (.pure _)

theorem pullSecretStep_loses (account : String) (robot : Registry.Robot) :
    (p.pullSecretStep account robot).Loses (Failure.Ordinary p.object) := by
  refine .bind (.cluster fun _ => ⟨rfl, rfl⟩) fun found => ?_
  exact .ite (.pure _) (.cluster fun _ => ⟨rfl, rfl⟩)

theorem linkStep_loses (account : String) :
    (p.linkStep account).Loses (Failure.Ordinary p.object) := by
  refine .bind (.cluster fun _ => ⟨rfl, rfl⟩) fun found => ?_
  cases found with
  | none => exact .fail ⟨rfl, rfl⟩
  | some existing =>
    dsimp only
    cases ServiceAccount.linksWith existing (p.spec.pullSecretName account) with
    | none => exact .pure _
    | some links => exact .cluster fun _ => ⟨rfl, rfl⟩

theorem roleStep_loses (account : String) (role : Registry.Role) :
    (p.roleStep account role).Loses (Failure.Ordinary p.object) := by
  refine .bind (robotStep_loses account) fun robot => ?_
  refine .bind (prototypeStep_loses robot.name role) fun _ => ?_
  exact .bind (pullSecretStep_loses account robot) fun _ => linkStep_loses account

theorem repositoryStep_loses (name : String) :
    (p.repositoryStep name).Loses (Failure.Ordinary p.object) := by
  refine .bind (.registry fun _ => ⟨rfl, rfl⟩) fun found => .ite (.pure _) ?_
  refine .ite (.bind (.registry fun _ => ⟨rfl, rfl⟩) fun made => ?_) (.fail ⟨rfl, rfl⟩)
  exact .ite (.fail ⟨rfl, rfl⟩) (.pure _)

theorem repositories_loses : p.repositories.Loses (Failure.Ordinary p.object) := by
  refine .bind (.cluster fun _ => ⟨rfl, rfl⟩) fun streams => .all fun step mem => ?_
  obtain ⟨stream, -, rfl⟩ := List.mem_map.mp mem
  exact repositoryStep_loses _

/-- Service accounts that take turns are lost with the failure of one of them. -/
theorem fanOut_loses {may : Failure → Prop}
    {woven : Program Bridge ({ role // role ∈ roles } → Except Failure Unit)}
    (weaves : Program.Weaves p.roleProgram woven)
    (each : ∀ role ∈ roles, (p.roleStep role.1 role.2).Loses may) : (fanOut woven).Loses may := by
  have own : ∀ role : { role // role ∈ roles }, (p.roleProgram role).Yields
      fun result => ∀ failure, result = .error failure → may failure :=
    fun role => each role.val role.property
  -- The failure that counts is that of one service account, which is lost as it may be alone.
  refine Program.Yields.bind (weaves.yields own) fun results h failure counted => ?_
  obtain ⟨role, -, lost⟩ := List.mem_map.mp (Step.mem_of_firstFailure counted)
  exact h role failure lost

theorem stepsBy_loses (turns : Turns) : (stepsBy turns p).Loses (Failure.Ordinary p.object) :=
  .bind organizationStep_loses fun _ =>
    .bind (fanOut_loses (turns.weaves p) fun role _ => roleStep_loses role.1 role.2)
      fun _ => repositories_loses

theorem stepsBy_only (turns : Turns) : (stepsBy turns p).Only p.Asks :=
  .bind organizationStep_only fun _ =>
    .bind (fanOut_only (turns.weaves p) fun _ mem => roleStep_only mem) fun _ => repositories_only

end RegistryBridge.Provisioning
