import RegistryBridge.Proofs.Lifetime.Warrant
/-!
# Success is never reported falsely

A pass over a managed namespace collects what has failed: from the organization, from three service
accounts that take turns, from every repository. If it comes back well, nothing has, and the namespace
has all it needs, with the robots that the registry has told of in this very pass. If anything has
failed, or a service account is not there, it comes back with a failure.

## Main definitions

* `NamespacePass.Proper`: what a pass over a managed namespace may ask.

## Main results

* `NamespacePass.passBy_always`: what such a pass asks, and what is true when it succeeds.
* `NamespacePass.pass_truthful`
-/

namespace RegistryBridge.NamespacePass

variable {n : Namespace} {i : Integration} {w : World}

/-- **What a pass over a managed namespace may ask**: what leaves alone what service accounts have, and
what is due for one of them. -/
def Proper (n : Namespace) (i : Integration) (question : Question) (w : World) : Prop :=
  question.Beside ∨ ∃ host, Registry.host i.spec.hostname = .ok host ∧
    ∃ role ∈ roles, (provisioning n i host).Due role question w

/-- A service account that is missing is not made. -/
theorem Proper.missing {faults : Prop} {question : Question} {reply : question.Answer}
    {after : World} (h : Proper n i question w)
    (allowed : (World.conduct faults).allows question w reply after) {key : String}
    (absent : w.cluster.serviceAccounts.get? key = none) :
    after.cluster.serviceAccounts.get? key = none := by
  rcases h with beside | ⟨host, -, due⟩
  · exact Provisioning.Proper.missing (p := provisioning n i "") (.inl beside) allowed absent
  · exact Provisioning.Proper.missing (.inr due) allowed absent

/-! ## What is true when a pass succeeds -/

theorem provisionBy_always (turns : Turns) (s : World × Transcript Bridge) :
    (provisionBy turns (Resource.reference n) i.spec n.metadata.displayName).Always
      (World.conduct True).recorded (fun question s => Proper n i question s.1)
      (fun action s => action = .requeue 600000 ∧ ∃ host,
        Registry.host i.spec.hostname = .ok host ∧ (provisioning n i host).Provisioned s)
      (fun _ _ => True) s := by
  unfold provisionBy
  rw [Step.always_bind]
  refine (Pass.connect_only.asks s).mono (fun _ _ first => .inl (.of_opening first)) ?_
    fun _ _ => id
  rintro _ s₁ -
  cases named : Registry.host i.spec.hostname with
  | error e => trivial
  | ok host =>
    have provisions := Provisioning.stepsBy_provisions (p := provisioning n i host) True turns s₁
    dsimp only
    refine (Step.always_bind _ _).mpr (provisions.mono ?_ ?_ fun _ _ _ => trivial)
    · exact fun _ _ proper => proper.imp_right fun due => ⟨host, named, due⟩
    · exact fun _ s₂ provisioned => ⟨rfl, host, rfl, provisioned⟩

/-- **What a pass over a managed namespace asks, and what is true when it succeeds**, in whatever way
service accounts take turns and whatever fails. -/
theorem passBy_always (turns : Turns) (only : w.cluster.integrations = [i])
    (managed : phase n i = .managed) (t : Transcript Bridge) :
    (passBy turns n).Always (World.conduct True).recorded
      (fun question s => Proper n i question s.1)
      (fun result s => ∀ action, result = .ok action → action = .requeue 600000 ∧ ∃ host,
        Registry.host i.spec.hostname = .ok host ∧ (provisioning n i host).Provisioned s)
      (w, t) := by
  have run : (stepBy turns n).Always (World.conduct True).recorded
      (fun question s => Proper n i question s.1)
      (fun action s => action = .requeue 600000 ∧ ∃ host,
        Registry.host i.spec.hostname = .ok host ∧ (provisioning n i host).Provisioned s)
      (fun _ _ => True) (w, t) := by
    have lists : (Pass.integration (Resource.reference n)).Quiet True (· = i) w :=
      Pass.integration_quiet only
    unfold stepBy
    rw [Step.always_bind]
    refine (lists.beside t).mono (fun _ _ quiet => .inl (.quiet quiet)) ?_ fun _ _ _ => trivial
    rintro _ s ⟨rfl, -⟩
    rw [show NamespacePhase.of n _ = _ from managed]
    exact provisionBy_always turns s
  refine Pass.always_reporting (run.mono (fun _ _ => id) ?_ fun failure s _ => ?_)
  · rintro action s reached _ ⟨⟩
    exact reached
  · exact ⟨.inl (.tell _), fun _ _ _ => nofun⟩

/-! ## A whole pass -/

/-- **Success is never reported falsely.** Let a registry and a cluster be honest, whatever they hold,
let any calls fail, and let the service accounts take turns in any way. A pass over a managed
namespace that comes back well asks to be repeated in ten minutes, and at its end the organization is
there; every service account of the platform has the robot that the registry has told of in this pass,
a prototype that gives the robot its role, the pull secret that the robot's token calls for, and both
links to it; and every image stream has its repository. If any call has failed, or one of the service
accounts is missing, the pass comes back with a failure. -/
theorem pass_truthful (turns : Turns) (only : w.cluster.integrations = [i])
    (managed : phase n i = .managed) {result : Except Failure Action} {after : World}
    {t : Transcript Bridge}
    (run : (passBy turns n).Ends (World.conduct True).recorded (w, []) result (after, t)) :
    (∀ action, result = .ok action → action = .requeue 600000 ∧ ∃ host,
        Registry.host i.spec.hostname = .ok host ∧
          (provisioning n i host).Provisioned (after, t)) ∧
      ((∃ e ∈ t, e.Fails) ∨ (∃ role ∈ roles, w.cluster.serviceAccounts.get?
          (qualified n.metadata.displayName role.1) = none) →
        ∃ failure, result = .error failure) := by
  have reached := passBy_always turns only managed []
  refine ⟨reached.of_ends run, ?_⟩
  rintro (failed | ⟨role, mem, absent⟩)
  · exact ((passBy_heeds turns n).recorded (World.conduct True) w).of_ends run failed
  · -- The account stays missing, so it is not linked at the end.
    have missing := reached.keeping
      (fun _ _ _ _ proper allowed absent => proper.missing allowed.1 absent) absent
    obtain ⟨succeeds, absent⟩ := missing.of_ends run
    cases result with
    | error failure => exact ⟨failure, rfl⟩
    | ok action =>
      obtain ⟨-, host, -, provisioned⟩ := succeeds action rfl
      obtain ⟨robot, -, -, -, -, a, stored, -⟩ := provisioned.roles role mem
      rw [show after.cluster.serviceAccounts.get? (qualified n.metadata.displayName role.1) = _
        from stored] at absent
      cases absent

/-- The namespace that was provisioned in part is provisioned, and told of nothing that fails. -/
theorem shop_truthful :
    begun.cluster.integrations = [acme] ∧ phase shop acme = .managed ∧
      ∃ after t, (passBy .inOrder shop).Ends (World.conduct True).recorded (begun, [])
          (.ok (.requeue 600000)) (after, t) ∧
        ∃ host, Registry.host acme.spec.hostname = .ok host ∧
          (provisioning shop acme host).Provisioned (after, t) := by
  have managed : phase shop acme = .managed := by decide
  obtain ⟨result, ⟨after, t⟩, run⟩ :=
    Program.exists_ends (World.conduct False).recorded (passBy .inOrder shop) (begun, [])
  obtain ⟨rfl, -⟩ := (Program.Always.beside (ready_begun.passBy_settles .inOrder) []).of_ends run
  have widened : (passBy .inOrder shop).Ends (World.conduct True).recorded (begun, [])
      (.ok (.requeue 600000)) (after, t) :=
    run.widen fun _ _ _ _ ⟨allowed, heard⟩ => ⟨World.allows_with_faults allowed, heard⟩
  exact ⟨rfl, managed, after, t, widened,
    ((pass_truthful .inOrder rfl managed widened).1 _ rfl).2⟩

end RegistryBridge.NamespacePass
