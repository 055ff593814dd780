import RegistryBridge.Proofs.Provisioning.Settled
import RegistryBridge.Proofs.World.Conduct
/-!
# The organization and the repositories

In a world with or without faults, the organization is there when the step for it ends with a value,
and so are the repositories of all image streams when theirs does. These steps are lost only when
something fails.

## Main definitions

* `Provisioning.RepositoryFrame`: how far a world may move when repositories are looked after.

## Main results

* `Provisioning.organizationStep_always`, `Provisioning.repositories_always`
-/

namespace RegistryBridge.Provisioning

variable {faults : Prop} {p : Provisioning} {w : World}

/-- The guard of a step of which only the end matters. -/
def anything : Question → World → Prop := fun _ _ => True

/-! ## The organization -/

/-- **The organization is there at the end.** -/
theorem organizationStep_always :
    p.organizationStep.Always (World.conduct faults) anything
      (fun _ after => after.registry.organizations.contains p.organization = true)
      (fun _ _ => faults) w := by
  unfold organizationStep
  rw [Step.always_bind]
  refine Step.Always.lookup rfl trivial ?honest ?unclear fun hf e => hf
  case honest =>
    rintro response ⟨status, -⟩
    by_cases there : w.registry.organizations.contains p.organization
    · rw [if_pos there] at status
      rw [if_pos status]
      exact there
    · -- Only here is something written, and only a status of success is believed.
      rw [if_neg there] at status
      rw [if_neg (by simp [status]), if_pos status, Step.always_bind]
      refine Step.Always.registry trivial ?_ ?_ fun hf e registry _ => hf
      · rintro made registry ⟨hmade, rfl⟩
        rw [if_neg (by simpa using hmade)]
        exact Step.Always.tell trivial (Table.contains_insert_self _ _ _)
      · rintro hf made registry hmade -
        rw [if_pos (by simpa [RegistryCall.telling] using hmade), Step.always_bind,
          Step.always_fail]
        exact hf
  case unclear =>
    rintro hf response status
    obtain ⟨noHit, noMiss⟩ := RegistryCall.notMem_telling_getOrganization.mp status
    rw [if_neg noHit, if_neg noMiss, Step.always_fail]
    exact hf

/-! ## Repositories -/

/-- How far a world may move when repositories are looked after: some are added. -/
def RepositoryFrame (w after : World) : Prop :=
  ∃ repositories : Table Unit,
    (∀ key, w.registry.repositories.contains key = true → repositories.contains key = true) ∧
      after = { w with registry := { w.registry with repositories } }

namespace RepositoryFrame

variable {middle after : World}

theorem refl (w : World) : RepositoryFrame w w :=
  ⟨_, fun _ => id, rfl⟩

theorem trans (h : RepositoryFrame w middle) (h' : RepositoryFrame middle after) :
    RepositoryFrame w after := by
  obtain ⟨repositories, grow, rfl⟩ := h
  obtain ⟨repositories', grow', rfl⟩ := h'
  exact ⟨repositories', fun key there => grow' key (grow key there), rfl⟩

theorem added (key : String) :
    RepositoryFrame w { w with registry := { w.registry with
      repositories := w.registry.repositories.insert key () } } :=
  ⟨_, fun _ there => Table.contains_insert there key (), rfl⟩

theorem repositorySettled {name : String} (h : RepositoryFrame w after)
    (settled : p.RepositorySettled name w) : p.RepositorySettled name after := by
  obtain ⟨repositories, grow, rfl⟩ := h
  exact grow _ settled

end RepositoryFrame

/-- **The repository is there at the end.** -/
theorem repositoryStep_always {name : String} :
    (p.repositoryStep name).Always (World.conduct faults) anything
      (fun _ after => RepositoryFrame w after ∧ p.RepositorySettled name after)
      (fun _ after => RepositoryFrame w after ∧ faults) w := by
  have same := RepositoryFrame.refl w
  have left : ∀ {registry}, w.registry.Leaves (.createRepository p.organization name) registry →
      RepositoryFrame w { w with registry } := by
    rintro registry (rfl | ⟨_, -, rfl⟩)
    · exact same
    · exact .added _
  unfold repositoryStep
  rw [Step.always_bind]
  refine Step.Always.lookup rfl trivial ?honest ?unclear fun hf e => ⟨same, hf⟩
  case honest =>
    rintro response ⟨status, -⟩
    by_cases there : w.registry.repositories.contains (qualified p.organization name)
    · rw [if_pos there] at status
      rw [if_pos status]
      exact ⟨same, there⟩
    · rw [if_neg there] at status
      have h200 : response.status ≠ 200 := by rcases status with h | h <;> simp [h]
      rw [if_neg h200, if_pos status, Step.always_bind]
      refine Step.Always.registry trivial ?_ ?_ fun hf e registry h => ⟨left h, hf⟩
      · rintro made registry ⟨hmade, rfl⟩
        rw [if_neg (by simpa using hmade)]
        exact ⟨.added _, Table.contains_insert_self _ _ _⟩
      · rintro hf made registry hmade h
        rw [if_pos (by simpa [RegistryCall.telling] using hmade), Step.always_fail]
        exact ⟨left h, hf⟩
  case unclear =>
    rintro hf response status
    obtain ⟨noHit, noMiss⟩ := RegistryCall.notMem_telling_getRepository.mp status
    rw [if_neg noHit, if_neg noMiss, Step.always_fail]
    exact ⟨same, hf⟩

/-- **Every image stream has its repository at the end.** -/
theorem repositories_always :
    p.repositories.Always (World.conduct faults) anything
      (fun _ after => ∀ stream ∈ p.streams after,
        p.RepositorySettled stream.metadata.displayName after)
      (fun _ _ => faults) w := by
  have moved : ∀ {l : List ImageStream} {after}, Step.Moves (fun _ => RepositoryFrame) l w after →
      RepositoryFrame w after := fun h => h.keep (fun _ _ _ _ frame h => h.trans frame) (.refl w)
  unfold repositories
  rw [Step.always_bind]
  refine Step.Always.cluster (w.cluster.answer_of_read rfl) trivial ?_ fun hf e => ⟨hf, hf⟩
  refine (Step.Always.all (fun _ => True) (fun _ => RepositoryFrame)
    (fun (stream : ImageStream) => p.RepositorySettled stream.metadata.displayName)
    (fun _ => faults) (fun _ _ _ _ => repositoryStep_always) (fun _ _ _ _ _ => id) ?stands
    trivial).mono (fun _ _ => id) ?_ fun _ _ h => h.2
  case stands => exact List.pairwise_of_forall fun _ _ _ _ frame => frame.repositorySettled
  rintro _ after ⟨moves, settled⟩
  -- The image streams are still those that this step has been told of.
  obtain ⟨repositories, -, rfl⟩ := moved moves
  exact settled

end RegistryBridge.Provisioning
