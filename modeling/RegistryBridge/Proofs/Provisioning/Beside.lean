import RegistryBridge.Proofs.Pass.Only
import RegistryBridge.Proofs.Provisioning.Among
import RegistryBridge.Proofs.Provisioning.Hosting
/-!
# What a pass does beside looking after service accounts

A pass that provisions a namespace reads, tells of what it does, and makes an organization and
repositories. None of this touches a robot, a prototype, a pull secret or a service account. What the
service accounts have been given stays, and it can be said of the whole of provisioning what is true
at its end.

## Main definitions

* `Question.Beside`: a question that leaves alone what service accounts have.
* `Provisioning.Proper`: such a question, or one that is due for a service account.
* `Provisioning.Provisioned`: a namespace has all it needs, with the robots that the registry has
  told of.

## Main results

* `Provisioning.stepsBy_provisions`: provisioning that succeeds has provided for everything, and it
  is lost only when something fails or a service account is missing.
-/

namespace RegistryBridge

/-! ## Two readings of one step -/

namespace Step

variable {α σ : Type} {c : Conduct Bridge σ} {asked : Question → σ → Prop} {ends : α → σ → Prop}
  {lost : Failure → σ → Prop} {step : Step α} {state : σ}

/-- A step asks only what it asks at all. -/
theorem Always.restrict {kind : Question → Prop} (h : step.Always c asked ends lost state)
    (only : step.Only kind) :
    step.Always c (fun question s => asked question s ∧ kind question) ends lost state := by
  have every : Program.Always c (fun question _ => kind question) (fun _ _ => True) step.run state :=
    Program.Only.always only (fun _ _ _ _ _ _ _ => trivial) trivial
  exact (Program.Always.and h every).mono (fun _ _ => id) fun _ _ => And.left

/-- **What every question keeps that is asked as it may be**, the step keeps, however it ends. -/
theorem Always.keeping (kept : σ → Prop) (h : step.Always c asked ends lost state)
    (keeps : ∀ question s reply after, asked question s → c.allows question s reply after →
      kept s → kept after)
    (start : kept state) :
    step.Always c (fun question s => asked question s ∧ kept s)
      (fun value s => ends value s ∧ kept s) (fun failure s => lost failure s ∧ kept s) state := by
  refine (Program.Always.keeping h keeps start).mono (fun _ _ => id) ?_
  rintro (failure | value) after ended
  · exact ended
  · exact ended

/-- A step in a world that writes down its exchanges. -/
theorem Always.beside (h : step.Always c asked ends lost state) (t : Transcript Bridge) :
    step.Always c.recorded (fun question s => asked question s.1) (fun value s => ends value s.1)
      (fun failure s => lost failure s.1) (state, t) := by
  refine (Program.Always.beside h t).mono (fun _ _ => id) ?_
  rintro (failure | value) after ended
  · exact ended
  · exact ended

/-- What is said of the world alone does not hang on the exchanges being written down. -/
theorem Always.unrecorded {t : Transcript Bridge}
    (h : step.Always c.recorded (fun question s => asked question s.1)
      (fun value s => ends value s.1) (fun failure s => lost failure s.1) (state, t)) :
    step.Always c asked ends lost state := by
  refine Program.Always.unrecorded (Program.Always.mono h (fun _ _ => id) ?_)
  rintro (failure | value) after ended
  · exact ended
  · exact ended

/-- Nothing is said but what is asked. -/
theorem Only.asks {kind : Question → Prop} (only : step.Only kind) (state : σ) :
    step.Always c (fun question _ => kind question) (fun _ _ => True) (fun _ _ => True) state :=
  only.always (fun _ _ _ _ _ _ => id) trivial

end Step

/-! ## Questions that leave alone what service accounts have -/

/-- **A question that leaves alone what service accounts have**: it only reads, tells of something, or
makes an organization or a repository. -/
inductive Question.Beside : Question → Prop
  | quiet {question : Question} (quiet : question.isQuiet = true) : Beside question
  | tell (event : Event) : Beside (.publish event)
  | createOrganization (o : String) : Beside (.registry (.createOrganization o))
  | createRepository (o name : String) : Beside (.registry (.createRepository o name))

theorem Question.Beside.of_opening {question : Question} (h : Pass.Opening question) :
    question.Beside := by
  cases h <;> exact .quiet rfl

namespace Provisioning

variable {p : Provisioning} {w after : World}

theorem organizationStep_beside : p.organizationStep.Only Question.Beside := by
  refine .bind (.registry (.quiet rfl)) fun found => .ite (.pure _) (.ite ?_ (.fail _))
  refine .bind (.registry (.createOrganization _)) fun made => ?_
  exact .ite (.bind (.fail _) fun _ => .tell (.tell _)) (.tell (.tell _))

theorem repositoryStep_beside (name : String) : (p.repositoryStep name).Only Question.Beside := by
  refine .bind (.registry (.quiet rfl)) fun found => .ite (.pure _) (.ite ?_ (.fail _))
  exact .bind (.registry (.createRepository ..)) fun made => .ite (.fail _) (.pure _)

theorem repositories_beside : p.repositories.Only Question.Beside := by
  refine .bind (.cluster (.quiet rfl)) fun streams => .all fun step mem => ?_
  obtain ⟨stream, -, rfl⟩ := List.mem_map.mp mem
  exact repositoryStep_beside _

/-- **A question that a pass over a managed namespace may ask.** -/
def Proper (p : Provisioning) (question : Question) (w : World) : Prop :=
  question.Beside ∨ ∃ role ∈ roles, p.Due role question w

section Keep

variable {faults : Prop} {question : Question} {reply : question.Answer}

/-- Such questions spare every service account. -/
theorem spares_of_beside (h : question.Beside) (account : String)
    (allowed : (World.conduct faults).allows question w reply after) :
    p.Spares account w after := by
  cases h with
  | quiet quiet =>
    obtain rfl := World.eq_of_quiet allowed quiet
    exact .refl account _
  | tell event => exact .of_elsewhere allowed nofun
  | createOrganization o =>
    refine .of_elsewhere allowed ?_
    rintro _ ⟨⟩ ⟨⟩
  | createRepository o name =>
    refine .of_elsewhere allowed ?_
    rintro _ ⟨⟩ ⟨⟩

/-- An organization that is there stays. -/
theorem Proper.organization (h : p.Proper question w)
    (allowed : (World.conduct faults).allows question w reply after) {o : String}
    (there : w.registry.organizations.contains o = true) :
    after.registry.organizations.contains o = true := by
  have stays : question.cell? ≠ some (.organization o) →
      after.registry.organizations.contains o = true := by
    intro elsewhere
    have same : after.registry.organizations.get? o = w.registry.organizations.get? o :=
      World.content_of_allows allowed elsewhere
    rwa [Table.contains, same]
  rcases h with beside | ⟨role, -, due⟩
  · cases beside with
    | quiet quiet =>
      obtain rfl := World.eq_of_quiet allowed quiet
      exact there
    | tell | createRepository => exact stays (by rintro ⟨⟩)
    | createOrganization o' =>
      rcases World.eq_or_honest_of_allows allowed with rfl | ⟨_, _, _, ⟨-, rfl⟩, -, rfl⟩
      · exact there
      · exact Table.contains_insert there _ _
  · refine stays fun here => ?_
    rcases due.concerns here with owns | same
    · cases owns
    · cases same

/-- A service account that is missing is not made. -/
theorem Proper.missing (h : p.Proper question w)
    (allowed : (World.conduct faults).allows question w reply after) {key : String}
    (absent : w.cluster.serviceAccounts.get? key = none) :
    after.cluster.serviceAccounts.get? key = none := by
  have stays : question.cell? ≠ some (.serviceAccount key) →
      after.cluster.serviceAccounts.get? key = none := by
    intro elsewhere
    have same : after.cluster.serviceAccounts.get? key = w.cluster.serviceAccounts.get? key :=
      World.content_of_allows allowed elsewhere
    rwa [same]
  rcases h with beside | ⟨role, -, due⟩
  · cases beside with
    | quiet quiet =>
      obtain rfl := World.eq_of_quiet allowed quiet
      exact absent
    | tell event => exact stays nofun
    | createRepository => exact stays nofun
    | createOrganization => exact stays nofun
  · cases due with
    | linkServiceAccount backed stored lacks =>
      -- Only an account that has been read is linked.
      refine stays fun here => ?_
      obtain rfl := World.Cell.serviceAccount.inj (Option.some.inj here)
      rw [show w.cluster.serviceAccounts.get? (qualified p.ns role.1) = _ from stored] at absent
      cases absent
    | getServiceAccount =>
      obtain rfl := World.eq_of_quiet allowed rfl
      exact absent
    | getRobot | createRobot | getPrototypes | createPrototype | getSecret | applySecret =>
      exact stays nofun

end Keep

/-! ## All of provisioning -/

/-- **A namespace has all it needs**, with the robots that the registry has told of. -/
structure Provisioned (p : Provisioning) (s : World × Transcript Bridge) : Prop where
  organization : s.1.registry.organizations.contains p.organization = true
  roles : ∀ role ∈ roles, p.Delivered role s
  repositories : ∀ stream ∈ p.streams s.1, p.RepositorySettled stream.metadata.displayName s.1

theorem Provisioned.toSettled {s : World × Transcript Bridge} (h : p.Provisioned s) :
    p.Settled s.1 where
  organization := h.organization
  roles role mem := by
    obtain ⟨robot, -, delivered⟩ := h.roles role mem
    exact ⟨robot, delivered⟩
  repositories := h.repositories

/-- What service accounts have been given stays while repositories are looked after. -/
theorem repositories_provisions (faults : Prop) {s : World × Transcript Bridge}
    (there : s.1.registry.organizations.contains p.organization = true)
    (delivered : ∀ role ∈ roles, p.Delivered role s) :
    p.repositories.Always (World.conduct faults).recorded (fun question s => p.Proper question s.1)
      (fun _ s => p.Provisioned s) (fun _ _ => faults) s := by
  have hosts : p.repositories.Always (World.conduct faults) anything
      (fun _ after => ∀ stream ∈ p.streams after,
        p.RepositorySettled stream.metadata.displayName after)
      (fun _ _ => faults) s.1 := repositories_always
  have stays := ((hosts.beside s.2).restrict repositories_beside).keeping
    (fun s => s.1.registry.organizations.contains p.organization = true ∧
      ∀ role ∈ roles, p.Delivered role s) ?keeps ⟨there, delivered⟩
  case keeps =>
    rintro question s reply after ⟨-, beside⟩ ⟨allowed, heard⟩ ⟨there, delivered⟩
    refine ⟨Proper.organization (p := p) (.inl beside) allowed there, fun role mem => ?_⟩
    have more : s.2 <+: after.2 := heard ▸ List.prefix_append _ _
    exact (delivered role mem).later ⟨spares_of_beside beside role.1 allowed, more⟩
  refine stays.mono (fun _ _ h => .inl h.1.2) ?_ fun _ _ h => h.1
  rintro _ s ⟨settled, there, delivered⟩
  exact ⟨there, delivered, settled⟩

/-- **Provisioning that succeeds has provided for everything**, in whatever way service accounts take
turns and whatever fails. It is lost only when something fails or a service account is missing. -/
theorem stepsBy_provisions (faults : Prop) (turns : Turns) (s : World × Transcript Bridge) :
    (stepsBy turns p).Always (World.conduct faults).recorded
      (fun question s => p.Proper question s.1) (fun _ s => p.Provisioned s)
      (fun _ s => faults ∨ ¬ p.HasAccounts s.1) s := by
  unfold stepsBy
  rw [Step.always_bind]
  refine ((organizationStep_always.beside s.2).restrict organizationStep_beside).mono
    (fun _ _ h => .inl h.2) ?_ fun _ _ => .inl
  rintro _ s₁ there
  have delivers := (fanOut_delivers faults (turns.weaves p) (s := s₁)).keeping
    (fun s => s.1.registry.organizations.contains p.organization = true)
    (fun _ _ _ _ due allowed => Proper.organization (.inr due) allowed.1) there
  rw [Step.always_bind]
  refine delivers.mono (fun _ _ h => .inr h.1) ?_ ?_
  · rintro _ s₂ ⟨delivered, there⟩
    exact (repositories_provisions faults there delivered).mono (fun _ _ => id) (fun _ _ => id)
      fun _ _ => .inl
  · rintro _ s₂ ⟨⟨role, mem, hf | absent⟩, -⟩
    · exact .inl hf
    · refine .inr fun there => ?_
      simpa [absent] using there role mem

end Provisioning

end RegistryBridge
