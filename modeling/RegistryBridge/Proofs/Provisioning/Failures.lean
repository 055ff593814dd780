import Mathlib.Data.List.Forall2
import RegistryBridge.Proofs.Lifetime.Warrant
import RegistryBridge.Proofs.Pass.Heard
import RegistryBridge.Proofs.Provisioning.Turns
/-!
# What the failure of a part leaves undone

Once a namespace has its organization, each service account is looked after until something fails for
it, whatever fails for the others. When none has failed, each image stream is looked after, whatever
fails for the others. Of several failures the first counts: in the order of the roles, and in the
order of the image streams.

## Main definitions

* `Exchange.Halts`: the answers that the provisioning of a service account does not get past.
* `Step.FirstFails`: which of several failures is the first.
* `Provisioning.RoleStory`: what is heard for one service account.
* `Provisioning.RepositoryStory`: what is heard for one image stream.

## Main results

* `Step.hears_all_iff`: what is heard when steps are all taken.
* `Provisioning.failures_isolated`
-/

namespace RegistryBridge

/-- **The answers that the provisioning of a service account does not get past**: a failing one, a
robot of which nothing is told, and a service account that is not there. -/
inductive Exchange.Halts : Exchange Bridge → Prop
  | fails {e : Exchange Bridge} (fails : e.Fails) : Halts e
  | untold {organization short : String} {found : Registry.Response Registry.Robot}
    (status : found.status = 200) (empty : found.body = none) :
    Halts (.registry (.getRobot organization short) (.ok found))
  | unmade {organization short : String} {made : Registry.Response Registry.Robot}
    (status : made.status = 201) (empty : made.body = none) :
    Halts (.registry (.createRobot organization short) (.ok made))
  | absent {ns name : String} : Halts (.cluster (.getServiceAccount ns name) (.ok none))

namespace Step

/-! ## The first of several failures -/

/-- **A failure is the first** of several results: those before it are none. -/
def FirstFails (results : List (Except Failure Unit)) (failure : Failure) : Prop :=
  ∃ front back, results = front ++ .error failure :: back ∧ ∀ result ∈ front, result = .ok ()

theorem firstFailure_eq_error_iff {results : List (Except Failure Unit)} {failure : Failure} :
    firstFailure results = .error failure ↔ FirstFails results failure := by
  constructor
  · intro counted
    induction results with
    | nil => cases counted
    | cons result rest ih =>
      cases result with
      | ok value =>
        obtain ⟨front, back, rfl, fine⟩ := ih counted
        exact ⟨.ok value :: front, back, rfl, List.forall_mem_cons.mpr ⟨rfl, fine⟩⟩
      | error first =>
        obtain rfl := Except.error.inj counted
        exact ⟨[], rest, rfl, by simp⟩
  · rintro ⟨front, back, rfl, fine⟩
    induction front with
    | nil => rfl
    | cons result front ih =>
      obtain ⟨rfl, later⟩ := List.forall_mem_cons.mp fine
      exact ih later

/-- What counts is the first failure, or that there is none. -/
theorem firstFailure_cases (results : List (Except Failure Unit)) :
    (∃ failure, FirstFails results failure ∧ firstFailure results = .error failure) ∨
      (∀ result ∈ results, result = .ok ()) ∧ firstFailure results = .ok () := by
  cases counted : firstFailure results with
  | error failure => exact .inl ⟨failure, firstFailure_eq_error_iff.mp counted, rfl⟩
  | ok value => exact .inr ⟨firstFailure_eq_ok_iff.mp counted, rfl⟩

/-- **Steps that are all taken** each hear what they hear alone, one behind the other, whichever of
them fail; and the first failure counts. -/
theorem hears_all_iff {l : List (Step Unit)} {t : Transcript Bridge} {ended : Except Failure Unit} :
    (all l).Hears t ended ↔
      ∃ parts : List (Transcript Bridge × Except Failure Unit),
        List.Forall₂ (fun step part => step.Hears part.1 part.2) l parts ∧
          t = (parts.map Prod.fst).flatten ∧ ended = firstFailure (parts.map Prod.snd) := by
  induction l generalizing t ended with
  | nil =>
    refine Program.hears_done_iff.trans ⟨?_, ?_⟩
    · rintro ⟨rfl, rfl⟩
      exact ⟨[], .nil, rfl, rfl⟩
    · rintro ⟨_, ⟨⟩, rfl, rfl⟩
      exact ⟨rfl, rfl⟩
  | cons step rest ih =>
    refine Program.hears_bind_iff.trans ⟨?_, ?_⟩
    · rintro ⟨first, later, outcome, rfl, run, onward⟩
      obtain ⟨middle, last, counted, rfl, others, finish⟩ := Program.hears_bind_iff.mp onward
      obtain ⟨rfl, rfl⟩ := Program.hears_done_iff.mp finish
      obtain ⟨parts, each, rfl, rfl⟩ := ih.mp others
      refine ⟨(first, outcome) :: parts, .cons run each, by simp, ?_⟩
      cases outcome <;> rfl
    · rintro ⟨_, ⟨⟩ | @⟨_, ⟨first, outcome⟩, _, parts, run, each⟩, rfl, rfl⟩
      -- The others are taken whichever way the first step has ended.
      refine ⟨first, (parts.map Prod.fst).flatten, outcome, by simp, run, ?_⟩
      refine Program.hears_bind_iff.mpr ⟨_, [], _, (List.append_nil _).symm,
        ih.mpr ⟨parts, each, rfl, rfl⟩, Program.hears_done_iff.mpr ⟨rfl, ?_⟩⟩
      cases outcome <;> rfl

end Step

namespace Provisioning

variable {p : Provisioning} {t : Transcript Bridge} {ended : Except Failure Unit}

/-! ## One service account -/

/-- What halts nothing says something. -/
theorem telling_of_not_halts {call : RegistryCall} {response : Registry.Response call.Value}
    (goes : ¬ (Exchange.registry call (.ok response)).Halts) : response.status ∈ call.telling := by
  by_contra unclear
  exact goes (.fails ((Exchange.fails_registry_ok _ _).mpr unclear))

theorem robotStep_halts (account : String) : (p.robotStep account).HaltsAt Exchange.Halts := by
  refine .registry_bind (fun e => .fails (Exchange.fails_registry_error _ e)) (fun found stop => ?_)
    fun found goes => ?_
  · rcases stop with fails | ⟨status, empty⟩
    · have unclear := (Exchange.fails_registry_ok _ _).mp fails
      obtain ⟨noHit, noMiss⟩ := RegistryCall.notMem_telling_getRobot.mp unclear
      rw [if_neg noHit, if_neg noMiss]
      exact ⟨_, rfl⟩
    · rw [if_pos status, empty]
      exact ⟨_, rfl⟩
  -- Now the status says that the robot is there or that it is missing.
  have status := telling_of_not_halts goes
  simp only [RegistryCall.telling, List.mem_cons, List.not_mem_nil, or_false] at status
  by_cases there : found.status = 200
  · rw [if_pos there]
    cases body : found.body with
    | none => exact absurd (.untold there body) goes
    | some robot => exact .of ⟨_, rfl⟩
  · rw [if_neg there, if_pos (status.resolve_left there)]
    refine .registry_bind (fun e => .fails (Exchange.fails_registry_error _ e))
      (fun made stop => ?_) fun made goes => ?_
    · rcases stop with fails | - | ⟨status, empty⟩
      · have unclear := (Exchange.fails_registry_ok _ _).mp fails
        rw [if_neg (by simpa [RegistryCall.telling] using unclear)]
        exact ⟨_, rfl⟩
      · rw [if_pos status, empty]
        exact ⟨_, rfl⟩
    · have status : made.status = 201 := by
        simpa [RegistryCall.telling] using telling_of_not_halts goes
      rw [if_pos status]
      cases body : made.body with
      | none => exact absurd (.unmade status body) goes
      | some robot => exact .of ⟨_, rfl⟩

theorem prototypeStep_halts (robot : String) (role : Registry.Role) :
    (p.prototypeStep robot role).HaltsAt Exchange.Halts := by
  refine .registry_bind (fun e => .fails (Exchange.fails_registry_error _ e)) (fun found stop => ?_)
    fun found goes => ?_
  · obtain ⟨fails⟩ := stop
    have unclear := (Exchange.fails_registry_ok _ _).mp fails
    rw [if_pos (by simpa [RegistryCall.telling] using unclear)]
    exact ⟨_, rfl⟩
  have status : found.status = 200 := by
    simpa [RegistryCall.telling] using telling_of_not_halts goes
  rw [if_neg (not_not.mpr status)]
  split
  · exact .pure _
  · refine .registry_bind (fun e => .fails (Exchange.fails_registry_error _ e))
      (fun made stop => ?_) fun made goes => ?_
    · obtain ⟨fails⟩ := stop
      have unclear := (Exchange.fails_registry_ok _ _).mp fails
      rw [if_pos (by simpa [RegistryCall.telling] using unclear)]
      exact ⟨_, rfl⟩
    · have status : made.status = 200 := by
        simpa [RegistryCall.telling] using telling_of_not_halts goes
      rw [if_neg (not_not.mpr status)]
      exact .pure _

theorem pullSecretStep_halts (account : String) (robot : Registry.Robot) :
    (p.pullSecretStep account robot).HaltsAt Exchange.Halts := by
  refine .cluster_bind (fun e => .fails (Exchange.fails_cluster_error _ e)) (fun found stop => ?_)
    fun found _ => ?_
  · obtain ⟨fails⟩ := stop
    exact absurd fails (Exchange.not_fails_cluster_ok _ _)
  · refine .ite (fun _ => .pure _) fun _ => ?_
    refine .cluster (fun e => .fails (Exchange.fails_cluster_error _ e)) fun value stop => ?_
    obtain ⟨fails⟩ := stop
    exact Exchange.not_fails_cluster_ok _ _ fails

theorem linkStep_halts (account : String) : (p.linkStep account).HaltsAt Exchange.Halts := by
  refine .cluster_bind (fun e => .fails (Exchange.fails_cluster_error _ e)) (fun found stop => ?_)
    fun found goes => ?_
  · cases found with
    | none => exact ⟨_, rfl⟩
    | some existing =>
      obtain ⟨fails⟩ := stop
      exact absurd fails (Exchange.not_fails_cluster_ok _ _)
  · cases found with
    | none => exact absurd .absent goes
    | some existing =>
      dsimp only
      split
      · exact .pure _
      · refine .cluster (fun e => .fails (Exchange.fails_cluster_error _ e)) fun value stop => ?_
        obtain ⟨fails⟩ := stop
        exact Exchange.not_fails_cluster_ok _ _ fails

/-- **A service account is looked after until something fails for it.** -/
theorem roleStep_halts (account : String) (role : Registry.Role) :
    (p.roleStep account role).HaltsAt Exchange.Halts :=
  .bind (robotStep_halts account) fun robot => .bind (prototypeStep_halts robot.name role) fun _ =>
    .bind (pullSecretStep_halts account robot) fun _ => linkStep_halts account

/-- **What is heard for one service account**: what it hears alone, beginning with its robot, up to
the first answer that it does not get past. -/
structure RoleStory (p : Provisioning) (role : String × Registry.Role) (t : Transcript Bridge)
    (ended : Except Failure Unit) : Prop where
  own : (p.roleStep role.1 role.2).Hears t ended
  begun : ∃ reply rest, t = .registry (.getRobot p.organization role.1) reply :: rest
  cut : Step.CutAt Exchange.Halts t ended

theorem roleStory_of_hears {role : String × Registry.Role}
    (run : (p.roleStep role.1 role.2).Hears t ended) : p.RoleStory role t ended := by
  refine ⟨run, ?_, (roleStep_halts role.1 role.2).cutAt run⟩
  obtain ⟨reply, rest, rfl, -⟩ := Program.hears_ask_iff.mp run
  exact ⟨reply, rest, rfl⟩

/-! ## One image stream -/

/-- **What is heard for one image stream**: its repository is looked up, and it is made where the
answer is that it is missing. All else is a failure. -/
inductive RepositoryHeard (p : Provisioning) (name : String) :
    Transcript Bridge → Except Failure Unit → Prop
  | there {found : Registry.Response Registry.Repository} (status : found.status = 200) :
    RepositoryHeard p name [.registry (.getRepository p.organization name) (.ok found)] (.ok ())
  | made {found : Registry.Response Registry.Repository} {made : Registry.Response Unit}
    (missing : found.status = 403 ∨ found.status = 404) (status : made.status = 201) :
    RepositoryHeard p name
      [.registry (.getRepository p.organization name) (.ok found),
        .registry (.createRepository p.organization name) (.ok made)] (.ok ())
  | unmade {found : Registry.Response Registry.Repository}
    {reply : Except RegistryError (Registry.Response Unit)} {failure : Failure}
    (missing : found.status = 403 ∨ found.status = 404)
    (fails : (Exchange.registry (.createRepository p.organization name) reply).Fails) :
    RepositoryHeard p name
      [.registry (.getRepository p.organization name) (.ok found),
        .registry (.createRepository p.organization name) reply] (.error failure)
  | unknown {reply : Except RegistryError (Registry.Response Registry.Repository)}
    {failure : Failure}
    (fails : (Exchange.registry (.getRepository p.organization name) reply).Fails) :
    RepositoryHeard p name [.registry (.getRepository p.organization name) reply] (.error failure)

/-- What is heard for one image stream, which is what it hears alone. -/
structure RepositoryStory (p : Provisioning) (name : String) (t : Transcript Bridge)
    (ended : Except Failure Unit) : Prop where
  own : (p.repositoryStep name).Hears t ended
  heard : p.RepositoryHeard name t ended

theorem repositoryStory_of_hears {name : String} (run : (p.repositoryStep name).Hears t ended) :
    p.RepositoryStory name t ended := by
  refine ⟨run, ?_⟩
  obtain ⟨e, rfl, rfl⟩ | ⟨found, rest, rfl, onward⟩ := Step.hears_registry_bind_iff.mp run
  · exact .unknown (Exchange.fails_registry_error _ e)
  by_cases there : found.status = 200
  · rw [if_pos there] at onward
    obtain ⟨rfl, rfl⟩ := Step.hears_pure_iff.mp onward
    exact .there there
  rw [if_neg there] at onward
  by_cases missing : found.status = 403 ∨ found.status = 404
  · rw [if_pos missing] at onward
    obtain ⟨e, rfl, rfl⟩ | ⟨made, rest, rfl, later⟩ := Step.hears_registry_bind_iff.mp onward
    · exact .unmade missing (Exchange.fails_registry_error _ e)
    by_cases status : made.status = 201
    · rw [if_neg (not_not.mpr status)] at later
      obtain ⟨rfl, rfl⟩ := Step.hears_pure_iff.mp later
      exact .made missing status
    · rw [if_pos status] at later
      obtain ⟨rfl, rfl⟩ := Step.hears_fail_iff.mp later
      exact .unmade missing ((Exchange.fails_registry_ok _ _).mpr (by simpa [RegistryCall.telling]))
  · rw [if_neg missing] at onward
    obtain ⟨rfl, rfl⟩ := Step.hears_fail_iff.mp onward
    refine .unknown ((Exchange.fails_registry_ok _ _).mpr ?_)
    simpa [RegistryCall.telling, there] using missing

/-- **What is heard for all image streams**, one after another in the order of their list, whichever
of them fail; and the first failure counts. -/
inductive RepositoriesStory (p : Provisioning) : Transcript Bridge → Except Failure Unit → Prop
  | unlisted (e : OperationError) :
    RepositoriesStory p [.cluster (.listImageStreams p.ns) (.error e)]
      (.error ((Failure.ofError p.object "Error Retrieving ImageStreams for Namespace" e).detail
        "Namespace" p.ns))
  | listed {streams : List ImageStream} {parts : List (Transcript Bridge × Except Failure Unit)}
    {ended : Except Failure Unit}
    (each : List.Forall₂ (fun stream part =>
      p.RepositoryStory stream.metadata.displayName part.1 part.2) streams parts)
    (counts : (∃ failure, Step.FirstFails (parts.map Prod.snd) failure ∧ ended = .error failure) ∨
      (∀ part ∈ parts, part.2 = .ok ()) ∧ ended = .ok ()) :
    RepositoriesStory p
      (.cluster (.listImageStreams p.ns) (.ok streams) :: (parts.map Prod.fst).flatten) ended

theorem repositoriesStory_of_hears (run : p.repositories.Hears t ended) :
    p.RepositoriesStory t ended := by
  obtain ⟨e, rfl, rfl⟩ | ⟨streams, rest, rfl, onward⟩ := Step.hears_cluster_bind_iff.mp run
  · exact .unlisted e
  obtain ⟨parts, each, rfl, rfl⟩ := Step.hears_all_iff.mp onward
  refine .listed ((List.forall₂_map_left_iff.mp each).imp fun _ _ => repositoryStory_of_hears) ?_
  obtain ⟨failure, first, counted⟩ | ⟨fine, counted⟩ :=
    Step.firstFailure_cases (parts.map Prod.snd)
  · exact .inl ⟨failure, first, counted⟩
  · exact .inr ⟨fun part mem => fine _ (List.mem_map_of_mem mem), counted⟩

/-! ## All of it -/

/-- **What is heard when a namespace is provisioned.** Once the organization is ensured, the service
accounts take turns, each up to the first answer that it does not get past. The first failure counts,
in the order of the roles, and then nothing more is asked. If there is none, the image streams are
looked after. -/
inductive Story (p : Provisioning) : Transcript Bridge → Except Failure Unit → Prop
  | unfounded {founding : Transcript Bridge} {failure : Failure}
    (lost : p.organizationStep.Hears founding (.error failure)) :
    Story p founding (.error failure)
  | failed {founding middle : Transcript Bridge}
    {view : { role // role ∈ roles } → Transcript Bridge}
    {outcome : { role // role ∈ roles } → Except Failure Unit} {failure : Failure}
    (founded : p.organizationStep.Hears founding (.ok ())) (merged : Interleaves view middle)
    (each : ∀ role, p.RoleStory role.val (view role) (outcome role))
    (first : Step.FirstFails (roles.attach.map outcome) failure) :
    Story p (founding ++ middle) (.error failure)
  | supplied {founding middle rest : Transcript Bridge}
    {view : { role // role ∈ roles } → Transcript Bridge}
    {outcome : { role // role ∈ roles } → Except Failure Unit} {ended : Except Failure Unit}
    (founded : p.organizationStep.Hears founding (.ok ())) (merged : Interleaves view middle)
    (each : ∀ role, p.RoleStory role.val (view role) (outcome role))
    (fine : ∀ role, outcome role = .ok ()) (repositories : p.RepositoriesStory rest ended) :
    Story p (founding ++ (middle ++ rest)) ended

/-- The service accounts take turns, and then their results are counted. -/
theorem hears_fanOut {turns : Turns} (run : (fanOut (turns.woven p)).Hears t ended) :
    ∃ (view : { role // role ∈ roles } → Transcript Bridge)
      (outcome : { role // role ∈ roles } → Except Failure Unit),
      Interleaves view t ∧ (∀ role, p.RoleStory role.val (view role) (outcome role)) ∧
        Step.firstFailure (roles.attach.map outcome) = ended := by
  obtain ⟨_, last, outcome, rfl, woven, finish⟩ := Program.hears_bind_iff.mp run
  obtain ⟨rfl, rfl⟩ := Program.hears_done_iff.mp finish
  obtain ⟨view, own, merged⟩ := (turns.weaves p).hears woven
  exact ⟨view, outcome, by simpa using merged, fun role => roleStory_of_hears (own role), rfl⟩

/-- **The failure of a part leaves the other parts to be done**, in whatever order the service
accounts take turns. Each of them begins with its robot and hears what it hears alone; and each
repository is looked up once, in the order of the list, and made once where it is missing. Of several
failures the first counts. -/
theorem failures_isolated {turns : Turns} (run : (stepsBy turns p).Hears t ended) :
    p.Story t ended := by
  obtain ⟨failure, lost, rfl⟩ | ⟨founding, later, _, rfl, founded, onward⟩ :=
    Step.hears_bind_iff.mp run
  · exact .unfounded lost
  obtain ⟨failure, fanned, rfl⟩ | ⟨middle, rest, _, rfl, fanned, repositories⟩ :=
    Step.hears_bind_iff.mp onward
  · obtain ⟨view, outcome, merged, each, counted⟩ := hears_fanOut fanned
    exact .failed founded merged each (Step.firstFailure_eq_error_iff.mp counted)
  · obtain ⟨view, outcome, merged, each, counted⟩ := hears_fanOut fanned
    refine .supplied founded merged each (fun role => ?_) (repositoriesStory_of_hears repositories)
    exact Step.firstFailure_eq_ok_iff.mp counted _
      (List.mem_map_of_mem (List.mem_attach roles role))

/-! ## Two image streams of which nothing comes -/

open NamespacePass (acme begun shop)

/-- The namespace that is provisioned, with an image stream that is listed twice. -/
def crowded : World :=
  { begun with
    cluster := { begun.cluster with
      imageStreams := [{ metadata := { name := some "cart", ns := some "shop" } },
        { metadata := { name := some "till", ns := some "shop" } },
        { metadata := { name := some "cart", ns := some "shop" } }] } }

/-- The repository of one image stream cannot be made, and that of the other one not be looked up. -/
def refusals (question : Question) (w : World) : question.Answer × World :=
  match question with
  | .registry (.createRepository _ "cart") =>
    ((.ok ⟨507, none⟩ : Except RegistryError (Registry.Response Unit)), w)
  | .registry (.getRepository _ "till") =>
    ((.ok ⟨500, none⟩ : Except RegistryError (Registry.Response Registry.Repository)), w)
  | question => w.answer question

/-- What is heard then. -/
def crowdedRun : Except Failure Unit × (World × Transcript Bridge) :=
  Program.run (Program.recording (I := Bridge) refusals)
    (stepsBy .inOrder (NamespacePass.provisioning shop acme "[::1]")).run (crowded, [])

/-- All three are looked up, and what is missing is to be made each time. -/
theorem crowded_isolated :
    (stepsBy .inOrder (NamespacePass.provisioning shop acme "[::1]")).Hears crowdedRun.2.2
        crowdedRun.1 ∧
      [Question.registry (.getRepository "acme_shop" "cart"),
        .registry (.createRepository "acme_shop" "cart"),
        .registry (.getRepository "acme_shop" "till"),
        .registry (.getRepository "acme_shop" "cart"),
        .registry (.createRepository "acme_shop" "cart")] <:+ crowdedRun.2.2.map (·.query) ∧
      (NamespacePass.provisioning shop acme "[::1]").Story crowdedRun.2.2 crowdedRun.1 := by
  have run : (stepsBy .inOrder (NamespacePass.provisioning shop acme "[::1]")).Hears
      crowdedRun.2.2 crowdedRun.1 := Program.hears_recording (I := Bridge) refusals _ _
  exact ⟨run, by decide +kernel, failures_isolated run⟩

end Provisioning

end RegistryBridge
